import UubangIot.Server.TopServer

/-!
# Writes of handlers into the fields of a record

The handlers decode passwords and copy texts of a packet into the arrays of a record. Here the same
routines have the size of each array checked; a write that leaves its array has no result.
-/

namespace UubangIot

open CheckedArray RsaUtils

/-- `decodeMessage` of `len` blocks of a field, with every byte checked. -/
def decodeInto (key : RSAKey) (target source : Bytes) (len : Nat) : Option Bytes :=
  let bytes := key.encryptBlockBytes.toNat
  (decodeMessage len bytes (cryptogram source (4 * len * bytes) 100) key.privateKey
    key.commonKey).bind fun characters =>
      storeAll target 0 (characters.map fun c => c.toInt8.toUInt8)

/-- `Stringcut(source, 0, 199, payLoad)` into `payLoad[200]`, with every byte checked. -/
def cutInto (source : Bytes) : Option Bytes := stringcut source 0 199 (zeros 200)

/-- The routines with every write checked. -/
abbrev Writers.checked : Writers where
  encode := Writers.source.encode
  decode key target source len next := defined (decodeInto key target source len) next
  print array source next := defined (printInto array source) next
  cut source next := defined (cutInto source) fun _ => Writers.source.cut source next

end UubangIot
