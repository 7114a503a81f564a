import Mathlib.Data.List.Infix
import Mathlib.Data.List.TakeWhile

/-!
# C strings and byte buffers

A `char` array is the list of its bytes. Its text ends at the first NUL; what follows is kept,
because `StrSplit` and `memcpy` read a fixed length past it. Writing past the end of an array is
not modelled: a write keeps the array's other bytes and nothing else changes.
-/

namespace UubangIot

/-- The bytes of a `char` array. -/
abbrev Bytes := List UInt8

/-- A literal of the source. -/
def text (literal : String) : Bytes := literal.toList.map fun c => c.toNat.toUInt8

/-- The text of an array, up to its terminator. -/
def cstr (array : Bytes) : Bytes := array.takeWhile (· ≠ 0)

/-- `strlen`. -/
def strlen (array : Bytes) : Nat := (cstr array).length

/-- `!strcmp`. -/
def streq (left right : Bytes) : Bool := cstr left = cstr right

/-- `strstr(array, part) != NULL`. -/
def strstr (array part : Bytes) : Bool := part <:+: cstr array

/-- `memcpy(target, source, count)`. -/
def memcpy (target source : Bytes) (count : Nat) : Bytes := source.take count ++ target.drop count

/-- `strcpy` and `sprintf`: the text with its terminator over the front of the array. -/
def strcpy (target source : Bytes) : Bytes :=
  cstr source ++ 0 :: target.drop (strlen source + 1)

/-- A zeroed array. -/
def zeros (size : Nat) : Bytes := List.replicate size 0

/-- `%d`. -/
def decimal (value : Int) : Bytes := text (toString value)

/-- The value of leading decimal digits. -/
def digitsValue (array : Bytes) : Nat :=
  (array.takeWhile fun c => 48 ≤ c ∧ c ≤ 57).foldl (fun value c => value * 10 + (c.toNat - 48)) 0

/-- `atoi`: blanks, a sign, digits; 0 when there are none. The number of a text that no `int` holds,
which is undefined in C, is the number it writes; `outOfInt` finds it where it is used. -/
def atoi (array : Bytes) : Int :=
  match (cstr array).dropWhile fun c => c = 32 ∨ 9 ≤ c ∧ c ≤ 13 with
  | 45 :: rest => -(digitsValue rest)
  | 43 :: rest => digitsValue rest
  | rest => digitsValue rest

/-- Loop of `StrSplit`: the field read so far, and the fields cut at each delimiter. What stands
after the last delimiter is no field. -/
def splitLoop (delim : UInt8) : Bytes → Bytes → List Bytes
  | _, [] => []
  | field, c :: rest =>
    if c = delim then field.reverse :: splitLoop delim [] rest
    else splitLoop delim (c :: field) rest

/-- `StrSplit` — the delimited fields among the first `srcStrLen` bytes. Its allocations are
taken to succeed. -/
def strSplit (srcStr : Bytes) (srcStrLen : Nat) (delim : UInt8) : List Bytes :=
  splitLoop delim [] (srcStr.take srcStrLen)

/-- The delimiters the handlers split at. -/
def tilde : UInt8 := 126
/-- The delimiter `-`. -/
def dash : UInt8 := 45
/-- The delimiter `_`. -/
def underscore : UInt8 := 95

/-- One byte of the PIN that shifts position `i`. -/
def pinByte (pinCode : Bytes) (i : Nat) : UInt8 := pinCode.getD (i % 6) 0

/-- `Encrypt` — shift the first `len` bytes up by the PIN. -/
def encrypt (source : Bytes) (len : Nat) (pinCode : Bytes) : Bytes :=
  (source.take len).mapIdx fun i c => c + pinByte pinCode i

/-- `Decrypt` — shift the first `len` bytes down by the PIN. -/
def decrypt (source : Bytes) (len : Nat) (pinCode : Bytes) : Bytes :=
  (source.take len).mapIdx fun i c => c - pinByte pinCode i

/-- The loop of `Encrypt` and `Decrypt` on one array for both arguments, from an index on. -/
def shiftLoop (shift : UInt8 → UInt8 → UInt8) (pinCode : Bytes) : Nat → Nat → Bytes → Bytes
  | 0, _, array => array
  | rounds + 1, i, array =>
    shiftLoop shift pinCode rounds (i + 1)
      (array.set i (shift (array.getD i 0) (pinByte pinCode i)))

/-- `Encrypt(array, len, pinCode, array)`. -/
def encryptInPlace (array : Bytes) (len : Nat) (pinCode : Bytes) : Bytes :=
  shiftLoop (· + ·) pinCode len 0 array

/-- `Decrypt(array, len, pinCode, array)`. -/
def decryptInPlace (array : Bytes) (len : Nat) (pinCode : Bytes) : Bytes :=
  shiftLoop (· - ·) pinCode len 0 array

/-- `DJBHash` — characters are signed, the hash is a 32-bit unsigned number. -/
def djbHash (str : Bytes) (len : Nat) : Nat :=
  let hash : UInt32 := (str.take len).foldl
    (fun (hash : UInt32) c => (hash <<< 5) + hash + c.toInt8.toInt32.toUInt32) 5381
  hash.toNat % 193400000

end UubangIot
