import UubangIot.Server.IotTalk
import UubangIot.Verif.RsaKeys

/-!
# The RSA codec on stored keys

A key is either all zero, as it is when a connection is accepted, or one that `InitRSA` has stored.
With the first, a block is raised to the power zero, so nothing is divided; with the second the
modulus is at least 128 and every product fits its type. So decoding is defined with both, whatever
is decoded, and encoding with the second.
-/

namespace UubangIot

open MachineInt RsaUtils

/-- The key of a zeroed record, or one that `InitRSA` has made. -/
def StoredKey (key : RSAKey) : Prop :=
  key = ⟨0, 0, 0, 0⟩ ∨ ∃ rand rounds start next, initRSA rand rounds start = some (key, next)

variable {key : RSAKey}

/-- The registers of a stored key. -/
theorem StoredKey.registers (stored : StoredKey key) : key = ⟨0, 0, 0, 0⟩ ∨
    ∃ e d n : Nat, key = ⟨e, d, n, blockBytes n⟩ ∧ 128 ≤ n ∧ n < 10 ^ 8 ∧ d < 10 ^ 8 := by
  rcases stored with zero | ⟨rand, rounds, start, next, made⟩
  · exact .inl zero
  · exact .inr (initRSA_spec made)

/-- A block of any `int` is decoded. -/
theorem StoredKey.decode_defined (stored : StoredKey key) {block : Int} (bound : |block| ≤ 2 ^ 31) :
    ∃ x, decode block key.privateKey key.commonKey = some x := by
  rcases stored.registers with rfl | ⟨e, d, n, rfl, large, small, exponent⟩
  · exact ⟨1, rfl⟩
  · have modulus : (2 : Int) ≤ (n : Int) := by omega
    have one : |(1 : Int)| < (n : Int) := by
      rw [abs_one]
      omega
    have digits : d < 2 ^ 63 := by omega
    obtain ⟨r, computed, -⟩ := modpowLoop_spec modulus (by omega) 63 1 block d digits one bound
    exact ⟨r, computed⟩

/-- One character is unpacked in each round. -/
theorem unpackLoop_length (x : Int) (rounds j : Nat) : (unpackLoop x rounds j).length = rounds := by
  induction rounds generalizing j with
  | zero => rfl
  | succ rounds ih => rw [unpackLoop, List.length_cons, ih]

/-- All blocks of a cryptogram are decoded, into as many characters as they hold. -/
theorem StoredKey.decodeLoop_defined (stored : StoredKey key) (bytes : Nat) {cryptogram : List Int}
    (bounds : ∀ block ∈ cryptogram, |block| ≤ 2 ^ 31) (blocks i : Nat)
    (inside : i + blocks ≤ cryptogram.length) :
    ∃ characters, decodeLoop bytes cryptogram key.privateKey key.commonKey blocks i =
      some characters ∧ characters.length = blocks * bytes := by
  induction blocks generalizing i with
  | zero => exact ⟨[], rfl, (Nat.zero_mul bytes).symm⟩
  | succ blocks ih =>
    have here : i < cryptogram.length := by omega
    obtain ⟨x, decoded⟩ := stored.decode_defined (bounds _ (List.getElem_mem here))
    obtain ⟨rest, later, size⟩ := ih (i + 1) (by omega)
    refine ⟨unpackLoop x bytes 0 ++ rest, ?_, ?_⟩
    · rw [decodeLoop, List.getElem?_eq_getElem here, defined_bind, decoded, defined_bind, later]
      rfl
    · rw [List.length_append, unpackLoop_length, size, Nat.succ_mul, Nat.add_comm]

/-- An `int` that was read from bytes. -/
theorem leInt_bound (source : Bytes) (index : Nat) : |leInt source index| ≤ 2 ^ 31 := by
  have low := Int32.minValue_le_toInt (Int.ofNat ((source.getD (4 * index + 0) 0).toNat +
    256 * (source.getD (4 * index + 1) 0).toNat + 65536 * (source.getD (4 * index + 2) 0).toNat +
    16777216 * (source.getD (4 * index + 3) 0).toNat)).toInt32
  have high := Int32.toInt_lt (Int.ofNat ((source.getD (4 * index + 0) 0).toNat +
    256 * (source.getD (4 * index + 1) 0).toNat + 65536 * (source.getD (4 * index + 2) 0).toNat +
    16777216 * (source.getD (4 * index + 3) 0).toNat)).toInt32
  rw [abs_le]
  exact ⟨low, high.le⟩

/-- Every block is the value of an `int`. -/
theorem cryptogram_bounds (source : Bytes) (copied count : Nat) :
    ∀ block ∈ cryptogram source copied count, |block| ≤ 2 ^ 31 := by
  intro block member
  obtain ⟨index, -, rfl⟩ := List.mem_map.mp member
  exact leInt_bound _ index

/-- Up to a hundred blocks of any field are decoded with a stored key. -/
theorem StoredKey.decodeMessage_defined (stored : StoredKey key) (source : Bytes) {len : Nat}
    (fits : len ≤ 100) :
    ∃ characters, decodeMessage len key.encryptBlockBytes.toNat
        (cryptogram source (4 * len * key.encryptBlockBytes.toNat) 100) key.privateKey
        key.commonKey = some characters ∧
      characters.length = len * key.encryptBlockBytes.toNat := by
  apply stored.decodeLoop_defined _ (cryptogram_bounds _ _ _)
  rw [cryptogram, List.length_map, List.length_range]
  omega

end UubangIot
