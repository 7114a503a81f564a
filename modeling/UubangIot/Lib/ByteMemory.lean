import Mathlib.Logic.Function.Basic
import Mathlib.Tactic.Ring

/-!
# Byte memory

A memory of bytes in which numbers are stored least significant byte first, with the range of
addresses that may be accessed. A load or a store that leaves the range has no result, so a
program that runs under a narrower range accesses nothing outside it. `Agrees` compares two
memories on a set of addresses; numbers stored there are the same in both.
-/

namespace ByteMemory

/-- Bytes by address, and the addresses that may be accessed. -/
structure Heap where
  /-- The bytes. -/
  byte : Nat → UInt8
  /-- The first address. -/
  low : Nat
  /-- The address after the last. -/
  high : Nat

/-- The number in the bytes from an address on. -/
def numberAt (byte : Nat → UInt8) (address : Nat) : Nat → Nat
  | 0 => 0
  | width + 1 => (byte address).toNat + 256 * numberAt byte (address + 1) width

namespace Heap

variable {memory later : Heap} {address other width size number : Nat}

/-- The number at an address. -/
def value (memory : Heap) (address width : Nat) : Nat := numberAt memory.byte address width

/-- The memory with a number at an address. -/
def put (memory : Heap) (address width value : Nat) : Heap :=
  { memory with
    byte := fun place =>
      if address ≤ place ∧ place < address + width then
        (value / 256 ^ (place - address) % 256).toUInt8
      else memory.byte place }

/-- The bytes of a number may be accessed. -/
def Admits (memory : Heap) (address width : Nat) : Prop :=
  memory.low ≤ address ∧ address + width ≤ memory.high

instance (memory : Heap) (address width : Nat) : Decidable (memory.Admits address width) :=
  inferInstanceAs (Decidable (_ ∧ _))

/-- Load a number. -/
def load (memory : Heap) (address width : Nat) : Option Nat :=
  if memory.Admits address width then some (memory.value address width) else none

/-- Store a number. -/
def store (memory : Heap) (address width value : Nat) : Option Heap :=
  if memory.Admits address width then some (memory.put address width value) else none

/-- The memory under another range. -/
def within (memory : Heap) (low high : Nat) : Heap := { memory with low, high }

/-- A write leaves the bounds of the memory; the lower one. -/
@[simp]
theorem put_low : (memory.put address width number).low = memory.low := rfl

/-- A write leaves the bounds of the memory; the upper one. -/
@[simp]
theorem put_high : (memory.put address width number).high = memory.high := rfl

/-- Narrower bounds leave the bytes. -/
@[simp]
theorem within_value (low high : Nat) :
    (memory.within low high).value address width = memory.value address width := rfl

/-- A load within the range. -/
theorem load_of_admits (inside : memory.Admits address width) :
    memory.load address width = some (memory.value address width) := if_pos inside

/-- A store within the range. -/
theorem store_of_admits (inside : memory.Admits address width) :
    memory.store address width number = some (memory.put address width number) := if_pos inside

/-- A load outside the range has no result. -/
theorem load_of_not_admits (outside : ¬memory.Admits address width) :
    memory.load address width = none := if_neg outside

/-- The other bytes are kept. -/
theorem put_byte_of_outside {place : Nat} (outside : place < address ∨ address + width ≤ place) :
    (memory.put address width number).byte place = memory.byte place := by
  have untouched : ¬(address ≤ place ∧ place < address + width) := by omega
  exact if_neg untouched

/-! ## Numbers -/

/-- Numbers read from equal bytes are equal. -/
theorem numberAt_congr {byte byte' : Nat → UInt8} {address width : Nat}
    (same : ∀ place, address ≤ place → place < address + width → byte place = byte' place) :
    numberAt byte address width = numberAt byte' address width := by
  induction width generalizing address with
  | zero => rfl
  | succ width ih =>
    have first : byte address = byte' address := same address le_rfl (by omega)
    have rest : numberAt byte (address + 1) width = numberAt byte' (address + 1) width :=
      ih fun place above below => same place (by omega) (by omega)
    rw [numberAt, numberAt, first, rest]

/-- The number whose bytes are the digits of a value is the value, up to the width. -/
theorem numberAt_digits {byte : Nat → UInt8} {address width value : Nat}
    (digits : ∀ i < width, byte (address + i) = (value / 256 ^ i % 256).toUInt8) :
    numberAt byte address width = value % 256 ^ width := by
  induction width generalizing address value with
  | zero => simp [numberAt, Nat.mod_one]
  | succ width ih =>
    have first : (byte address).toNat = value % 256 := by
      have digit := digits 0 (by omega)
      rw [Nat.add_zero, Nat.pow_zero, Nat.div_one] at digit
      rw [digit]
      exact Nat.mod_eq_of_lt (Nat.mod_lt _ (by omega))
    have rest : numberAt byte (address + 1) width = value / 256 % 256 ^ width := by
      refine ih fun i below => ?_
      have digit := digits (i + 1) (by omega)
      rw [show address + 1 + i = address + (i + 1) by omega, digit, Nat.div_div_eq_div_mul,
        Nat.pow_succ']
    rw [numberAt, first, rest, Nat.pow_succ', Nat.mod_mul]

/-- A stored number is read back. -/
theorem value_put_self (fits : number < 256 ^ width) :
    (memory.put address width number).value address width = number := by
  have read : (memory.put address width number).value address width = number % 256 ^ width := by
    refine numberAt_digits fun i below => ?_
    have inside : address ≤ address + i ∧ address + i < address + width := by omega
    have place : address + i - address = i := by omega
    rw [put]
    simp only [inside, and_self, ↓reduceIte, place]
  rw [read, Nat.mod_eq_of_lt fits]

/-- A number elsewhere is kept. -/
theorem value_put_of_disjoint (apart : other + size ≤ address ∨ address + width ≤ other) :
    (memory.put address width number).value other size = memory.value other size := by
  refine numberAt_congr fun place above below => put_byte_of_outside ?_
  omega

/-- A number is as large as its bytes allow. -/
theorem value_lt : memory.value address width < 256 ^ width := by
  rw [value]
  generalize memory.byte = byte
  induction width generalizing address with
  | zero => simp [numberAt]
  | succ width ih =>
    have first : (byte address).toNat < 256 := (byte address).toNat_lt
    have rest : numberAt byte (address + 1) width < 256 ^ width := ih
    rw [numberAt, Nat.pow_succ']
    omega

/-! ## Agreement -/

/-- Two memories with the same range and the same bytes at some addresses. -/
structure Agrees (places : Nat → Prop) (memory later : Heap) : Prop where
  /-- The range begins at the same address. -/
  low : later.low = memory.low
  /-- The range ends at the same address. -/
  high : later.high = memory.high
  /-- The bytes are the same. -/
  byte : ∀ place, places place → later.byte place = memory.byte place

variable {places others : Nat → Prop}

/-- A memory agrees with itself. -/
theorem Agrees.refl (places : Nat → Prop) (memory : Heap) : Agrees places memory memory :=
  ⟨rfl, rfl, fun _ _ => rfl⟩

/-- Agreement passes through a memory between. -/
theorem Agrees.trans {last : Heap} (first : Agrees places memory later)
    (second : Agrees places later last) : Agrees places memory last where
  low := second.low.trans first.low
  high := second.high.trans first.high
  byte place there := (second.byte place there).trans (first.byte place there)

/-- Memories that agree on some places agree on fewer. -/
theorem Agrees.mono (agrees : Agrees places memory later)
    (fewer : ∀ place, others place → places place) : Agrees others memory later where
  low := agrees.low
  high := agrees.high
  byte place there := agrees.byte place (fewer place there)

/-- A store agrees with the memory before it away from its bytes. -/
theorem agrees_put (outside : ∀ place, places place →
    place < address ∨ address + width ≤ place) :
    Agrees places memory (memory.put address width number) :=
  ⟨rfl, rfl, fun place there => put_byte_of_outside (outside place there)⟩

/-- Numbers where the memories agree are the same. -/
theorem Agrees.value (agrees : Agrees places memory later)
    (there : ∀ place, address ≤ place → place < address + width → places place) :
    later.value address width = memory.value address width :=
  numberAt_congr fun place above below => agrees.byte place (there place above below)

/-- Agreement on the addresses of two sets. -/
theorem Agrees.either (first : Agrees places memory later) (second : Agrees others memory later) :
    Agrees (fun place => places place ∨ others place) memory later where
  low := first.low
  high := first.high
  byte place there := there.elim (first.byte place) (second.byte place)

end Heap

end ByteMemory
