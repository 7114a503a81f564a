import Mathlib.Algebra.Order.Group.Unbundled.Int
import Mathlib.Tactic.Linarith

/-!
# Checked signed machine arithmetic

Signed overflow and a zero divisor are undefined in C. An expression is therefore evaluated to
an optional integer: `checked` admits a mathematical result only when it fits the width, and
`rem` refuses a zero divisor and truncates toward zero. A proof that an evaluation is `some`
is a proof that no undefined case was reached.
-/

namespace MachineInt

/-- The two's complement range of a signed width. -/
def Fits (width : Nat) (value : Int) : Prop :=
  -(2 ^ (width - 1) : Int) ≤ value ∧ value < 2 ^ (width - 1)

instance (width : Nat) (value : Int) : Decidable (Fits width value) :=
  inferInstanceAs (Decidable (_ ∧ _))

/-- A mathematical result as a machine value, none on overflow. -/
def checked (width : Nat) (value : Int) : Option Int :=
  if Fits width value then some value else none

/-- A result of type `int`. -/
abbrev int (value : Int) : Option Int := checked 32 value

/-- A result of type `long long`. -/
abbrev long (value : Int) : Option Int := checked 64 value

/-- The remainder, with the sign of the dividend; none for a zero divisor. -/
def rem (left right : Int) : Option Int :=
  if right = 0 then none else some (left.tmod right)

/-- A value in range is its own machine value. -/
theorem checked_of_fits {width : Nat} {value : Int} (fits : Fits width value) :
    checked width value = some value := if_pos fits

/-- An `int` result in symmetric bounds is admitted. -/
theorem int_of_abs_lt {value : Int} (bound : |value| < 2 ^ 31) : int value = some value := by
  obtain ⟨lower, upper⟩ := abs_lt.mp bound
  exact checked_of_fits ⟨lower.le, upper⟩

/-- A `long long` result in symmetric bounds is admitted. -/
theorem long_of_abs_lt {value : Int} (bound : |value| < 2 ^ 63) : long value = some value := by
  obtain ⟨lower, upper⟩ := abs_lt.mp bound
  exact checked_of_fits ⟨lower.le, upper⟩

/-- A natural number below the upper bound is its own `int`. -/
theorem int_natCast {value : Nat} (bound : value < 2 ^ 31) :
    int (value : Int) = some (value : Int) :=
  int_of_abs_lt (by rw [Nat.abs_cast]; exact_mod_cast bound)

/-- A defined intermediate result is passed on. -/
theorem defined_bind {α β : Type} (value : α) (next : α → Option β) :
    (some value >>= next) = next value := by
  rw [Option.bind_eq_bind, Option.bind_some]

/-- A nonzero divisor gives the truncating remainder. -/
theorem rem_of_ne {left right : Int} (nonzero : right ≠ 0) :
    rem left right = some (left.tmod right) := if_neg nonzero

end MachineInt
