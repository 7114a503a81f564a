import Mathlib.FieldTheory.Finite.Basic
import Mathlib.Data.Nat.ModEq

/-!
# Powers that fix every residue

An exponent congruent to one modulo `p - 1` fixes every residue modulo a prime `p`, the zero
residue included. Two distinct primes combine by the Chinese remainder theorem. At the square
of a prime the statement fails: every larger power sends the prime itself to zero.
-/

namespace ModularPower

/-- An exponent congruent to one modulo `p - 1` fixes every residue modulo `p`. -/
theorem pow_modEq_self_of_prime {p k : Nat} (prime : p.Prime) (positive : 0 < k)
    (unit : k ≡ 1 [MOD p - 1]) (x : Nat) : x ^ k ≡ x [MOD p] := by
  have : Fact p.Prime := ⟨prime⟩
  obtain ⟨rounds, exponent⟩ : ∃ rounds, k = (p - 1) * rounds + 1 := by
    obtain ⟨rounds, excess⟩ := (Nat.modEq_iff_dvd' positive).mp unit.symm
    exact ⟨rounds, by omega⟩
  rw [← ZMod.natCast_eq_natCast_iff, Nat.cast_pow, exponent]
  by_cases zero : (x : ZMod p) = 0
  · rw [zero, pow_succ, mul_zero]
  · rw [pow_succ, pow_mul, ZMod.pow_card_sub_one_eq_one zero, one_pow, one_mul]

/-- An exponent congruent to one modulo `(p - 1) * (q - 1)` fixes every residue modulo the
product of two distinct primes, those not coprime to it included. -/
theorem pow_modEq_self_of_primes {p q k : Nat} (first : p.Prime) (second : q.Prime)
    (distinct : p ≠ q) (positive : 0 < k) (unit : k ≡ 1 [MOD (p - 1) * (q - 1)]) (x : Nat) :
    x ^ k ≡ x [MOD p * q] := by
  have coprime : p.Coprime q := (Nat.coprime_primes first second).mpr distinct
  apply (Nat.modEq_and_modEq_iff_modEq_mul coprime).mp
  constructor
  · exact pow_modEq_self_of_prime first positive (unit.of_mul_right _) x
  · exact pow_modEq_self_of_prime second positive (unit.of_mul_left _) x

/-- Every power above the first sends a number to zero modulo its square. -/
theorem pow_mod_square {p k : Nat} (large : 2 ≤ k) : p ^ k % (p * p) = 0 := by
  rw [← pow_two]
  exact Nat.mod_eq_zero_of_dvd (pow_dvd_pow p large)

end ModularPower
