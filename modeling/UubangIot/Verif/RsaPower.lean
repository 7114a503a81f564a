import UubangIot.Lib.ModularPower
import UubangIot.Server.RsaUtils
import Mathlib.Data.Int.ModEq

/-!
# Modular exponentiation of the RSA codec

The squaring loop keeps `res * a^b` congruent to its result while every register stays within
its C type: products of two values below the modulus fit `long long`, remainders fit `int`.
On nonnegative arguments the result is the least residue, which is the only form the codec
uses.
-/

namespace UubangIot.RsaUtils

open MachineInt

/-- The magnitude of a truncating remainder is below that of its divisor. -/
theorem tmod_abs_lt (value : Int) {modulus : Int} (positive : 0 < modulus) :
    |value.tmod modulus| < modulus := by
  rw [abs_lt]
  have upper := Int.tmod_lt_of_pos value positive
  have lower := Int.lt_tmod_of_pos value positive
  exact ⟨lower, upper⟩

/-- Truncation does not change the residue class. -/
theorem tmod_modEq (value modulus : Int) : value.tmod modulus ≡ value [ZMOD modulus] := by
  rw [Int.modEq_iff_dvd]
  exact ⟨value.tdiv modulus, by have := Int.mul_tdiv_add_tmod value modulus; omega⟩

/-- A checked product of two bounded factors followed by a remainder is defined, small and in
the product's residue class. -/
theorem mulMod_spec {left right modulus : Int} (large : 2 ≤ modulus)
    (leftBound : |left| ≤ 2 ^ 31) (rightBound : |right| ≤ 2 ^ 31) :
    mulMod left right modulus = some ((left * right).tmod modulus) := by
  have product : |left * right| < 2 ^ 63 := by
    rw [abs_mul]
    calc |left| * |right| ≤ 2 ^ 31 * 2 ^ 31 :=
          mul_le_mul leftBound rightBound (abs_nonneg _) (by norm_num)
      _ < 2 ^ 63 := by norm_num
  simp [mulMod, long_of_abs_lt product, rem_of_ne (show modulus ≠ 0 by omega)]

/-- The loop after enough rounds for the exponent's binary digits: the result is small and
congruent to `res * a^b`, with no overflow on the way, and nonnegative registers stay so. -/
theorem modpowLoop_spec {c : Int} (large : 2 ≤ c) (intModulus : c < 2 ^ 31) (rounds : Nat)
    (res a : Int) (b : Nat) (small : b < 2 ^ rounds) (resBound : |res| < c)
    (aBound : |a| ≤ 2 ^ 31) :
    ∃ r, modpowLoop (rounds + 1) res a b c = some r ∧ |r| < c ∧ r ≡ res * a ^ b [ZMOD c] ∧
      (0 ≤ res → 0 ≤ a → 0 ≤ r) := by
  induction rounds generalizing res a b with
  | zero =>
    obtain rfl : b = 0 := by omega
    refine ⟨res, by simp [modpowLoop], resBound, ?_, fun nonnegative _ => nonnegative⟩
    rw [pow_zero, mul_one]
  | succ rounds ih =>
    by_cases zero : b = 0
    · subst zero
      refine ⟨res, by simp [modpowLoop], resBound, ?_, fun nonnegative _ => nonnegative⟩
      rw [pow_zero, mul_one]
    · have positive : (0 : Int) < b := by omega
      have intRes : |res| ≤ 2 ^ 31 := by omega
      have squared := mulMod_spec large aBound aBound
      have squareBound : |(a * a).tmod c| ≤ 2 ^ 31 := by
        have := tmod_abs_lt (a * a) (show 0 < c by omega)
        omega
      have squareNonneg : 0 ≤ a → 0 ≤ (a * a).tmod c :=
        fun nonnegative => Int.tmod_nonneg _ (mul_nonneg nonnegative nonnegative)
      have halved : (b : Int) / 2 = ((b / 2 : Nat) : Int) := by omega
      have squareClass := tmod_modEq (a * a) c
      by_cases odd : (b : Int) % 2 = 1
      · have multiplied := mulMod_spec large intRes aBound
        have productBound := tmod_abs_lt (res * a) (show 0 < c by omega)
        have admitted : int ((res * a).tmod c) = some ((res * a).tmod c) :=
          int_of_abs_lt (by omega)
        obtain ⟨r, computed, bound, congruent, nonneg⟩ :=
          ih ((res * a).tmod c) ((a * a).tmod c) (b / 2) (by omega) productBound squareBound
        refine ⟨r, ?_, bound, ?_, ?_⟩
        · rw [modpowLoop, if_pos positive, if_pos odd, multiplied, squared, halved]
          simpa only [Option.bind_some, admitted, Option.bind_eq_bind] using computed
        · have exponent : b = 2 * (b / 2) + 1 := by omega
          calc r ≡ (res * a).tmod c * ((a * a).tmod c) ^ (b / 2) [ZMOD c] := congruent
            _ ≡ res * a * (a * a) ^ (b / 2) [ZMOD c] :=
              (tmod_modEq _ _).mul (squareClass.pow _)
            _ = res * a ^ (2 * (b / 2) + 1) := by rw [pow_succ, pow_mul, pow_two]; ring
            _ = res * a ^ b := by rw [← exponent]
        · intro resNonneg aNonneg
          exact nonneg (Int.tmod_nonneg _ (mul_nonneg resNonneg aNonneg)) (squareNonneg aNonneg)
      · obtain ⟨r, computed, bound, congruent, nonneg⟩ :=
          ih res ((a * a).tmod c) (b / 2) (by omega) resBound squareBound
        refine ⟨r, ?_, bound, ?_, fun resNonneg aNonneg => nonneg resNonneg (squareNonneg aNonneg)⟩
        · rw [modpowLoop, if_pos positive, if_neg odd, squared, halved]
          simpa only [Option.bind_some, Option.bind_eq_bind] using computed
        · have exponent : b = 2 * (b / 2) := by omega
          calc r ≡ res * ((a * a).tmod c) ^ (b / 2) [ZMOD c] := congruent
            _ ≡ res * (a * a) ^ (b / 2) [ZMOD c] := Int.ModEq.rfl.mul (squareClass.pow _)
            _ = res * a ^ (2 * (b / 2)) := by rw [pow_mul, pow_two]
            _ = res * a ^ b := by rw [← exponent]

/-- On natural arguments `modpow` is the least residue of the power. -/
theorem modpow_nat {a b c : Nat} (large : 2 ≤ c) (intModulus : c < 2 ^ 31) (base : a < 2 ^ 31)
    (exponent : b < 2 ^ 63) : modpow a b c = some ((a ^ b % c : Nat) : Int) := by
  obtain ⟨r, computed, bound, congruent, nonneg⟩ :=
    modpowLoop_spec (c := (c : Int)) (by omega) (by omega) 63 1 a b exponent
      (by rw [abs_one]; omega) (by rw [Nat.abs_cast]; omega)
  have nonnegative := nonneg (by omega) (by omega)
  rw [abs_of_nonneg nonnegative] at bound
  rw [one_mul] at congruent
  have residue : r % (c : Int) = ((a ^ b % c : Nat) : Int) := by
    rw [congruent.eq]
    push_cast
    rfl
  rw [Int.emod_eq_of_lt nonnegative bound] at residue
  rw [modpow, computed, residue]

/-- `modpow` of every `int` base: no product leaves `long long` and no result leaves `int`; the
result is congruent to the power and smaller than the modulus, and it is the least residue when the
base is not negative. -/
theorem modpow_truncated (a b c : Int) (base : Fits 32 a) (exponent : 0 ≤ b ∧ Fits 64 b)
    (large : 2 ≤ c) (modulus : Fits 32 c) :
    ∃ r, modpow a b c = some r ∧ |r| < c ∧ r ≡ a ^ b.toNat [ZMOD c] ∧
      (0 ≤ a → r = a ^ b.toNat % c) := by
  obtain ⟨b, rfl⟩ := Int.eq_ofNat_of_zero_le exponent.1
  have digits : (b : Int) < 2 ^ 63 := exponent.2.2
  have intModulus : c < 2 ^ 31 := modulus.2
  have lower : -2 ^ 31 ≤ a := base.1
  have upper : a < 2 ^ 31 := base.2
  have magnitude : |a| ≤ 2 ^ 31 := abs_le.mpr ⟨lower, upper.le⟩
  have one : |(1 : Int)| < c := by
    rw [abs_one]
    omega
  obtain ⟨r, computed, bound, congruent, nonneg⟩ :=
    modpowLoop_spec large intModulus 63 1 a b (by exact_mod_cast digits) one magnitude
  rw [one_mul] at congruent
  refine ⟨r, computed, bound, congruent, fun nonnegative => ?_⟩
  have least : 0 ≤ r := nonneg (by decide) nonnegative
  rw [abs_of_nonneg least] at bound
  rw [Int.toNat_natCast, ← congruent.eq, Int.emod_eq_of_lt least bound]

/-- A negative base gives a remainder of the right class and size. -/
theorem modpow_truncated_negative :
    ∃ r, modpow (-7) 5 10 = some r ∧ |r| < 10 ∧ r ≡ (-7) ^ (5 : Int).toNat [ZMOD 10] ∧
      (0 ≤ (-7 : Int) → r = (-7) ^ (5 : Int).toNat % 10) :=
  modpow_truncated (-7) 5 10 (by decide) (by decide) (by decide) (by decide)

end UubangIot.RsaUtils
