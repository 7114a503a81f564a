import UubangIot.Verif.RsaCodec
import Mathlib.Tactic.Ring

/-!
# Keys drawn by InitRSA

Every search of `InitRSA` after the two primes ends: a totient below 10^8 leaves one of the
primes from 3 to 23 as an exponent, and the extended Euclidean registers never exceed the totient.
The stored exponents are inverse modulo the totient. Nothing compares the two primes, and at
equal primes the totient is not the one of the modulus.
-/

namespace UubangIot.RsaUtils

open MachineInt

/-- The Euclidean loop computes the greatest common divisor. -/
theorem gcdLoop_nat (fuel a b : Nat) (enough : b < fuel) :
    gcdLoop fuel a b = some ((Nat.gcd a b : Nat) : Int) := by
  induction fuel generalizing a b with
  | zero => omega
  | succ fuel ih =>
    rw [gcdLoop]
    by_cases zero : b = 0
    · simp [zero]
    · have remainder : (a : Int).tmod b = ((a % b : Nat) : Int) := (Int.ofNat_tmod a b).symm
      have smaller : a % b < b := Nat.mod_lt _ (by omega)
      rw [if_pos (by exact_mod_cast zero), rem_of_ne (by exact_mod_cast zero), Option.bind_some,
        remainder, ih b (a % b) (by omega), Nat.gcd_comm a b, Nat.gcd_rec b a, Nat.gcd_comm b]

/-- `gcd` on natural arguments returns their greatest common divisor. -/
theorem gcd_nat (a b : Nat) : gcd a b = some ((Nat.gcd a b : Nat) : Int) := by
  rw [gcd, Int.natAbs_natCast]
  exact gcdLoop_nat _ _ _ (by omega)

/-- The candidate after `e` in the exponent search. -/
def nextExponent (e : Nat) : Nat := if (e + 1) % 10000 ≤ 2 then 3 else (e + 1) % 10000

/-- One round of the exponent search at a candidate with a common divisor. -/
theorem randExponentLoop_next (phi fuel e : Nat) (common : Nat.gcd e phi ≠ 1) :
    randExponentLoop phi exponentMax (fuel + 1) e =
      randExponentLoop phi exponentMax fuel (nextExponent e : Int) := by
  have remainder : ((e : Int) + 1).tmod exponentMax = (((e + 1) % 10000 : Nat) : Int) :=
    (Int.ofNat_tmod (e + 1) 10000).symm
  have candidate : (if (((e + 1) % 10000 : Nat) : Int) ≤ 2 then 3
      else (((e + 1) % 10000 : Nat) : Int)) = (nextExponent e : Int) := by
    rw [nextExponent]
    split <;> split <;> omega
  rw [randExponentLoop, gcd_nat, defined_bind, if_neg (by exact_mod_cast common),
    rem_of_ne (by decide), defined_bind, remainder, candidate]

/-- The exponent search stops at a coprime candidate. -/
theorem randExponentLoop_stop (phi fuel e : Nat) (coprime : Nat.gcd e phi = 1) :
    randExponentLoop phi exponentMax (fuel + 1) e = some (e : Int) := by
  rw [randExponentLoop, gcd_nat, defined_bind, if_pos (by exact_mod_cast coprime)]
  rfl

/-- The search from below a coprime candidate ends at it or before. -/
theorem randExponentLoop_reach (phi goal : Nat) (coprime : Nat.gcd goal phi = 1)
    (bounded : goal < 10000) (fuel e : Nat) (past : 2 ≤ e) (below : e ≤ goal)
    (enough : goal - e < fuel) :
    ∃ found : Nat, randExponentLoop phi exponentMax fuel e = some (found : Int) ∧
      Nat.gcd found phi = 1 ∧ e ≤ found ∧ found < 10000 := by
  induction fuel generalizing e with
  | zero => omega
  | succ fuel ih =>
    by_cases stop : Nat.gcd e phi = 1
    · exact ⟨e, randExponentLoop_stop phi fuel e stop, stop, le_rfl, by omega⟩
    · have before : e ≠ goal := fun same => stop (same ▸ coprime)
      have next : nextExponent e = e + 1 := by rw [nextExponent]; split <;> omega
      obtain ⟨found, computed, unit, lower, upper⟩ :=
        ih (e + 1) (by omega) (by omega) (by omega)
      refine ⟨found, ?_, unit, by omega, upper⟩
      rw [randExponentLoop_next phi fuel e stop, next, computed]

/-- The search from any candidate past 2 ends: it meets a coprime candidate below the bound or
wraps to 3 and reaches the given one. -/
theorem randExponentLoop_wrap (phi goal : Nat) (coprime : Nat.gcd goal phi = 1)
    (low : 3 ≤ goal) (bounded : goal < 10000) (fuel e : Nat) (past : 2 ≤ e) (below : e < 10000)
    (enough : 10000 - e + goal < fuel) :
    ∃ found : Nat, randExponentLoop phi exponentMax fuel e = some (found : Int) ∧
      Nat.gcd found phi = 1 ∧ 2 ≤ found ∧ found < 10000 := by
  induction fuel generalizing e with
  | zero => omega
  | succ fuel ih =>
    by_cases stop : Nat.gcd e phi = 1
    · exact ⟨e, randExponentLoop_stop phi fuel e stop, stop, past, below⟩
    · rw [randExponentLoop_next phi fuel e stop]
      by_cases last : e = 9999
      · have next : nextExponent e = 3 := by rw [last]; decide
        obtain ⟨found, computed, unit, lower, upper⟩ :=
          randExponentLoop_reach phi goal coprime bounded fuel 3 (by omega) low (by omega)
        exact ⟨found, by rw [next, computed], unit, by omega, upper⟩
      · have next : nextExponent e = e + 1 := by rw [nextExponent]; split <;> omega
        rw [next]
        exact ih (e + 1) (by omega) (by omega) (by omega)

/-- A positive number below 10^8 leaves one of the odd primes up to 23 coprime to it: their
product is larger. -/
theorem small_exponent (phi : Nat) (positive : 0 < phi) (bounded : phi < 10 ^ 8) :
    ∃ goal, Nat.gcd goal phi = 1 ∧ 3 ≤ goal ∧ goal ≤ 23 := by
  by_contra none
  have divides : ∀ r ∈ (Finset.Icc 3 23).filter Nat.Prime, r ∣ phi := by
    intro r member
    obtain ⟨range, prime⟩ := Finset.mem_filter.mp member
    by_contra free
    exact none ⟨r, prime.coprime_iff_not_dvd.mpr free, Finset.mem_Icc.mp range⟩
  have product : ∏ r ∈ (Finset.Icc 3 23).filter Nat.Prime, r ∣ phi :=
    Finset.prod_primes_dvd phi (fun r member => (Finset.mem_filter.mp member).2.prime) divides
  have value : ∏ r ∈ (Finset.Icc 3 23).filter Nat.Prime, r = 111546435 := by decide +kernel
  have larger := Nat.le_of_dvd positive product
  omega

/-- `randExponent` over an even totient below 10^8 returns an exponent coprime to it; the
exponent is 1 exactly when the draw is, and never 2. -/
theorem randExponent_spec (rand : Nat → Nat) (phi draw : Nat) (positive : 0 < phi)
    (even : 2 ∣ phi) (bounded : phi < 10 ^ 8) :
    ∃ e : Nat, randExponent rand phi exponentMax draw = some ((e : Int), draw + 1) ∧
      Nat.gcd e phi = 1 ∧ 0 < e ∧ e < 10000 ∧ e ≠ 2 ∧ (e = 1 ↔ rand draw % 10000 = 1) := by
  obtain ⟨goal, coprime, low, high⟩ := small_exponent phi positive bounded
  have start : ((rand draw : Nat) : Int).tmod exponentMax =
      ((rand draw % 10000 : Nat) : Int) := (Int.ofNat_tmod (rand draw) 10000).symm
  have notTwo : ∀ e, Nat.gcd e phi = 1 → e ≠ 2 := by
    intro e unit two
    have divides : 2 ∣ Nat.gcd e phi := Nat.dvd_gcd (by omega) even
    omega
  have search : ∃ e : Nat, randExponentLoop phi exponentMax 20000
      ((rand draw % 10000 : Nat) : Int) = some (e : Int) ∧ Nat.gcd e phi = 1 ∧ 0 < e ∧ e < 10000 ∧
      (e = 1 ↔ rand draw % 10000 = 1) := by
    have drawn : rand draw % 10000 < 10000 := Nat.mod_lt _ (by decide)
    generalize rand draw % 10000 = e at drawn
    obtain rfl | rfl | past : e = 0 ∨ e = 1 ∨ 2 ≤ e := by omega
    · have stop : Nat.gcd 0 phi ≠ 1 := by rw [Nat.gcd_zero_left]; omega
      obtain ⟨found, computed, unit, lower, upper⟩ :=
        randExponentLoop_reach phi goal coprime (by omega) 19999 3 (by omega) low (by omega)
      exact ⟨found, by rw [randExponentLoop_next phi 19999 0 stop]; exact computed, unit,
        by omega, upper, by omega⟩
    · have unit : Nat.gcd 1 phi = 1 := Nat.gcd_one_left phi
      exact ⟨1, randExponentLoop_stop phi 19999 1 unit, unit, by omega, by omega, Iff.rfl⟩
    · obtain ⟨found, computed, unit, lower, upper⟩ :=
        randExponentLoop_wrap phi goal coprime low (by omega) 20000 e past drawn (by omega)
      exact ⟨found, computed, unit, by omega, upper, by omega⟩
  obtain ⟨e, computed, unit, lower, upper, one⟩ := search
  refine ⟨e, ?_, unit, lower, upper, notTwo e unit, one⟩
  have rounds : 2 * exponentMax.toNat = 20000 := rfl
  rw [randExponent, rem_of_ne (by decide), defined_bind, start, rounds, computed, defined_bind]
  rfl

/-- `randExponent` over the totient of two odd numbers up to 9999 ends; its exponent is coprime to
the totient and in the promised range exactly when the draw is not one modulo the bound. -/
theorem exponent_in_range_iff (rand : Nat → Nat) (draw : Nat) (p q : Int)
    (first : 3 ≤ p ∧ p ≤ 9999 ∧ p % 2 = 1) (second : 3 ≤ q ∧ q ≤ 9999 ∧ q % 2 = 1) :
    (∃ e next, randExponent rand ((p - 1) * (q - 1)) exponentMax draw = some (e, next) ∧
      3 ≤ e ∧ e ≤ 9999 ∧ Int.gcd e ((p - 1) * (q - 1)) = 1) ↔ rand draw % 10000 ≠ 1 := by
  obtain ⟨p, rfl⟩ := Int.eq_ofNat_of_zero_le (show 0 ≤ p by omega)
  obtain ⟨q, rfl⟩ := Int.eq_ofNat_of_zero_le (show 0 ≤ q by omega)
  have totient : ((p : Int) - 1) * ((q : Int) - 1) = (((p - 1) * (q - 1) : Nat) : Int) := by
    push_cast [Nat.cast_sub (show 1 ≤ p by omega), Nat.cast_sub (show 1 ≤ q by omega)]
    rfl
  have low : 2 * 2 ≤ (p - 1) * (q - 1) :=
    Nat.mul_le_mul (show 2 ≤ p - 1 by omega) (show 2 ≤ q - 1 by omega)
  have high : (p - 1) * (q - 1) ≤ 9998 * 9998 :=
    Nat.mul_le_mul (show p - 1 ≤ 9998 by omega) (show q - 1 ≤ 9998 by omega)
  have even : 2 ∣ (p - 1) * (q - 1) := Dvd.dvd.mul_right (by omega) _
  obtain ⟨e, computed, coprime, positive, bounded, notTwo, one⟩ :=
    randExponent_spec rand ((p - 1) * (q - 1)) draw (by omega) even (by omega)
  rw [totient, Ne, ← one]
  constructor
  · rintro ⟨e', next, computed', above, -, -⟩ same
    rw [computed] at computed'
    have equal : (e : Int) = e' := congrArg Prod.fst (Option.some.inj computed')
    omega
  · intro other
    refine ⟨e, draw + 1, computed, by omega, by omega, ?_⟩
    rw [Int.gcd_natCast_natCast]
    exact coprime

/-- The primes 13 and 17 with a draw of zero. -/
theorem exponent_in_range_iff_zero :
    (∃ e next, randExponent (fun _ => 0) ((13 - 1) * (17 - 1)) exponentMax 0 = some (e, next) ∧
      3 ≤ e ∧ e ≤ 9999 ∧ Int.gcd e ((13 - 1) * (17 - 1)) = 1) ↔ (fun _ => 0) 0 % 10000 ≠ 1 :=
  exponent_in_range_iff (fun _ => 0) 0 13 17 (by decide) (by decide)

/-- A draw of one is returned as the exponent, with which a block is encrypted to itself. -/
theorem exponent_one_drawn :
    randExponent (fun _ => 1) ((13 - 1) * (17 - 1)) exponentMax 0 = some (1, 1) ∧
      (¬∃ e next, randExponent (fun _ => 1) ((13 - 1) * (17 - 1)) exponentMax 0 = some (e, next) ∧
        3 ≤ e ∧ e ≤ 9999 ∧ Int.gcd e ((13 - 1) * (17 - 1)) = 1) ∧
      encode 72 1 (13 * 17) = some 72 := by
  have drawn : randExponent (fun _ => 1) ((13 - 1) * (17 - 1)) exponentMax 0 = some (1, 1) := by
    decide +kernel
  refine ⟨drawn, ?_, by decide +kernel⟩
  rintro ⟨e, next, computed, above, -, -⟩
  rw [drawn] at computed
  have equal : 1 = e := congrArg Prod.fst (Option.some.inj computed)
  omega

/-- Registers of the extended Euclidean loop on `n` and `m`: the coefficients alternate in sign,
and their magnitudes are bounded by the two arguments through the remainders. -/
structure EuclidRegisters (n m a b x y x0 y0 : Nat) (sign : Int) : Prop where
  unit : sign = 1 ∨ sign = -1
  dividend : (a : Int) = sign * (x0 * n - y0 * m)
  divisor : (b : Int) = sign * (y * m - x * n)
  first : x * a + x0 * b = m
  second : y * a + y0 * b = n
  positive : 0 < a
  bound : x0 ≤ m

/-- The registers at the start of `inverse`. -/
theorem EuclidRegisters.initial {n m : Nat} (positive : 0 < n) (bound : 0 < m) :
    EuclidRegisters n m n m 0 1 1 0 1 where
  unit := Or.inl rfl
  dividend := by simp
  divisor := by simp
  first := by omega
  second := by omega
  positive := positive
  bound := bound

/-- One division keeps the registers, with the opposite sign. -/
theorem EuclidRegisters.next {n m a b x y x0 y0 : Nat} {sign : Int}
    (registers : EuclidRegisters n m a b x y x0 y0 sign) (nonzero : b ≠ 0) :
    EuclidRegisters n m b (a % b) (x0 + a / b * x) (y0 + a / b * y) x y (-sign) where
  unit := by
    rcases registers.unit with rfl | rfl
    · exact Or.inr rfl
    · exact Or.inl (neg_neg 1)
  dividend := by
    rw [registers.divisor]
    ring
  divisor := by
    have division : ((a % b : Nat) : Int) = a - b * (a / b : Nat) := by
      have := congrArg (Nat.cast (R := Int)) (Nat.div_add_mod a b)
      rw [Nat.cast_add, Nat.cast_mul] at this
      omega
    rw [division]
    nth_rewrite 1 [registers.dividend]
    rw [registers.divisor]
    push_cast
    ring
  first := by
    calc (x0 + a / b * x) * b + x * (a % b) = x * (b * (a / b) + a % b) + x0 * b := by ring
      _ = m := by rw [Nat.div_add_mod, registers.first]
  second := by
    calc (y0 + a / b * y) * b + y * (a % b) = y * (b * (a / b) + a % b) + y0 * b := by ring
      _ = n := by rw [Nat.div_add_mod, registers.second]
  positive := Nat.pos_of_ne_zero nonzero
  bound := by
    have := registers.first
    have := Nat.le_mul_of_pos_right x registers.positive
    omega

/-- An update `x0 - q * x` of alternating registers is an `int` when its magnitude is. -/
theorem register_update {q x x0 : Nat} {sign : Int} (unit : sign = 1 ∨ sign = -1)
    (bound : x0 + q * x < 2 ^ 31) :
    int (q * (-sign * x)) = some (q * (-sign * x)) ∧
      int (sign * x0 - q * (-sign * x)) = some (sign * ((x0 + q * x : Nat) : Int)) := by
  have value : sign * x0 - q * (-sign * x) = sign * ((x0 + q * x : Nat) : Int) := by
    push_cast
    ring
  have magnitude : |sign| = 1 := by rcases unit with rfl | rfl <;> rfl
  constructor
  · apply int_of_abs_lt
    rw [abs_mul, abs_mul, abs_neg, magnitude, one_mul, Nat.abs_cast, Nat.abs_cast]
    exact_mod_cast (by omega : q * x < 2 ^ 31)
  · rw [value]
    apply int_of_abs_lt
    rw [abs_mul, magnitude, one_mul, Nat.abs_cast]
    exact_mod_cast bound

/-- The extended Euclidean loop computes a coefficient of the greatest common divisor without
overflow. -/
theorem inverseLoop_spec {n m : Nat} (nBound : n < 2 ^ 31) (mBound : m < 2 ^ 31) (fuel : Nat)
    {a b x y x0 y0 : Nat} {sign : Int}
    (registers : EuclidRegisters n m a b x y x0 y0 sign) (enough : b < fuel) :
    ∃ result : Int,
      inverseLoop fuel a b (-sign * x) (sign * y) (sign * x0) (-sign * y0) = some result ∧
      |result| ≤ m ∧ (m : Int) ∣ result * n - (Nat.gcd a b : Nat) := by
  induction fuel generalizing a b x y x0 y0 sign with
  | zero => omega
  | succ fuel ih =>
    have magnitude : |sign| = 1 := by rcases registers.unit with rfl | rfl <;> rfl
    rw [inverseLoop]
    by_cases zero : b = 0
    · refine ⟨sign * x0, by simp [zero], ?_, ?_⟩
      · rw [abs_mul, magnitude, one_mul, Nat.abs_cast]
        exact_mod_cast registers.bound
      · rw [zero, Nat.gcd_zero_right, registers.dividend]
        exact ⟨sign * y0, by ring⟩
    · have later := registers.next zero
      have xBound : x0 + a / b * x < 2 ^ 31 := by
        have := later.first
        have := Nat.le_mul_of_pos_right (x0 + a / b * x) (Nat.pos_of_ne_zero zero)
        omega
      have yBound : y0 + a / b * y < 2 ^ 31 := by
        have := later.second
        have := Nat.le_mul_of_pos_right (y0 + a / b * y) (Nat.pos_of_ne_zero zero)
        omega
      have opposite : -sign = 1 ∨ -sign = -1 := later.unit
      obtain ⟨qx, xNext⟩ := register_update registers.unit xBound
      obtain ⟨qy, yNext⟩ := register_update opposite yBound
      rw [neg_neg] at qy yNext
      have quotient : (a : Int).tdiv b = ((a / b : Nat) : Int) := (Int.ofNat_tdiv a b).symm
      have remainder : (a : Int).tmod b = ((a % b : Nat) : Int) := (Int.ofNat_tmod a b).symm
      obtain ⟨result, computed, bound, divides⟩ :=
        ih later (Nat.lt_of_lt_of_le (Nat.mod_lt _ (Nat.pos_of_ne_zero zero)) (by omega))
      rw [neg_neg] at computed
      refine ⟨result, ?_, bound, ?_⟩
      · rw [if_pos (by exact_mod_cast zero)]
        simp only [quotient, remainder]
        rw [qx, defined_bind, xNext, defined_bind, qy, defined_bind, yNext, defined_bind]
        exact computed
      · rwa [Nat.gcd_comm a b, Nat.gcd_rec b a, Nat.gcd_comm (a % b) b]

/-- `inverse` returns the least positive inverse. -/
theorem inverse_spec {n m : Nat} (positive : 0 < n) (nBound : n < 2 ^ 31) (large : 2 ≤ m)
    (mBound : m < 2 ^ 31) (coprime : Nat.gcd n m = 1) :
    ∃ d : Nat, inverse n m = some (d : Int) ∧ 0 < d ∧ d < m ∧ n * d ≡ 1 [MOD m] := by
  obtain ⟨x0, computed, bound, divides⟩ := inverseLoop_spec nBound mBound (m + 1)
    (EuclidRegisters.initial positive (by omega)) (by omega)
  rw [coprime] at divides
  have unfolded : inverse n m = if x0 < 0 then int (x0 + m) else some x0 := by
    rw [inverse, Int.natAbs_natCast]
    simp only [neg_one_mul, one_mul, Nat.cast_zero, Nat.cast_one, neg_zero] at computed
    rw [computed, defined_bind]
    rfl
  obtain ⟨lower, upper⟩ := abs_le.mp bound
  obtain ⟨d, value, congruent⟩ : ∃ d : Nat, inverse n m = some (d : Int) ∧
      (d ≤ m ∧ (m : Int) ∣ d * n - 1) := by
    rw [unfolded]
    by_cases negative : x0 < 0
    · obtain ⟨d, shifted⟩ := Int.eq_ofNat_of_zero_le (show 0 ≤ x0 + m by omega)
      refine ⟨d, ?_, by omega, ?_⟩
      · rw [if_pos negative, shifted]
        exact int_natCast (by omega)
      · rw [← shifted, show (x0 + m) * (n : Int) - 1 = (x0 * n - (1 : Nat)) + m * n by
          push_cast; ring]
        exact divides.add (Dvd.intro _ rfl)
    · obtain ⟨d, same⟩ := Int.eq_ofNat_of_zero_le (show 0 ≤ x0 by omega)
      refine ⟨d, by rw [if_neg negative, same], by omega, ?_⟩
      rw [← same]
      exact divides
  obtain ⟨atMost, divides⟩ := congruent
  have notUnit : ∀ k : Int, (m : Int) ∣ m * k - 1 → False := by
    intro k divisor
    have one : (m : Int) ∣ 1 := by
      have := (Dvd.intro k rfl : (m : Int) ∣ m * k).sub divisor
      rwa [sub_sub_cancel] at this
    have := Int.le_of_dvd (by norm_num) one
    omega
  have nonzero : d ≠ 0 := by
    rintro rfl
    exact notUnit 0 (by simpa using divides)
  have notModulus : d ≠ m := by
    rintro rfl
    exact notUnit n divides
  refine ⟨d, value, by omega, by omega, ?_⟩
  refine (Nat.modEq_iff_dvd.mpr ?_).symm
  push_cast
  rwa [mul_comm (n : Int)]

/-- `inverse` of a number with no factor in common with the modulus is its least positive inverse,
and no product or difference on the way leaves `int`. -/
theorem inverse_least_positive (n modulus : Int) (positive : 1 ≤ n) (dividend : Fits 32 n)
    (large : 2 ≤ modulus) (divisor : Fits 32 modulus) (coprime : Int.gcd n modulus = 1) :
    ∃ d, inverse n modulus = some d ∧ 0 < d ∧ d < modulus ∧ n * d ≡ 1 [ZMOD modulus] := by
  obtain ⟨n, rfl⟩ := Int.eq_ofNat_of_zero_le (show 0 ≤ n by omega)
  obtain ⟨m, rfl⟩ := Int.eq_ofNat_of_zero_le (show 0 ≤ modulus by omega)
  have nBound : (n : Int) < 2 ^ 31 := dividend.2
  have mBound : (m : Int) < 2 ^ 31 := divisor.2
  rw [Int.gcd_natCast_natCast] at coprime
  obtain ⟨d, computed, above, below, congruent⟩ :=
    inverse_spec (by omega) (by omega) (by omega) (by omega) coprime
  refine ⟨d, computed, by omega, by omega, ?_⟩
  exact_mod_cast Int.natCast_modEq_iff.mpr congruent

/-- The inverse of seven modulo 192. -/
theorem inverse_least_positive_seven :
    ∃ d, inverse 7 192 = some d ∧ 0 < d ∧ d < 192 ∧ 7 * d ≡ 1 [ZMOD 192] :=
  inverse_least_positive 7 192 (by decide) (by decide) (by decide) (by decide) (by decide)

/-- No round accepts the number one. -/
theorem probablePrime_one (rand : Nat → Nat) (k draw : Nat) :
    probablePrime rand 1 k draw = some (false, draw) := rfl

/-- The prime search returns an odd value from three to the bound. -/
theorem randPrimeLoop_range (rand : Nat → Nat) (fuel : Nat) (prime : Int) (draw : Nat)
    (range : 0 < prime ∧ prime < 10000) (odd : prime % 2 = 1) {result : Int} {next : Nat}
    (found : randPrimeLoop rand singleMax fuel prime draw = some (result, next)) :
    2 < result ∧ result < 10000 ∧ result % 2 = 1 := by
  induction fuel generalizing prime draw with
  | zero => simp [randPrimeLoop] at found
  | succ fuel ih =>
    rw [randPrimeLoop, Option.bind_eq_bind, Option.bind_eq_some_iff] at found
    obtain ⟨⟨accepted, later⟩, tested, found⟩ := found
    cases accepted with
    | true =>
      obtain ⟨rfl, -⟩ : prime = result ∧ later = next := by simpa using found
      have notOne : prime ≠ 1 := by
        rintro rfl
        rw [probablePrime_one] at tested
        simp at tested
      exact ⟨by omega, range.2, odd⟩
    | false =>
      have remainder : (prime + 2).tmod singleMax = (prime + 2) % 10000 :=
        Int.tmod_eq_emod_of_nonneg (by omega)
      have stepped : randPrimeLoop rand singleMax fuel ((prime + 2) % 10000) later =
          some (result, next) := by
        rw [← remainder]
        simpa [rem, singleMax] using found
      exact ih _ later (by omega) (by omega) stepped

/-- `randPrime` returns an odd value from three to `SINGLE_MAX`. -/
theorem randPrime_range {rand : Nat → Nat} {draw next : Nat} {result : Int}
    (found : randPrime rand singleMax draw = some (result, next)) :
    2 < result ∧ result < 10000 ∧ result % 2 = 1 := by
  have start : ((rand draw : Nat) : Int).tmod singleMax = (rand draw : Int) % 10000 :=
    (Int.ofNat_tmod (rand draw) 10000).symm
  have even : singleMax + singleMax.tmod 2 = singleMax := rfl
  rw [randPrime, rem_of_ne (by decide), defined_bind, start, even] at found
  have parity : ((rand draw : Int) % 10000).tmod 2 = (rand draw : Int) % 10000 % 2 :=
    Int.tmod_eq_emod_of_nonneg (by omega)
  rw [parity] at found
  exact randPrimeLoop_range rand _ _ _ (by omega) (by omega) found

/-- The two kept primes are odd values below `SINGLE_MAX` whose product reaches 128. -/
theorem drawPrimes_range {rand : Nat → Nat} {rounds start draw : Nat} {p q : Int}
    (kept : drawPrimes rand rounds start = some (p, q, draw)) :
    (2 < p ∧ p < 10000 ∧ p % 2 = 1) ∧ (2 < q ∧ q < 10000 ∧ q % 2 = 1) ∧ 128 ≤ p * q := by
  induction rounds generalizing start with
  | zero => simp [drawPrimes] at kept
  | succ rounds ih =>
    rw [drawPrimes, Option.bind_eq_bind, Option.bind_eq_some_iff] at kept
    obtain ⟨⟨first, afterFirst⟩, firstDrawn, kept⟩ := kept
    rw [Option.bind_eq_bind, Option.bind_eq_some_iff] at kept
    obtain ⟨⟨second, afterSecond⟩, secondDrawn, kept⟩ := kept
    have firstRange := randPrime_range firstDrawn
    have secondRange := randPrime_range secondDrawn
    have product : int (first * second) = some (first * second) := by
      apply int_of_abs_lt
      rw [abs_of_pos (mul_pos (by omega) (by omega))]
      nlinarith
    simp only [product] at kept
    rw [Option.bind_some] at kept
    by_cases small : first * second < 128
    · rw [if_pos small] at kept
      exact ih kept
    · rw [if_neg small] at kept
      obtain ⟨rfl, rfl, -⟩ : first = p ∧ second = q ∧ afterSecond = draw := by simpa using kept
      exact ⟨firstRange, secondRange, by omega⟩

/-- A key does its work: every block value is below the modulus, and the private exponent
decodes what the public one encoded. -/
def KeyWorks (key : RSAKey) : Prop :=
  128 ^ key.encryptBlockBytes.toNat ≤ key.commonKey ∧
    ∀ x : Int, 0 ≤ x → x < 128 ^ key.encryptBlockBytes.toNat →
      ((encode x key.publicKey key.commonKey).bind
        fun c => decode c key.privateKey key.commonKey) = some x

/-- The key made of two kept primes. -/
theorem makeKey_spec (rand : Nat → Nat) (p q draw : Nat) (pLow : 3 ≤ p) (qLow : 3 ≤ q)
    (pHigh : p < 10000) (qHigh : q < 10000) (pOdd : p % 2 = 1) :
    ∃ e d : Nat,
      makeKey rand p q draw = some (⟨e, d, (p * q : Nat), blockBytes (p * q : Nat)⟩, draw + 1) ∧
      0 < e ∧ e < 10000 ∧ e ≠ 2 ∧ (e = 1 ↔ rand draw % 10000 = 1) ∧
      0 < d ∧ d < (p - 1) * (q - 1) ∧ e * d ≡ 1 [MOD (p - 1) * (q - 1)] := by
  have modulusBound : p * q < 10 ^ 8 := by nlinarith
  have totientLow : 4 ≤ (p - 1) * (q - 1) :=
    Nat.mul_le_mul (show 2 ≤ p - 1 by omega) (show 2 ≤ q - 1 by omega)
  have totientBound : (p - 1) * (q - 1) < 10 ^ 8 :=
    Nat.lt_of_le_of_lt (Nat.mul_le_mul (Nat.sub_le p 1) (Nat.sub_le q 1)) modulusBound
  have even : 2 ∣ (p - 1) * (q - 1) := Dvd.dvd.mul_right (by omega) _
  obtain ⟨e, exponent, coprime, ePositive, eBound, notTwo, one⟩ :=
    randExponent_spec rand ((p - 1) * (q - 1)) draw (by omega) even totientBound
  obtain ⟨d, inverted, dPositive, dBound, congruent⟩ :=
    inverse_spec ePositive (by omega) (by omega) (by omega) coprime
  refine ⟨e, d, ?_, ePositive, eBound, notTwo, one, dPositive, dBound, congruent⟩
  have totient : ((p : Int) - 1) * ((q : Int) - 1) = (((p - 1) * (q - 1) : Nat) : Int) := by
    push_cast [Nat.cast_sub (show 1 ≤ p by omega), Nat.cast_sub (show 1 ≤ q by omega)]
    rfl
  have modulus : int ((p : Int) * q) = some ((p * q : Nat) : Int) := by
    rw [← Nat.cast_mul]
    exact int_natCast (by omega)
  rw [makeKey, modulus, defined_bind, totient, int_natCast (by omega), defined_bind, exponent,
    defined_bind]
  dsimp only
  rw [inverted, defined_bind]
  rfl

/-- What every key of `InitRSA` is made of. -/
theorem initRSA_spec {rand : Nat → Nat} {rounds start next : Nat} {key : RSAKey}
    (generated : initRSA rand rounds start = some (key, next)) :
    ∃ e d n : Nat, key = ⟨e, d, n, blockBytes n⟩ ∧ 128 ≤ n ∧ n < 10 ^ 8 ∧ d < 10 ^ 8 := by
  rw [initRSA, Option.bind_eq_bind, Option.bind_eq_some_iff] at generated
  obtain ⟨⟨p, q, draw⟩, kept, made⟩ := generated
  obtain ⟨⟨pLow, pHigh, pOdd⟩, ⟨qLow, qHigh, -⟩, large⟩ := drawPrimes_range kept
  obtain ⟨p, rfl⟩ := Int.eq_ofNat_of_zero_le (show 0 ≤ p by omega)
  obtain ⟨q, rfl⟩ := Int.eq_ofNat_of_zero_le (show 0 ≤ q by omega)
  obtain ⟨e, d, key, -, -, -, -, -, dBound, -⟩ :=
    makeKey_spec rand p q draw (by omega) (by omega) (by omega) (by omega) (by omega)
  have modulusBound : p * q < 10 ^ 8 := by nlinarith
  have totientBound : (p - 1) * (q - 1) ≤ p * q :=
    Nat.mul_le_mul (Nat.sub_le p 1) (Nat.sub_le q 1)
  have same := made.symm.trans key
  simp only [Option.some.injEq, Prod.mk.injEq] at same
  exact ⟨e, d, p * q, same.1, by exact_mod_cast large, modulusBound, by omega⟩

/-- A key whose registers are natural numbers works exactly when its exponents undo each other
on the block values. -/
theorem keyWorks_iff {e d n : Nat} (large : 128 ≤ n) (bounded : n < 10 ^ 8) (eInt : e < 2 ^ 31)
    (dInt : d < 2 ^ 31) :
    KeyWorks ⟨e, d, n, blockBytes n⟩ ↔ Undoes e d n (128 ^ blockBytes n) := by
  have fits := blockBytes_fits n large
  constructor
  · rintro ⟨-, works⟩ x inside
    have residue : x ^ e % n < n := Nat.mod_lt _ (by omega)
    have decoded := works x (by omega) (by exact_mod_cast inside)
    rw [encode, modpow_nat (by omega) (by omega) (by omega) (by omega), Option.bind_some, decode,
      modpow_nat (by omega) (by omega) (by omega) (by omega)] at decoded
    exact_mod_cast Option.some.inj decoded
  · intro undoes
    refine ⟨?_, fun x nonneg inside => ?_⟩
    · change 128 ^ (blockBytes n : Int).toNat ≤ (n : Int)
      rw [Int.toNat_natCast]
      exact_mod_cast fits
    obtain ⟨x, rfl⟩ := Int.eq_ofNat_of_zero_le nonneg
    obtain ⟨encoded, decoded⟩ := block_round_trip undoes (by omega) (by omega) eInt dInt
      (x := x) (by exact_mod_cast inside) fits
    rw [encoded, Option.bind_some, decoded]

/-- A prime is a block value of its own square. -/
theorem prime_lt_block {p : Nat} (bounded : p < 10000) : p < 128 ^ blockBytes (p * p : Nat) := by
  unfold blockBytes
  split
  · norm_num
    omega
  · split
    · norm_num
      omega
    · rename_i small
      have square : p * p < 2 ^ 14 := by omega
      norm_num
      nlinarith

/-- The stored key of every stream whose two kept draws are genuine primes: it works exactly
when the primes differ or the drawn exponent is 1. -/
theorem generated_key_works_iff (rand : Nat → Nat) (rounds start draw : Nat) (p q : Int)
    (kept : drawPrimes rand rounds start = some (p, q, draw)) (first : p.toNat.Prime)
    (second : q.toNat.Prime) :
    ∃ key next, initRSA rand rounds start = some (key, next) ∧
      (KeyWorks key ↔ p ≠ q ∨ rand draw % 10000 = 1) := by
  obtain ⟨⟨pPositive, pHigh, pOdd⟩, ⟨qPositive, qHigh, qOdd⟩, large⟩ := drawPrimes_range kept
  obtain ⟨p, rfl⟩ := Int.eq_ofNat_of_zero_le (show 0 ≤ p by omega)
  obtain ⟨q, rfl⟩ := Int.eq_ofNat_of_zero_le (show 0 ≤ q by omega)
  rw [Int.toNat_natCast] at first second
  have pLow : 3 ≤ p := by omega
  have qLow : 3 ≤ q := by omega
  obtain ⟨e, d, made, ePositive, eBound, notTwo, one, dPositive, dBound, congruent⟩ :=
    makeKey_spec rand p q draw pLow qLow (by omega) (by omega) (by omega)
  have modulusBound : p * q < 10 ^ 8 := by nlinarith
  have modulusLarge : 128 ≤ p * q := by exact_mod_cast large
  have dInt : d < 2 ^ 31 := by
    have := Nat.mul_le_mul (Nat.sub_le p 1) (Nat.sub_le q 1)
    omega
  refine ⟨_, draw + 1, by rw [initRSA, kept, defined_bind]; exact made, ?_⟩
  rw [keyWorks_iff modulusLarge modulusBound (by omega) dInt, ← one, Ne, Nat.cast_inj]
  constructor
  · intro undoes
    by_contra neither
    obtain ⟨same, notOne⟩ := not_or.mp neither
    obtain rfl := not_not.mp same
    -- the prime itself is a block, and its powers vanish modulo the square
    have lost := undoes p (prime_lt_block (by omega))
    rw [ModularPower.pow_mod_square (by omega), zero_pow (by omega), Nat.zero_mod] at lost
    omega
  · rintro (distinct | rfl)
    · exact undoes_of_primes first second distinct ePositive dPositive congruent
        (blockBytes_fits _ modulusLarge)
    · intro x inside
      have bound := blockBytes_fits (p * q) modulusLarge
      obtain rfl : d = 1 := by
        rw [one_mul] at congruent
        exact Nat.ModEq.eq_of_lt_of_lt congruent dBound (by omega)
      rw [pow_one, pow_one, Nat.mod_mod, Nat.mod_eq_of_lt (by omega)]

/-- A stream that keeps 13 and 17, with their stored key. -/
theorem generated_key_works_thirteen_seventeen :
    ∃ key next, initRSA (fun draw => if draw < 11 then 13 else 17) 1 0 = some (key, next) ∧
      (KeyWorks key ↔ (13 : Int) ≠ 17 ∨ (if 22 < 11 then 13 else 17) % 10000 = 1) :=
  generated_key_works_iff (fun draw => if draw < 11 then 13 else 17) 1 0 22 13 17
    (by decide +kernel) (by decide) (by decide)

/-- A stream that repeats one value keeps the prime 13 twice; the stored key loses the block
13. -/
theorem repeated_prime_key_fails :
    drawPrimes (fun _ => 13) 1 0 = some (13, 13, 22) ∧ Nat.Prime 13 ∧
      initRSA (fun _ => 13) 1 0 = some (⟨13, 133, 169, 1⟩, 23) ∧ ¬KeyWorks ⟨13, 133, 169, 1⟩ := by
  refine ⟨by decide +kernel, by decide, by decide +kernel, fun works => ?_⟩
  have lost := works.2 13 (by decide) (by decide)
  revert lost
  decide +kernel

end UubangIot.RsaUtils
