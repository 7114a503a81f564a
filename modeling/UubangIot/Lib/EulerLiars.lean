import Mathlib.GroupTheory.Index
import Mathlib.NumberTheory.LegendreSymbol.JacobiSymbol

/-!
# Euler liars

A unit modulo an odd number is an Euler liar when its Jacobi symbol is the power that Euler's
criterion gives at a prime. The liars are a subgroup. A composite modulus has a unit outside of it,
so at most half of the units are liars.
-/

namespace EulerLiars

open NumberTheorySymbols

/-- The Jacobi symbol of a residue, as a residue. -/
def symbol (n : Nat) : (ZMod n)ˣ →* ZMod n where
  toFun u := ((J(((u : ZMod n).val : Int) | n) : Int) : ZMod n)
  map_one' := by
    rcases n.eq_zero_or_pos with rfl | positive
    · simp [jacobiSym.zero_right]
    · have residue : (((1 : (ZMod n)ˣ) : ZMod n).val : Int) % n = (1 : Int) % n := by
        rw [Units.val_one, ZMod.val_one_eq_one_mod]
        simp
      rw [jacobiSym.mod_left' residue, jacobiSym.one_left, Int.cast_one]
  map_mul' first second := by
    have residue : (((first * second : (ZMod n)ˣ) : ZMod n).val : Int) % n =
        (((first : ZMod n).val : Int) * ((second : ZMod n).val : Int)) % n := by
      rw [Units.val_mul, ZMod.val_mul]
      simp
    rw [jacobiSym.mod_left' residue, jacobiSym.mul_left, Int.cast_mul]

/-- The units whose symbol is Euler's power. -/
def liars (n : Nat) : Subgroup (ZMod n)ˣ :=
  MonoidHom.eqLocus (symbol n) ((Units.coeHom (ZMod n)).comp (powMonoidHom (n / 2)))

/-- A unit is a liar when its symbol is Euler's power. -/
theorem mem_liars {n : Nat} {u : (ZMod n)ˣ} :
    u ∈ liars n ↔ ((J(((u : ZMod n).val : Int) | n) : Int) : ZMod n) = (u : ZMod n) ^ (n / 2) :=
  Iff.rfl

/-- The unit of a number without a common factor. -/
theorem unitOfCoprime_mem_liars {n a : Nat} (coprime : a.Coprime n) :
    ZMod.unitOfCoprime a coprime ∈ liars n ↔
      ((J(a | n) : Int) : ZMod n) = (a : ZMod n) ^ (n / 2) := by
  have residue : (((a : ZMod n).val : Nat) : Int) % n = (a : Int) % n := by
    rw [ZMod.val_natCast]
    simp
  rw [mem_liars, ZMod.coe_unitOfCoprime, jacobiSym.mod_left' residue]

variable {n : Nat}

/-- A power of one and something whose square is zero. -/
theorem one_add_pow_of_sq_eq_zero {R : Type} [CommRing R] {x : R} (vanishes : x * x = 0) (k : Nat) :
    (1 + x) ^ k = 1 + k * x := by
  induction k with
  | zero => simp
  | succ k ih =>
    rw [pow_succ, ih]
    push_cast
    linear_combination (k : R) * vanishes

/-- What is below an odd number is twice its half. -/
theorem two_mul_half (odd : n % 2 = 1) : n / 2 * 2 = n - 1 := by omega

/-- A liar to an odd modulus gives back one under Fermat's power. -/
theorem pow_eq_one_of_liar {a : Nat} (odd : n % 2 = 1) (coprime : a.Coprime n)
    (liar : ZMod.unitOfCoprime a coprime ∈ liars n) : (a : ZMod n) ^ (n - 1) = 1 := by
  rw [unitOfCoprime_mem_liars] at liar
  have square : J(a | n) ^ 2 = 1 := jacobiSym.sq_one (by rwa [Int.gcd_natCast_natCast])
  rw [← two_mul_half odd, pow_mul, ← liar]
  exact_mod_cast congrArg (Int.cast : Int → ZMod n) square

/-- A modulus with a repeated factor has a unit that is no liar: one plus a part of the modulus,
whose power below the modulus is not one. -/
theorem witness_of_square {p m : Nat} (prime : p.Prime) (positive : 0 < m)
    (odd : p * (p * m) % 2 = 1) : liars (p * (p * m)) ≠ ⊤ := by
  intro all
  have coprime : (1 + p * m).Coprime (p * (p * m)) := by
    have first : (1 + p * m).Coprime (p * m) := by simp
    exact Nat.Coprime.mul_right (Nat.Coprime.coprime_mul_right_right first) first
  have power := pow_eq_one_of_liar odd coprime (all ▸ Subgroup.mem_top _)
  have vanishes :
      ((p * m : Nat) : ZMod (p * (p * m))) * ((p * m : Nat) : ZMod (p * (p * m))) = 0 := by
    rw [← Nat.cast_mul, ZMod.natCast_eq_zero_iff]
    exact ⟨m, by ring⟩
  rw [Nat.cast_add, Nat.cast_one, one_add_pow_of_sq_eq_zero vanishes, add_eq_left, ← Nat.cast_mul,
    ZMod.natCast_eq_zero_iff] at power
  have room : 0 < p * m := Nat.mul_pos prime.pos positive
  have divides : p ∣ p * (p * m) - 1 := Nat.dvd_of_mul_dvd_mul_right room power
  have one : p ∣ 1 := by
    have whole : p ∣ p * (p * m) := Nat.dvd_mul_right _ _
    rwa [Nat.dvd_sub_iff_right (Nat.mul_pos prime.pos room) whole] at divides
  exact prime.one_lt.ne' (Nat.dvd_one.mp one)

/-- A modulus of two odd parts without a common factor, one of them prime, has a unit that is no
liar: a nonresidue of the prime that is one modulo the other part. -/
theorem witness_of_coprime {p m : Nat} (prime : p.Prime) (odd : p * m % 2 = 1)
    (coprime : p.Coprime m) (large : 1 < m) : liars (p * m) ≠ ⊤ := by
  intro all
  have : Fact p.Prime := ⟨prime⟩
  have oddPrime : p % 2 = 1 := (Nat.odd_mul.mp (Nat.odd_iff.mpr odd)).1 |> Nat.odd_iff.mp
  have oddRest : m % 2 = 1 := (Nat.odd_mul.mp (Nat.odd_iff.mpr odd)).2 |> Nat.odd_iff.mp
  have notTwo : p ≠ 2 := by omega
  obtain ⟨nonsquare, free⟩ := FiniteField.exists_nonsquare (F := ZMod p)
    (by rw [ZMod.ringChar_zmod_n]; exact notTwo)
  obtain ⟨a, atPrime, atRest⟩ := Nat.chineseRemainder coprime nonsquare.val 1
  have symbolPrime : J(a | p) = -1 := by
    rw [← jacobiSym.legendreSym.to_jacobiSym, legendreSym.eq_neg_one_iff]
    rwa [Int.cast_natCast, (ZMod.natCast_eq_natCast_iff _ _ _).mpr atPrime, ZMod.natCast_zmod_val]
  have symbolRest : J(a | m) = 1 := by
    have residue : (a : Int) % m = 1 % m := by exact_mod_cast atRest
    rw [jacobiSym.mod_left' residue, jacobiSym.one_left]
  have symbolWhole : J(a | p * m) = -1 := by
    rw [jacobiSym.mul_right' _ prime.ne_zero (by omega), symbolPrime, symbolRest, mul_one]
  have unit : a.Coprime (p * m) := by
    by_contra common
    have zero : J(a | p * m) = 0 := by
      apply jacobiSym.eq_zero_iff.mpr
      exact ⟨Nat.mul_ne_zero prime.ne_zero (by omega), by rwa [Int.gcd_natCast_natCast]⟩
    rw [symbolWhole] at zero
    contradiction
  have liar : ZMod.unitOfCoprime a unit ∈ liars (p * m) := all ▸ Subgroup.mem_top _
  rw [unitOfCoprime_mem_liars, symbolWhole] at liar
  have below := congrArg (ZMod.castHom (Dvd.intro_left p rfl : m ∣ p * m) (ZMod m)) liar
  rw [map_pow, map_natCast, map_intCast, (ZMod.natCast_eq_natCast_iff _ _ _).mpr atRest,
    Nat.cast_one, one_pow, Int.cast_neg, Int.cast_one] at below
  have two : ((2 : Nat) : ZMod m) = 0 := by
    push_cast
    linear_combination -below
  rw [ZMod.natCast_eq_zero_iff] at two
  have few := Nat.le_of_dvd (by decide) two
  omega

/-- A composite odd modulus has a unit that is no liar. -/
theorem liars_ne_top (odd : n % 2 = 1) (large : 1 < n) (composite : ¬n.Prime) : liars n ≠ ⊤ := by
  obtain ⟨p, prime, m, rfl⟩ := Nat.exists_prime_and_dvd large.ne'
  have positive : 0 < m := by
    rcases m.eq_zero_or_pos with rfl | positive
    · simp at large
    · exact positive
  by_cases repeated : p ∣ m
  · obtain ⟨rest, rfl⟩ := repeated
    exact witness_of_square prime (Nat.pos_of_mul_pos_left positive) odd
  · refine witness_of_coprime prime odd ((prime.coprime_iff_not_dvd).mpr repeated) ?_
    by_contra single
    obtain rfl : m = 1 := by omega
    rw [mul_one] at composite
    exact composite prime

/-- At most half of the units are liars. -/
theorem two_mul_card_liars_le (odd : n % 2 = 1) (large : 1 < n) (composite : ¬n.Prime) :
    2 * Nat.card (liars n) ≤ n.totient := by
  have : NeZero n := ⟨by omega⟩
  have index := Subgroup.one_lt_index_of_ne_top (liars_ne_top odd large composite)
  calc
    2 * Nat.card (liars n) ≤ (liars n).index * Nat.card (liars n) := Nat.mul_le_mul_right _ index
    _ = Nat.card (ZMod n)ˣ := by rw [mul_comm, Subgroup.card_mul_index]
    _ = n.totient := by rw [Nat.card_eq_fintype_card, ZMod.card_units_eq_totient]

end EulerLiars
