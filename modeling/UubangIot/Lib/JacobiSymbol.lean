import Mathlib.NumberTheory.LegendreSymbol.JacobiSymbol

/-!
# Reducing Jacobi symbols

The steps by which a Jacobi symbol is evaluated without factoring: powers of two are taken out of
the numerator by the residue of the denominator modulo eight, two odd numbers change places with
the sign of reciprocity, and at a prime denominator the symbol is a power by Euler's criterion.
-/

namespace JacobiSymbol

open NumberTheorySymbols

/-- The sign of two at an odd denominator. -/
def twoSign (n : Nat) : Int := if n % 8 = 1 ∨ n % 8 = 7 then 1 else -1

/-- The sign of reciprocity at two odd numbers. -/
def swapSign (a n : Nat) : Int := if n % 4 ≠ 1 ∧ a % 4 ≠ 1 then -1 else 1

/-- A denominator divides itself, so the symbol is zero. -/
theorem self_eq_zero {n : Nat} (large : 1 < n) : J(n | n) = 0 := by
  apply jacobiSym.eq_zero_iff.mpr
  constructor
  · omega
  · rw [Int.gcd_natCast_natCast, Nat.gcd_self]
    omega

/-- The symbol of two is the sign that the residue modulo eight gives. -/
theorem two_eq_sign {n : Nat} (odd : n % 2 = 1) : J(2 | n) = twoSign n := by
  rw [jacobiSym.at_two (Nat.odd_iff.mpr odd), ZMod.χ₈_nat_eq_if_mod_eight, twoSign, if_neg (by omega)]

/-- The sign of two is its own inverse. -/
theorem twoSign_sq (n : Nat) : twoSign n * twoSign n = 1 := by
  rw [twoSign]
  split <;> rfl

/-- Powers of two are taken out with their sign, which counts when their number is odd. -/
theorem two_pow_mul {n : Nat} (odd : n % 2 = 1) (k a : Nat) :
    J((2 ^ k * a : Nat) | n) = (if k % 2 = 1 then twoSign n else 1) * J(a | n) := by
  have power : J((2 ^ k * a : Nat) | n) = twoSign n ^ k * J(a | n) := by
    push_cast
    rw [jacobiSym.mul_left, jacobiSym.pow_left, two_eq_sign odd]
  have halves : k = 2 * (k / 2) + k % 2 := (Nat.div_add_mod k 2).symm
  rw [power]
  by_cases single : k % 2 = 1
  · rw [if_pos single, halves, single, pow_succ, pow_mul, pow_two, twoSign_sq, one_pow, one_mul]
  · rw [if_neg single, halves, show k % 2 = 0 by omega, Nat.add_zero, pow_mul, pow_two, twoSign_sq,
      one_pow]

/-- Two odd numbers change places with the sign of reciprocity. -/
theorem swap {a n : Nat} (odd : a % 2 = 1) (odd' : n % 2 = 1) :
    J(a | n) = swapSign a n * J(n | a) := by
  rw [← jacobiSym.quadratic_reciprocity_if odd odd', swapSign]
  by_cases both : a % 4 = 3 ∧ n % 4 = 3
  · rw [if_pos both, if_pos (by omega), neg_one_mul]
  · rw [if_neg both, if_neg (by omega), one_mul]

/-- At a prime the symbol of a number that it does not divide is one or minus one. -/
theorem unit_of_prime {p a : Nat} (prime : p.Prime) (free : ¬p ∣ a) :
    J(a | p) = 1 ∨ J(a | p) = -1 := by
  apply jacobiSym.eq_one_or_neg_one
  rw [Int.gcd_natCast_natCast]
  exact Nat.Coprime.symm ((prime.coprime_iff_not_dvd).mpr free)

/-- Euler's criterion: at an odd prime the symbol is a power of the number. -/
theorem euler {p : Nat} (prime : p.Prime) (a : Nat) :
    ((J(a | p) : Int) : ZMod p) = (a : ZMod p) ^ (p / 2) := by
  have : Fact p.Prime := ⟨prime⟩
  rw [← jacobiSym.legendreSym.to_jacobiSym, legendreSym.eq_pow, Int.cast_natCast]

/-- A power whose symbol is one has the residue one. -/
theorem residue_of_one {p a : Nat} (prime : p.Prime) (symbol : J(a | p) = 1) :
    a ^ (p / 2) % p = 1 := by
  have class' := euler prime a
  rw [symbol, Int.cast_one, ← Nat.cast_pow, ← Nat.cast_one, ZMod.natCast_eq_natCast_iff] at class'
  have residue : a ^ (p / 2) % p = 1 % p := class'.symm
  rw [residue]
  exact Nat.mod_eq_of_lt prime.one_lt

/-- A power whose symbol is minus one has the last residue. -/
theorem residue_of_neg_one {p a : Nat} (prime : p.Prime) (symbol : J(a | p) = -1) :
    a ^ (p / 2) % p = p - 1 := by
  have class' := euler prime a
  have last : ((p - 1 : Nat) : ZMod p) = -1 := by
    rw [Nat.cast_sub prime.one_lt.le, ZMod.natCast_self, Nat.cast_one, zero_sub]
  rw [symbol, Int.cast_neg, Int.cast_one, ← last, ← Nat.cast_pow, ZMod.natCast_eq_natCast_iff]
    at class'
  have residue : a ^ (p / 2) % p = (p - 1) % p := class'.symm
  rw [residue]
  exact Nat.mod_eq_of_lt (Nat.sub_lt prime.pos Nat.one_pos)

end JacobiSymbol
