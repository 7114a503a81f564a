import UubangIot.Lib.JacobiSymbol
import UubangIot.Verif.RsaKeys

/-!
# The prime search

`jacobi` evaluates the Jacobi symbol for every odd modulus, composite ones included: each round
keeps the product of `mult` and the symbol of its registers. At an odd prime Euler's criterion
then makes every round of `probablePrime` succeed, whatever its base, so the search of `randPrime`
ends at a prime or before.
-/

namespace UubangIot.RsaUtils

open MachineInt JacobiSymbol NumberTheorySymbols

/-- The factor loop divides by two until the number is odd. -/
theorem factorTwos_spec (fuel a twos : Nat) (positive : 0 < a) (small : a < 2 ^ fuel) :
    ∃ rest k, a = 2 ^ k * rest ∧ rest % 2 = 1 ∧
      factorTwos fuel (a : Int) twos = some ((rest : Int), twos + k) := by
  induction fuel generalizing a twos with
  | zero => omega
  | succ fuel ih =>
    have parity : (a : Int).tmod 2 = ((a % 2 : Nat) : Int) := (Int.ofNat_tmod a 2).symm
    have half : (a : Int).tdiv 2 = ((a / 2 : Nat) : Int) := (Int.ofNat_tdiv a 2).symm
    rw [factorTwos, parity]
    by_cases even : a % 2 = 0
    · obtain ⟨rest, k, whole, odd, done⟩ := ih (a / 2) (twos + 1) (by omega) (by omega)
      refine ⟨rest, k + 1, ?_, odd, ?_⟩
      · rw [pow_succ, Nat.mul_right_comm, ← whole]
        omega
      · rw [if_pos (by exact_mod_cast even), half, done, Nat.add_assoc, Nat.add_comm 1 k]
    · refine ⟨a, 0, by simp, by omega, ?_⟩
      rw [if_neg (by exact_mod_cast even), Nat.add_zero]

/-- The sign that `jacobi` computes for a factor of two. -/
theorem twoSign_eq (n : Nat) :
    (if (n : Int).tmod 8 = 1 ∨ (n : Int).tmod 8 = 7 then (1 : Int) else 0) * 2 - 1 = twoSign n := by
  have residue : (n : Int).tmod 8 = ((n % 8 : Nat) : Int) := (Int.ofNat_tmod n 8).symm
  rw [residue, twoSign]
  by_cases outer : n % 8 = 1 ∨ n % 8 = 7
  · rw [if_pos (by omega), if_pos outer]
    rfl
  · rw [if_neg (by omega), if_neg outer]
    rfl

/-- The sign that `jacobi` computes for a change of places. -/
theorem swapSign_eq (a n : Nat) (mult : Int) :
    (if (n : Int).tmod 4 ≠ 1 ∧ (a : Int).tmod 4 ≠ 1 then -mult else mult) =
      mult * swapSign a n := by
  have residue : (n : Int).tmod 4 = ((n % 4 : Nat) : Int) := (Int.ofNat_tmod n 4).symm
  have residue' : (a : Int).tmod 4 = ((a % 4 : Nat) : Int) := (Int.ofNat_tmod a 4).symm
  rw [residue, residue', swapSign]
  by_cases both : n % 4 ≠ 1 ∧ a % 4 ≠ 1
  · rw [if_pos (by omega), if_pos both, mul_neg_one]
  · rw [if_neg (by omega), if_neg both, mul_one]

/-- The final test of `jacobi` gives the symbol of the registers it is reached with. -/
theorem stop_eq {a n : Nat} (mult : Int) (large : 1 < n) (last : a ≤ 1 ∨ a = n) :
    (if (a : Int) = 0 then 0 else if (a : Int) = 1 then mult else 0) = mult * J(a | n) := by
  rcases last with few | rfl
  · obtain rfl | rfl : a = 0 ∨ a = 1 := by omega
    · rw [Nat.cast_zero, if_pos rfl, jacobiSym.zero_left large, mul_zero]
    · rw [Nat.cast_one, if_neg (by decide), if_pos rfl, jacobiSym.one_left, mul_one]
  · rw [if_neg (by omega), if_neg (by omega), self_eq_zero large, mul_zero]

/-- The loop of `jacobi` computes `mult` times the symbol of its registers. -/
theorem jacobiLoop_spec (fuel a n : Nat) (mult : Int) (odd : n % 2 = 1) (large : 1 < n)
    (small : n < 2 ^ 31) (enough : n < fuel) :
    jacobiLoop fuel a n mult = some (mult * J(a | n)) := by
  induction fuel generalizing a n mult with
  | zero => omega
  | succ fuel ih =>
    rw [jacobiLoop]
    by_cases last : a ≤ 1 ∨ a = n
    · rw [if_pos (by omega)]
      exact congrArg some (stop_eq mult large last)
    · rw [if_neg (by omega), rem_of_ne (by omega), Option.bind_some, ← Int.ofNat_tmod]
      have reduced : J(a | n) = J((a % n : Nat) | n) := by
        rw [Int.natCast_emod]
        exact jacobiSym.mod_left a n
      have below : a % n < n := Nat.mod_lt a (by omega)
      rw [reduced]
      generalize a % n = a at below
      by_cases last : a ≤ 1
      · rw [if_pos (by omega)]
        exact congrArg some (stop_eq mult large (.inl last))
      · rw [if_neg (by omega)]
        obtain ⟨rest, k, rfl, oddRest, done⟩ :=
          factorTwos_spec 32 a 0 (by omega) (by omega)
        have fewer : rest ≤ 2 ^ k * rest := Nat.le_mul_of_pos_left rest (Nat.two_pow_pos k)
        rw [done, Option.bind_some, Nat.zero_add, two_pow_mul odd]
        dsimp only
        rw [twoSign_eq]
        have sign : (if 0 < k ∧ k % 2 = 1 then mult * twoSign n else mult) =
            mult * if k % 2 = 1 then twoSign n else 1 := by
          by_cases single : k % 2 = 1
          · rw [if_pos ⟨by omega, single⟩, if_pos single]
          · rw [if_neg (by omega), if_neg single, mul_one]
        rw [sign, ← mul_assoc]
        by_cases last : rest ≤ 1
        · rw [if_pos (by omega)]
          exact congrArg some (stop_eq _ large (.inl last))
        · rw [if_neg (by omega), swapSign_eq, ih n rest _ oddRest (by omega) (by omega) (by omega),
            swap oddRest odd, mul_assoc]

/-- `jacobi` on natural arguments returns the Jacobi symbol. -/
theorem jacobi_nat {a n : Nat} (odd : n % 2 = 1) (large : 1 < n) (small : n < 2 ^ 31) :
    jacobi a n = some J(a | n) := by
  rw [jacobi, Int.toNat_natCast, jacobiLoop_spec _ a n 1 odd large small (by omega), one_mul]

/-- `jacobi` ends at every odd modulus with the Jacobi symbol, which is zero exactly when the two
numbers have a common factor. -/
theorem jacobi_symbol (a n : Int) (nonnegative : 0 ≤ a) (large : 3 ≤ n) (odd : n % 2 = 1)
    (modulus : Fits 32 n) :
    jacobi a n = some J(a | n.toNat) ∧ (jacobi a n = some 0 ↔ 1 < Int.gcd a n) := by
  obtain ⟨a, rfl⟩ := Int.eq_ofNat_of_zero_le nonnegative
  obtain ⟨n, rfl⟩ := Int.eq_ofNat_of_zero_le (show 0 ≤ n by omega)
  have upper : (n : Int) < 2 ^ 31 := modulus.2
  have computed : jacobi a n = some J(a | n) := jacobi_nat (by omega) (by omega) (by omega)
  have common : 0 < Int.gcd a n := Nat.pos_of_ne_zero fun none => by
    have := (Int.gcd_eq_zero_iff.mp none).2
    omega
  rw [Int.toNat_natCast]
  refine ⟨computed, ?_⟩
  rw [computed, Option.some_inj, jacobiSym.eq_zero_iff]
  omega

/-- The symbol of 1001 at the composite modulus 9907 * 3. -/
theorem jacobi_symbol_composite :
    jacobi 1001 29721 = some J(1001 | (29721 : Int).toNat) ∧
      (jacobi 1001 29721 = some 0 ↔ 1 < Int.gcd 1001 29721) :=
  jacobi_symbol 1001 29721 (by decide) (by decide) (by decide) (by decide)

/-! ## Primality rounds -/

variable {n : Nat}

/-- One round is defined at every odd number, and succeeds at a prime. -/
theorem solovayPrime_spec {a : Nat} (odd : n % 2 = 1) (large : 3 ≤ n) (small : n < 2 ^ 31)
    (positive : 0 < a) (below : a < n) :
    ∃ passed, solovayPrime a n = some passed ∧ (n.Prime → passed = true) := by
  have half : ((n : Int) - 1).tdiv 2 = ((n / 2 : Nat) : Int) := by
    rw [Int.tdiv_eq_ediv_of_nonneg (by omega)]
    omega
  have power : modpow a (((n : Int) - 1).tdiv 2) n = some ((a ^ (n / 2) % n : Nat) : Int) := by
    rw [half]
    exact modpow_nat (by omega) small (by omega) (by omega)
  rw [solovayPrime, jacobi_nat odd (by omega) small, defined_bind]
  dsimp only
  rw [power]
  by_cases zero : (if J(a | n) = -1 then (n : Int) - 1 else J(a | n)) = 0
  · refine ⟨false, if_pos zero, fun prime => ?_⟩
    have free : ¬n ∣ a := Nat.not_dvd_of_pos_of_lt positive below
    rcases unit_of_prime prime free with one | negative
    · rw [one, if_neg (by decide)] at zero
      contradiction
    · rw [negative, if_pos rfl] at zero
      omega
  · refine ⟨_, if_neg zero, fun prime => ?_⟩
    have free : ¬n ∣ a := Nat.not_dvd_of_pos_of_lt positive below
    rw [decide_eq_true_iff]
    rcases unit_of_prime prime free with one | negative
    · rw [one, if_neg (by decide), residue_of_one prime one]
      rfl
    · rw [negative, if_pos rfl, residue_of_neg_one prime negative]
      omega

/-- The rounds end at every odd number, and all succeed at a prime. -/
theorem probablePrimeLoop_spec (rand : Nat → Nat) (odd : n % 2 = 1) (large : 3 ≤ n)
    (small : n < 2 ^ 31) (k draw : Nat) :
    ∃ accepted later, probablePrimeLoop rand n k draw = some (accepted, later) ∧
      (n.Prime → accepted = true) := by
  induction k generalizing draw with
  | zero => exact ⟨true, draw, rfl, fun _ => rfl⟩
  | succ k ih =>
    have base : rem (rand draw : Int) ((n : Int) - 2) =
        some ((rand draw % (n - 2) : Nat) : Int) := by
      rw [rem_of_ne (by omega), show (n : Int) - 2 = ((n - 2 : Nat) : Int) by omega, ← Int.ofNat_tmod]
    have below : rand draw % (n - 2) < n - 2 := Nat.mod_lt _ (by omega)
    obtain ⟨passed, tested, sound⟩ := solovayPrime_spec (a := rand draw % (n - 2) + 2) odd large
      small (by omega) (by omega)
    rw [Nat.cast_add, Nat.cast_ofNat] at tested
    rw [probablePrimeLoop, base, defined_bind, tested, defined_bind]
    cases passed with
    | true =>
      rw [if_pos rfl]
      exact ih (draw + 1)
    | false => exact ⟨false, draw + 1, rfl, fun prime => absurd (sound prime) (by decide)⟩

/-- `probablePrime` ends at every odd number, and accepts the odd primes. -/
theorem probablePrime_spec (rand : Nat → Nat) (odd : n % 2 = 1) (small : n < 2 ^ 31)
    (k draw : Nat) :
    ∃ accepted later, probablePrime rand n k draw = some (accepted, later) ∧
      (n.Prime → accepted = true) := by
  have notTwo : ¬(n : Int) = 2 := by omega
  rw [probablePrime, if_neg notTwo]
  by_cases one : n = 1
  · subst one
    exact ⟨false, draw, rfl, fun prime => absurd prime Nat.not_prime_one⟩
  · have parity : (n : Int).tmod 2 = ((n % 2 : Nat) : Int) := (Int.ofNat_tmod n 2).symm
    rw [parity, if_neg (by omega)]
    exact probablePrimeLoop_spec rand odd (by omega) small k draw

/-! ## The search -/

/-- The rounds that the search needs from a candidate to reach the prime three. -/
def searchRounds (candidate : Nat) : Nat :=
  if candidate ≤ 3 then (3 - candidate) / 2 else (10003 - candidate) / 2

/-- The search ends from every odd candidate. -/
theorem randPrimeLoop_ends (rand : Nat → Nat) (fuel candidate draw : Nat)
    (odd : candidate % 2 = 1) (bounded : candidate < 10000)
    (enough : searchRounds candidate < fuel) :
    ∃ result, randPrimeLoop rand singleMax fuel candidate draw = some result := by
  induction fuel generalizing candidate draw with
  | zero => omega
  | succ fuel ih =>
    obtain ⟨accepted, later, tested, sound⟩ :=
      probablePrime_spec rand odd (by omega) accuracy draw
    rw [randPrimeLoop, tested, defined_bind]
    cases accepted with
    | true => exact ⟨_, if_pos rfl⟩
    | false =>
      have notThree : candidate ≠ 3 := by
        rintro rfl
        exact absurd (sound Nat.prime_three) (by decide)
      have next : rem ((candidate : Int) + 2) singleMax =
          some (((candidate + 2) % 10000 : Nat) : Int) := by
        rw [rem_of_ne (by decide)]
        exact congrArg some (Int.ofNat_tmod (candidate + 2) 10000).symm
      dsimp only
      rw [if_neg (by decide), next, defined_bind]
      apply ih
      · omega
      · omega
      · rw [searchRounds] at enough ⊢
        split <;> split at enough <;> omega

/-- For every stream of draws `randPrime` ends with an odd number from three to 9999 and divides by
zero nowhere, and `probablePrime` accepts every odd prime in that range. -/
theorem randPrime_ends_in_range (rand : Nat → Nat) (draw : Nat) :
    (∃ p next, randPrime rand singleMax draw = some (p, next) ∧ p % 2 = 1 ∧ 3 ≤ p ∧ p ≤ 9999) ∧
      ∀ n : Nat, n.Prime → n % 2 = 1 → n < 10000 → ∀ k draw, ∃ next,
        probablePrime rand n k draw = some (true, next) := by
  constructor
  · have start : rem (rand draw : Int) singleMax = some ((rand draw % 10000 : Nat) : Int) := by
      rw [rem_of_ne (by decide)]
      exact congrArg some (Int.ofNat_tmod (rand draw) 10000).symm
    have below : rand draw % 10000 < 10000 := Nat.mod_lt _ (by decide)
    obtain ⟨candidate, made, odd, bounded⟩ : ∃ candidate : Nat,
        ((rand draw % 10000 : Nat) : Int) + (1 - ((rand draw % 10000 : Nat) : Int).tmod 2) =
          candidate ∧ candidate % 2 = 1 ∧ candidate < 10000 := by
      have parity : ((rand draw % 10000 : Nat) : Int).tmod 2 = ((rand draw % 10000 % 2 : Nat) : Int) :=
        (Int.ofNat_tmod _ 2).symm
      refine ⟨rand draw % 10000 + (1 - rand draw % 10000 % 2), ?_, by omega, by omega⟩
      rw [parity]
      omega
    have enough : searchRounds candidate < singleMax.toNat := by
      have rounds : singleMax.toNat = 10000 := rfl
      rw [searchRounds, rounds]
      split <;> omega
    obtain ⟨⟨p, next⟩, found⟩ :=
      randPrimeLoop_ends rand singleMax.toNat candidate (draw + 1) odd bounded enough
    have returned : randPrime rand singleMax draw = some (p, next) := by
      rw [randPrime, start, defined_bind, made]
      exact found
    have range := randPrime_range returned
    exact ⟨p, next, returned, range.2.2, by omega, by omega⟩
  · intro n prime odd bounded k draw
    obtain ⟨accepted, later, tested, sound⟩ := probablePrime_spec rand odd (by omega) k draw
    rw [sound prime] at tested
    exact ⟨later, tested⟩

/-- With draws that are all zero, and the prime seven. -/
theorem randPrime_ends_in_range_zero :
    (∃ p next, randPrime (fun _ => 0) singleMax 0 = some (p, next) ∧ p % 2 = 1 ∧ 3 ≤ p ∧
      p ≤ 9999) ∧ ∃ next, probablePrime (fun _ => 0) (7 : Nat) 5 0 = some (true, next) :=
  ⟨(randPrime_ends_in_range (fun _ => 0) 0).1,
    (randPrime_ends_in_range (fun _ => 0) 0).2 7 (by decide) (by decide) (by decide) 5 0⟩

end UubangIot.RsaUtils
