import UubangIot.Lib.EulerLiars
import UubangIot.Verif.RsaPrimes

/-!
# How often the prime search errs

A round of `probablePrime` passes a base exactly when the base is an Euler liar, and at most half of
the residues are liars to a composite modulus. A composite number is therefore accepted by at most
one in `2 ^ k` of the draws for `k` rounds.
-/

namespace UubangIot.RsaUtils

open EulerLiars JacobiSymbol MachineInt NumberTheorySymbols

variable {n : Nat}

/-- A base that a round passes. -/
def Liar (n a : Nat) : Prop := ∃ coprime : a.Coprime n, ZMod.unitOfCoprime a coprime ∈ liars n

/-- What a round compares the power with. -/
def expected (n : Nat) (symbol : Int) : Int := if symbol = -1 then n - 1 else symbol

/-- The comparison of a round is Euler's equation. -/
theorem expected_eq_power {a : Nat} (large : 3 ≤ n) (coprime : a.Coprime n) :
    ((a ^ (n / 2) % n : Nat) : Int) = expected n J(a | n) ↔
      ((J(a | n) : Int) : ZMod n) = (a : ZMod n) ^ (n / 2) := by
  have rest : ((a ^ (n / 2) % n : Nat) : ZMod n) = (a : ZMod n) ^ (n / 2) := by
    rw [ZMod.natCast_mod, Nat.cast_pow]
  have below : a ^ (n / 2) % n < n := Nat.mod_lt _ (by omega)
  have unit : J(a | n) = 1 ∨ J(a | n) = -1 :=
    jacobiSym.eq_one_or_neg_one (by rwa [Int.gcd_natCast_natCast])
  rw [← rest]
  generalize a ^ (n / 2) % n = power at below
  -- two residues below the modulus are equal when their classes are
  have classes (value : Nat) (small : value < n) :
      ((value : Nat) : ZMod n) = (power : ZMod n) ↔ power = value := by
    rw [ZMod.natCast_eq_natCast_iff', Nat.mod_eq_of_lt small, Nat.mod_eq_of_lt below, eq_comm]
  rcases unit with one | negative
  · have same := classes 1 (by omega)
    rw [Nat.cast_one] at same
    rw [one, expected, if_neg (by decide), Int.cast_one, same]
    omega
  · have same := classes (n - 1) (by omega)
    rw [Nat.cast_sub (by omega), ZMod.natCast_self, zero_sub, Nat.cast_one] at same
    rw [negative, expected, if_pos rfl, Int.cast_neg, Int.cast_one, same]
    omega

/-- A round passes a base exactly when it is a liar. -/
theorem solovayPrime_eq {a : Nat} (odd : n % 2 = 1) (large : 3 ≤ n) (small : n < 2 ^ 31)
    (below : a < n) :
    ∃ passed, solovayPrime a n = some passed ∧ (passed = true ↔ Liar n a) := by
  have half : ((n : Int) - 1).tdiv 2 = ((n / 2 : Nat) : Int) := by
    rw [Int.tdiv_eq_ediv_of_nonneg (by omega)]
    omega
  have power : modpow a (((n : Int) - 1).tdiv 2) n = some ((a ^ (n / 2) % n : Nat) : Int) := by
    rw [half]
    exact modpow_nat (by omega) small (by omega) (by omega)
  rw [solovayPrime, jacobi_nat odd (by omega) small, defined_bind]
  dsimp only
  rw [power]
  change ∃ passed, (if expected n J(a | n) = 0 then some false else
    some (decide (((a ^ (n / 2) % n : Nat) : Int) = expected n J(a | n)))) = some passed ∧ _
  by_cases coprime : a.Coprime n
  · have nonzero : expected n J(a | n) ≠ 0 := by
      have unit : J(a | n) = 1 ∨ J(a | n) = -1 :=
        jacobiSym.eq_one_or_neg_one (by rwa [Int.gcd_natCast_natCast])
      rw [expected]
      split
      · omega
      · omega
    refine ⟨_, if_neg nonzero, ?_⟩
    rw [decide_eq_true_iff, expected_eq_power large coprime]
    constructor
    · intro euler
      exact ⟨coprime, (unitOfCoprime_mem_liars coprime).mpr euler⟩
    · rintro ⟨free, liar⟩
      exact (unitOfCoprime_mem_liars free).mp liar
  · have zero : J(a | n) = 0 :=
      jacobiSym.eq_zero_iff.mpr ⟨by omega, by rwa [Int.gcd_natCast_natCast]⟩
    refine ⟨false, if_pos (by rw [zero, expected, if_neg (by decide)]), ?_⟩
    constructor
    · intro passed
      contradiction
    · rintro ⟨free, -⟩
      exact absurd free coprime

/-- The base of a draw. -/
def baseOf (n draw : Nat) : Nat := draw % (n - 2) + 2

/-- The rounds accept exactly the draws whose bases are all liars. -/
theorem probablePrimeLoop_eq (rand : Nat → Nat) (odd : n % 2 = 1) (large : 3 ≤ n)
    (small : n < 2 ^ 31) (k draw : Nat) :
    ∃ accepted later, probablePrimeLoop rand n k draw = some (accepted, later) ∧
      (accepted = true ↔ ∀ i < k, Liar n (baseOf n (rand (draw + i)))) := by
  induction k generalizing draw with
  | zero => exact ⟨true, draw, rfl, by simp⟩
  | succ k ih =>
    have base : rem (rand draw : Int) ((n : Int) - 2) =
        some ((rand draw % (n - 2) : Nat) : Int) := by
      have bound : (n : Int) - 2 = ((n - 2 : Nat) : Int) := by omega
      rw [rem_of_ne (by omega), bound, ← Int.ofNat_tmod]
    have below : rand draw % (n - 2) < n - 2 := Nat.mod_lt _ (by omega)
    obtain ⟨passed, tested, passes⟩ :=
      solovayPrime_eq (a := baseOf n (rand draw)) odd large small (by rw [baseOf]; omega)
    rw [baseOf, Nat.cast_add, Nat.cast_ofNat] at tested
    rw [probablePrimeLoop, base, defined_bind, tested, defined_bind]
    have first : (∀ i < k + 1, Liar n (baseOf n (rand (draw + i)))) ↔
        Liar n (baseOf n (rand draw)) ∧ ∀ i < k, Liar n (baseOf n (rand (draw + 1 + i))) := by
      simp only [Nat.forall_lt_succ_left, Nat.add_zero, Nat.add_right_comm, ← Nat.add_assoc]
    rw [first, ← passes]
    cases passed with
    | true =>
      obtain ⟨accepted, later, run, rounds⟩ := ih (draw + 1)
      exact ⟨accepted, later, by rw [if_pos rfl, run], by simp [rounds]⟩
    | false => exact ⟨false, draw + 1, rfl, by simp⟩

/-! ## Counting -/

/-- The values that `rand` gives, and zeros after them. -/
def stream {k m : Nat} (draws : Fin k → Fin m) (i : Nat) : Nat :=
  if drawn : i < k then draws ⟨i, drawn⟩ else 0

open Classical in
/-- The draws whose base is a liar. -/
noncomputable def liarDraws (n : Nat) : Finset (Fin (n - 2)) :=
  Finset.univ.filter fun draw => Liar n (draw + 2)

/-- Different draws have different bases, so at most half of them are liars. -/
theorem two_mul_card_liarDraws_le (odd : n % 2 = 1) (large : 3 ≤ n) (composite : ¬n.Prime) :
    2 * (liarDraws n).card ≤ n - 2 := by
  classical
  have : NeZero n := ⟨by omega⟩
  have injective : (liarDraws n).card ≤ Nat.card (liars n) := by
    rw [Nat.card_eq_fintype_card, ← Finset.card_univ]
    let unitOf (draw : Fin (n - 2)) : liars n :=
      if liar : Liar n (draw + 2) then ⟨ZMod.unitOfCoprime _ liar.1, liar.2⟩ else 1
    apply Finset.card_le_card_of_injOn unitOf
    · intro draw _
      exact Finset.mem_coe.mpr (Finset.mem_univ _)
    · intro first one second two same
      have firstLiar : Liar n (first + 2) := (Finset.mem_filter.mp one).2
      have secondLiar : Liar n (second + 2) := (Finset.mem_filter.mp two).2
      dsimp only [unitOf] at same
      rw [dif_pos firstLiar, dif_pos secondLiar, Subtype.mk.injEq] at same
      have classes : (((first : Nat) + 2 : Nat) : ZMod n) = (((second : Nat) + 2 : Nat) : ZMod n) :=
        congrArg Units.val same
      rw [ZMod.natCast_eq_natCast_iff', Nat.mod_eq_of_lt (by omega), Nat.mod_eq_of_lt (by omega)]
        at classes
      exact Fin.ext (by omega)
  have half := two_mul_card_liars_le odd (by omega) composite
  have fewer : n.totient < n := Nat.totient_lt n (by omega)
  have apart : n.totient ≠ n - 1 := fun same =>
    composite ((Nat.totient_eq_iff_prime (by omega)).mp same)
  omega

/-- Of the draws for `k` rounds at most one in `2 ^ k` makes `probablePrime` accept a composite odd
number. -/
theorem composite_accepted_rarely (n k : Nat) (odd : n % 2 = 1) (large : 3 ≤ n)
    (small : n < 2 ^ 31) (composite : ¬n.Prime) :
    2 ^ k * {draws : Fin k → Fin (n - 2) | ∃ next,
      probablePrime (stream draws) n k 0 = some (true, next)}.ncard ≤ (n - 2) ^ k := by
  have accepted : {draws : Fin k → Fin (n - 2) | ∃ next,
      probablePrime (stream draws) n k 0 = some (true, next)} =
        ↑(Fintype.piFinset fun _ : Fin k => liarDraws n) := by
    ext draws
    have parity : (n : Int).tmod 2 = ((n % 2 : Nat) : Int) := (Int.ofNat_tmod n 2).symm
    obtain ⟨accepted, later, run, rounds⟩ :=
      probablePrimeLoop_eq (stream draws) odd large small k 0
    have base (i : Nat) (drawn : i < k) :
        baseOf n (stream draws (0 + i)) = (draws ⟨i, drawn⟩ : Nat) + 2 := by
      rw [baseOf, Nat.zero_add, stream, dif_pos drawn, Nat.mod_eq_of_lt (draws ⟨i, drawn⟩).isLt]
    rw [Set.mem_ofPred_eq, probablePrime, if_neg (by omega), parity, if_neg (by omega), run]
    simp only [Option.some.injEq, Prod.mk.injEq, exists_and_left, exists_eq', and_true, rounds,
      Finset.mem_coe, Fintype.mem_piFinset, liarDraws, Finset.mem_filter, Finset.mem_univ, true_and]
    constructor
    · intro all index
      have liar := all index index.isLt
      rwa [base] at liar
    · intro all i drawn
      rw [base i drawn]
      exact all ⟨i, drawn⟩
  rw [accepted, Set.ncard_coe_finset, Fintype.card_piFinset_const, ← mul_pow]
  exact Nat.pow_le_pow_left (two_mul_card_liarDraws_le odd large composite) k

/-- The rounds of the key generation on the Carmichael number 1729. -/
theorem composite_accepted_rarely_carmichael :
    2 ^ accuracy * {draws : Fin accuracy → Fin (1729 - 2) | ∃ next,
      probablePrime (stream draws) (1729 : Nat) accuracy 0 = some (true, next)}.ncard ≤
        (1729 - 2) ^ accuracy :=
  composite_accepted_rarely 1729 accuracy (by decide) (by decide) (by decide)
    (Nat.not_prime_of_mul_eq (by decide : 7 * 247 = 1729) (by decide) (by decide))

end UubangIot.RsaUtils
