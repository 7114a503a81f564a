import UubangIot.Verif.RsaPower
import Mathlib.Data.Nat.Digits.Lemmas

/-!
# Round trip of the RSA message codec

A block packs seven-bit characters as base-128 digits. `InitRSA` chooses the block length so
that `128^bytes` is at most the modulus; a block is then a residue, and the two exponents
undo each other on residues. The message loops add nothing: blocks are cut at multiples of the
block length and written back at the same places.
-/

namespace UubangIot.RsaUtils

open MachineInt

/-- The chosen block length is positive and at most three characters. -/
theorem blockBytes_range (n : Int) : 1 ≤ blockBytes n ∧ blockBytes n ≤ 3 := by
  unfold blockBytes
  split
  · omega
  · split <;> omega

/-- Every block value of the chosen length is below the modulus. -/
theorem blockBytes_fits (n : Nat) (large : 128 ≤ n) : 128 ^ blockBytes n ≤ n := by
  unfold blockBytes
  split
  · norm_num
    omega
  · split
    · norm_num
      omega
    · norm_num
      omega

/-- One round of the packing loop adds its digit at its weight. -/
theorem packLoop_round (message : List Int) (i j rounds digit x : Nat) (short : j ≤ 2)
    (digitSmall : digit < 128) (partialSum : x < 128 ^ j)
    (present : message[i + j]? = some (digit : Int)) :
    packLoop message i (rounds + 1) j x =
      packLoop message i rounds (j + 1) ((x + digit * 128 ^ j : Nat) : Int) := by
  have power : 128 ^ j ≤ 16384 :=
    le_trans (Nat.pow_le_pow_right (by decide) short) (by norm_num : 128 ^ 2 ≤ 16384)
  have termBound : digit * 128 ^ j ≤ 127 * 16384 :=
    Nat.mul_le_mul (Nat.le_of_lt_succ digitSmall) power
  have weightEq : (2 : Int) ^ (7 * j) = ((128 ^ j : Nat) : Int) := by
    rw [pow_mul]
    norm_num
  have weight : int ((128 ^ j : Nat) : Int) = some ((128 ^ j : Nat) : Int) :=
    int_natCast (by omega)
  have term : int ((digit * 128 ^ j : Nat) : Int) = some ((digit * 128 ^ j : Nat) : Int) :=
    int_natCast (by omega)
  have sum : int ((x + digit * 128 ^ j : Nat) : Int) =
      some ((x + digit * 128 ^ j : Nat) : Int) := int_natCast (by omega)
  rw [packLoop, present, weightEq, weight, defined_bind, defined_bind, ← Nat.cast_mul, term,
    defined_bind, ← Nat.cast_add, sum, defined_bind]

/-- The packing loop computes the base-128 value of the characters it reads, each partial sum
an `int`. -/
theorem packLoop_digits (message : List Int) (i j : Nat) (digits : List Nat) (rest : List Int)
    (x : Nat) (following : message.drop (i + j) = digits.map Int.ofNat ++ rest)
    (small : ∀ digit ∈ digits, digit < 128) (short : j + digits.length ≤ 3)
    (partialSum : x < 128 ^ j) :
    packLoop message i digits.length j x =
      some ((x + 128 ^ j * Nat.ofDigits 128 digits : Nat) : Int) := by
  induction digits generalizing j x with
  | nil => simp [packLoop]
  | cons digit digits ih =>
    rw [List.length_cons] at short
    have digitSmall : digit < 128 := small digit List.mem_cons_self
    have present : message[i + j]? = some (digit : Int) := by
      have head := congrArg (fun list => list[0]?) following
      simpa using head
    have tail : message.drop (i + (j + 1)) = digits.map Int.ofNat ++ rest := by
      have dropped := congrArg (List.drop 1) following
      simpa [List.drop_drop, Nat.add_assoc] using dropped
    have nextSum : x + digit * 128 ^ j < 128 ^ (j + 1) := by
      calc x + digit * 128 ^ j < 128 ^ j + 127 * 128 ^ j :=
            Nat.add_lt_add_of_lt_of_le partialSum (Nat.mul_le_mul_right _ (by omega))
        _ = 128 ^ (j + 1) := by rw [pow_succ]; ring
    have later := ih (j + 1) (x + digit * 128 ^ j) tail
      (fun other member => small other (List.mem_cons_of_mem _ member)) (by omega) nextSum
    have value : x + digit * 128 ^ j + 128 ^ (j + 1) * Nat.ofDigits 128 digits =
        x + 128 ^ j * Nat.ofDigits 128 (digit :: digits) := by
      rw [Nat.ofDigits_cons, pow_succ]
      ring
    rw [List.length_cons, packLoop_round message i j digits.length digit x (by omega) digitSmall
      partialSum present, later, value]

/-- The packing loop at a block of seven-bit characters. -/
theorem packLoop_block (characters : List Nat) (small : ∀ character ∈ characters, character < 128)
    {bytes i : Nat} (short : bytes ≤ 3) (inside : i + bytes ≤ characters.length) :
    ((characters.drop i).take bytes).length = bytes ∧
      (∀ digit ∈ (characters.drop i).take bytes, digit < 128) ∧
      packLoop (characters.map Int.ofNat) i bytes 0 0 =
        some ((Nat.ofDigits 128 ((characters.drop i).take bytes) : Nat) : Int) := by
  have length : ((characters.drop i).take bytes).length = bytes := by
    simp only [List.length_take, List.length_drop]
    omega
  have digitsSmall : ∀ digit ∈ (characters.drop i).take bytes, digit < 128 := fun digit member =>
    small digit (List.mem_of_mem_drop (List.mem_of_mem_take member))
  have split : (characters.map Int.ofNat).drop (i + 0) =
      ((characters.drop i).take bytes).map Int.ofNat ++
        (characters.drop (i + bytes)).map Int.ofNat := by
    rw [Nat.add_zero, ← List.map_drop, ← List.map_append, ← List.drop_drop, List.take_append_drop]
  have packed := packLoop_digits (characters.map Int.ofNat) i 0 _ _ 0 split digitsSmall
    (by omega) (by norm_num)
  rw [length, Nat.cast_zero, Nat.zero_add, pow_zero, one_mul] at packed
  exact ⟨length, digitsSmall, packed⟩

/-- The unpacking loop reads the base-128 digits back. -/
theorem unpackLoop_digits (digits : List Nat) (small : ∀ digit ∈ digits, digit < 128)
    (rounds j : Nat) (inside : j + rounds = digits.length) :
    unpackLoop (Nat.ofDigits 128 digits : Nat) rounds j = (digits.drop j).map Int.ofNat := by
  induction rounds generalizing j with
  | zero => simp [unpackLoop, List.drop_eq_nil_of_le (show digits.length ≤ j by omega)]
  | succ rounds ih =>
    have bound : j < digits.length := by omega
    have shift : ((Nat.ofDigits 128 digits : Nat) : Int) / 2 ^ (7 * j) =
        ((Nat.ofDigits 128 (digits.drop j) : Nat) : Int) := by
      rw [pow_mul, ← Nat.ofDigits_div_pow_eq_ofDigits_drop j (by decide) digits small]
      norm_num
    rw [List.drop_eq_getElem_cons bound] at shift ⊢
    have digit : ((Nat.ofDigits 128 (digits[j] :: digits.drop (j + 1)) : Nat) : Int).tmod 128 =
        (digits[j] : Int) := by
      have digitSmall := small _ (List.getElem_mem bound)
      rw [Nat.ofDigits_cons, Int.tmod_eq_emod_of_nonneg (by omega)]
      push_cast
      omega
    rw [unpackLoop, shift, digit, ih (j + 1) (by omega)]
    rfl

/-- Two exponents undo each other on every block value below a bound. -/
def Undoes (e d n bound : Nat) : Prop := ∀ x < bound, (x ^ e % n) ^ d % n = x

/-- One block survives encoding and decoding. -/
theorem block_round_trip {e d n bound x : Nat} (undoes : Undoes e d n bound)
    (large : 2 ≤ n) (intModulus : n < 2 ^ 31) (eInt : e < 2 ^ 31) (dInt : d < 2 ^ 31)
    (inside : x < bound) (fits : bound ≤ n) :
    encode x e n = some ((x ^ e % n : Nat) : Int) ∧
      decode ((x ^ e % n : Nat) : Int) d n = some (x : Int) := by
  have residue : x ^ e % n < n := Nat.mod_lt _ (by omega)
  constructor
  · exact modpow_nat large intModulus (by omega) (by omega)
  · rw [decode, modpow_nat large intModulus (by omega) (by omega), undoes x inside]

/-- The block loops undo each other from every block boundary on. -/
theorem loops_round_trip {e d n : Nat} (large : 2 ≤ n) (intModulus : n < 2 ^ 31)
    (eInt : e < 2 ^ 31) (dInt : d < 2 ^ 31) {bytes : Nat} (positive : 1 ≤ bytes)
    (short : bytes ≤ 3) (fits : 128 ^ bytes ≤ n) (undoes : Undoes e d n (128 ^ bytes))
    (characters : List Nat) (small : ∀ character ∈ characters, character < 128)
    (blocks i fuel : Nat) (boundary : i + blocks * bytes = characters.length)
    (enough : blocks < fuel) :
    ∃ cryptogram, encodeLoop characters.length bytes (characters.map Int.ofNat) e n fuel i =
        some cryptogram ∧
      ∀ earlier : List Int, decodeLoop bytes (earlier ++ cryptogram) d n blocks earlier.length =
        some ((characters.drop i).map Int.ofNat) := by
  induction blocks generalizing i fuel with
  | zero =>
    obtain ⟨rounds, rfl⟩ : ∃ rounds, fuel = rounds + 1 := ⟨fuel - 1, by omega⟩
    refine ⟨[], by simp [encodeLoop, show ¬i < characters.length by omega], fun earlier => ?_⟩
    simp [decodeLoop, List.drop_eq_nil_of_le (show characters.length ≤ i by omega)]
  | succ blocks ih =>
    obtain ⟨rounds, rfl⟩ : ∃ rounds, fuel = rounds + 1 := ⟨fuel - 1, by omega⟩
    have span : i + bytes + blocks * bytes = characters.length := by
      rw [← boundary, Nat.add_mul]
      omega
    have inside : i < characters.length := by omega
    let digits := (characters.drop i).take bytes
    obtain ⟨digitsLength, digitsSmall, packed⟩ :=
      packLoop_block characters small short (show i + bytes ≤ characters.length by omega)
    have split : characters.drop i = digits ++ characters.drop (i + bytes) := by
      rw [← List.drop_drop]
      exact (List.take_append_drop _ _).symm
    have blockBound : Nat.ofDigits 128 digits < 128 ^ bytes := by
      rw [← digitsLength]
      exact Nat.ofDigits_lt_base_pow_length (by decide) digitsSmall
    obtain ⟨encoded, decoded⟩ :=
      block_round_trip undoes large intModulus eInt dInt blockBound fits
    obtain ⟨cryptogram, encodedRest, decodedRest⟩ := ih (i + bytes) rounds span (by omega)
    refine ⟨((Nat.ofDigits 128 digits ^ e % n : Nat) : Int) :: cryptogram, ?_, fun earlier => ?_⟩
    · rw [encodeLoop, if_pos inside, packed]
      simp only [Option.bind_eq_bind, Option.bind_some]
      rw [show decode (Nat.ofDigits 128 digits : Nat) e n = _ from encoded]
      simp only [Option.bind_some, encodedRest]
      rfl
    · have rest := decodedRest (earlier ++ [((Nat.ofDigits 128 digits ^ e % n : Nat) : Int)])
      rw [List.append_assoc, List.length_append, List.length_singleton] at rest
      have first : (earlier ++ ((Nat.ofDigits 128 digits ^ e % n : Nat) : Int) ::
          cryptogram)[earlier.length]? = some ((Nat.ofDigits 128 digits ^ e % n : Nat) : Int) := by
        simp
      have unpacked := unpackLoop_digits digits digitsSmall bytes 0
        ((Nat.zero_add _).trans digitsLength.symm)
      rw [decodeLoop, first]
      simp only [Option.bind_eq_bind, Option.bind_some, decoded]
      rw [show earlier ++ ((Nat.ofDigits 128 digits ^ e % n : Nat) : Int) :: cryptogram =
        earlier ++ ([((Nat.ofDigits 128 digits ^ e % n : Nat) : Int)] ++ cryptogram) from rfl, rest,
        unpacked, split]
      simp

/-- The block loop of `encodeMessage` gives one residue for each block. -/
theorem encodeLoop_blocks {d n : Nat} (large : 2 ≤ n) (intModulus : n < 2 ^ 31) (dInt : d < 2 ^ 31)
    {bytes : Nat} (positive : 1 ≤ bytes) (short : bytes ≤ 3) (fits : 128 ^ bytes ≤ n)
    (characters : List Nat) (small : ∀ character ∈ characters, character < 128)
    (blocks i fuel : Nat) (boundary : i + blocks * bytes = characters.length)
    (enough : blocks < fuel) :
    ∃ cryptogram, encodeLoop characters.length bytes (characters.map Int.ofNat) d n fuel i =
        some cryptogram ∧ cryptogram.length = blocks ∧ ∀ c ∈ cryptogram, 0 ≤ c ∧ c < n := by
  induction blocks generalizing i fuel with
  | zero =>
    obtain ⟨rounds, rfl⟩ : ∃ rounds, fuel = rounds + 1 := ⟨fuel - 1, by omega⟩
    exact ⟨[], by simp [encodeLoop, show ¬i < characters.length by omega], rfl, by simp⟩
  | succ blocks ih =>
    obtain ⟨rounds, rfl⟩ : ∃ rounds, fuel = rounds + 1 := ⟨fuel - 1, by omega⟩
    have span : i + bytes + blocks * bytes = characters.length := by
      rw [← boundary, Nat.add_mul]
      omega
    have inside : i < characters.length := by omega
    obtain ⟨digitsLength, digitsSmall, packed⟩ :=
      packLoop_block characters small short (show i + bytes ≤ characters.length by omega)
    have blockBound := Nat.ofDigits_lt_base_pow_length (by decide : 1 < 128) digitsSmall
    rw [digitsLength] at blockBound
    have encoded := modpow_nat (b := d) large intModulus
      (show Nat.ofDigits 128 ((characters.drop i).take bytes) < 2 ^ 31 by omega) (by omega)
    have residue := Nat.mod_lt (Nat.ofDigits 128 ((characters.drop i).take bytes) ^ d)
      (show 0 < n by omega)
    obtain ⟨cryptogram, rest, length, range⟩ := ih (i + bytes) rounds span (by omega)
    refine ⟨((Nat.ofDigits 128 ((characters.drop i).take bytes) ^ d % n : Nat) : Int) ::
      cryptogram, ?_, congrArg (· + 1) length, ?_⟩
    · rw [encodeLoop, if_pos inside, packed, defined_bind, decode, encoded, defined_bind, rest,
        defined_bind]
      rfl
    · intro c member
      rcases List.mem_cons.mp member with rfl | later
      · omega
      · exact range c later

/-- Whole messages survive when the exponents undo each other on block values. -/
theorem message_round_trip {e d n : Nat} (large : 128 ≤ n) (intModulus : n < 2 ^ 31)
    (eInt : e < 2 ^ 31) (dInt : d < 2 ^ 31)
    (undoes : Undoes e d n (128 ^ blockBytes n)) (message : List Int)
    (sevenBit : ∀ character ∈ message, 0 ≤ character ∧ character < 128)
    (whole : blockBytes n ∣ message.length) :
    ∃ cryptogram,
      encodeMessage message.length (blockBytes n) message e n = some cryptogram ∧
      decodeMessage (message.length / blockBytes n) (blockBytes n) cryptogram d n =
        some message := by
  obtain ⟨positive, short⟩ := blockBytes_range n
  obtain ⟨blocks, length⟩ := whole
  have characters : message = (message.map Int.toNat).map Int.ofNat := by
    rw [List.map_map]
    conv_lhs => rw [← List.map_id message]
    exact List.map_congr_left fun character member => by
      have := (sevenBit character member).1
      simp [Int.toNat_of_nonneg this]
  have small : ∀ character ∈ message.map Int.toNat, character < 128 := by
    intro character member
    obtain ⟨original, present, rfl⟩ := List.mem_map.mp member
    have := sevenBit original present
    omega
  have blockCount : message.length / blockBytes n = blocks := by
    rw [length, Nat.mul_div_cancel_left _ (by omega)]
  obtain ⟨cryptogram, encoded, decoded⟩ := loops_round_trip (by omega) intModulus eInt dInt
    positive short (blockBytes_fits n large) undoes (message.map Int.toNat) small blocks 0
    (message.length + 1) (by rw [List.length_map, length, Nat.zero_add, Nat.mul_comm])
    (by rw [length]; nlinarith)
  rw [List.length_map, ← characters] at encoded
  have decodedAll := decoded []
  rw [List.nil_append, List.length_nil, List.drop_zero, ← characters] at decodedAll
  refine ⟨cryptogram, encoded, ?_⟩
  rw [decodeMessage, blockCount, decodedAll]

/-- Exponents inverse modulo `(p - 1) * (q - 1)` undo each other on every residue modulo the
product of two distinct primes. -/
theorem undoes_of_primes {p q e d bound : Nat} (first : p.Prime) (second : q.Prime)
    (distinct : p ≠ q) (ePositive : 0 < e) (dPositive : 0 < d)
    (inverse : e * d ≡ 1 [MOD (p - 1) * (q - 1)]) (fits : bound ≤ p * q) :
    Undoes e d (p * q) bound := by
  intro x inside
  rw [← Nat.pow_mod, ← pow_mul]
  have fixed := ModularPower.pow_modEq_self_of_primes first second distinct
    (Nat.mul_pos ePositive dPositive) inverse x
  rw [fixed]
  exact Nat.mod_eq_of_lt (by omega)

/-- Round trip of the codec for every key over two distinct primes, in both roles of the
exponents: the public one decodes what the private one encoded and conversely. -/
theorem codec_round_trip (p q e d : Nat) (first : p.Prime) (second : q.Prime)
    (distinct : p ≠ q) (large : 128 ≤ p * q) (bounded : p * q < 10 ^ 8)
    (ePositive : 0 < e) (dPositive : 0 < d) (eInt : e < 2 ^ 31) (dInt : d < 2 ^ 31)
    (inverse : e * d ≡ 1 [MOD (p - 1) * (q - 1)]) (message : List Int)
    (sevenBit : ∀ character ∈ message, 0 ≤ character ∧ character < 128)
    (whole : blockBytes (p * q : Nat) ∣ message.length) :
    (∃ cryptogram,
      encodeMessage message.length (blockBytes (p * q : Nat)) message e (p * q : Nat) =
        some cryptogram ∧
      decodeMessage (message.length / blockBytes (p * q : Nat)) (blockBytes (p * q : Nat))
        cryptogram d (p * q : Nat) = some message) ∧
    (∃ cryptogram,
      encodeMessage message.length (blockBytes (p * q : Nat)) message d (p * q : Nat) =
        some cryptogram ∧
      decodeMessage (message.length / blockBytes (p * q : Nat)) (blockBytes (p * q : Nat))
        cryptogram e (p * q : Nat) = some message) := by
  have fits := blockBytes_fits (p * q) large
  constructor
  · exact message_round_trip large (by omega) eInt dInt
      (undoes_of_primes first second distinct ePositive dPositive inverse fits)
      message sevenBit whole
  · rw [Nat.mul_comm e d] at inverse
    exact message_round_trip large (by omega) dInt eInt
      (undoes_of_primes first second distinct dPositive ePositive inverse fits)
      message sevenBit whole

/-- The two-character message "hi" under the key of 11 and 13. -/
theorem codec_round_trip_hi :
    (∃ cryptogram, encodeMessage 2 (blockBytes (11 * 13 : Nat)) [104, 105] 7 (11 * 13 : Nat) =
        some cryptogram ∧
      decodeMessage (2 / blockBytes (11 * 13 : Nat)) (blockBytes (11 * 13 : Nat)) cryptogram 103
        (11 * 13 : Nat) = some [104, 105]) ∧
    (∃ cryptogram, encodeMessage 2 (blockBytes (11 * 13 : Nat)) [104, 105] 103 (11 * 13 : Nat) =
        some cryptogram ∧
      decodeMessage (2 / blockBytes (11 * 13 : Nat)) (blockBytes (11 * 13 : Nat)) cryptogram 7
        (11 * 13 : Nat) = some [104, 105]) :=
  codec_round_trip 11 13 7 103 (by decide) (by decide) (by decide) (by decide) (by decide)
    (by decide) (by decide) (by decide) (by decide) (by decide) [104, 105] (by decide)
    (by decide)

end UubangIot.RsaUtils
