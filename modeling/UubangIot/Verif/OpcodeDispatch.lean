import Mathlib.Algebra.Ring.Int.Defs
import Mathlib.Tactic.Ring
import UubangIot.Server.Talk
import UubangIot.Verif.TextFacts

/-!
# The switch of `talk`

`talk` chooses a handler by a hash of the first three characters of the code. Of three characters the
hash is a weighted sum, in which the last character spans more than the weight of the one before it:
it stays below the modulus, so neither the 32 bits nor the remainder make codes collide, but the
weights do. A code is dispatched exactly when no other tag has its sum.
-/

namespace UubangIot

/-! ## Tags -/

/-- A case of the switch by the comment at its label. -/
structure Tag where
  /-- The three characters. -/
  letters : Bytes
  /-- The handler. -/
  opcode : Opcode
  deriving DecidableEq, Repr

/-- The cases. -/
def tags : List Tag :=
  [⟨text "HBA", .hba⟩, ⟨text "RSA", .rsa⟩, ⟨text "PIN", .pin⟩, ⟨text "SIB", .sib⟩,
    ⟨text "SIA", .sia⟩, ⟨text "REA", .rea⟩, ⟨text "RME", .rme⟩, ⟨text "SCE", .sce⟩,
    ⟨text "IOT", .iot⟩, ⟨text "TAA", .taa⟩, ⟨text "STO", .sto⟩, ⟨text "UPD", .upd⟩,
    ⟨text "ADD", .add⟩, ⟨text "ADS", .ads⟩, ⟨text "ICM", .icm⟩, ⟨text "DSC", .dsc⟩,
    ⟨text "IOC", .ioc⟩, ⟨text "RCO", .rco⟩, ⟨text "RPA", .rpa⟩]

/-- A request runs the handler of a tag only when its code starts with the tag, and is answered with
`ERR` when its code starts with none. -/
def DispatchExact (a : CLN) : Prop :=
  (∀ tag ∈ tags, a.requestClass = .user tag.opcode → a.checkcode.take 3 = tag.letters) ∧
    ((∀ tag ∈ tags, a.checkcode.take 3 ≠ tag.letters) → a.requestClass = .user .unknown)

/-- The sum of three signed characters, weighted by the powers of 33. -/
def weight : Bytes → Int
  | [first, second, third] =>
    1089 * first.toInt8.toInt + 33 * second.toInt8.toInt + third.toInt8.toInt
  | _ => 0

/-! ## The hash of three characters -/

/-- A signed character in 32 bits. -/
theorem toUInt32_character (c : UInt8) :
    c.toInt8.toInt32.toUInt32 = UInt32.ofInt c.toInt8.toInt := by
  rw [← Int8.toInt_toInt32]
  generalize c.toInt8.toInt32 = value
  apply UInt32.toNat_inj.mp
  change value.toBitVec.toNat = (value.toBitVec.toInt % 2 ^ 32).toNat % 2 ^ 32
  have bound := value.toBitVec.isLt
  rw [BitVec.toInt_eq_toNat_cond]
  split <;> omega

/-- One step of the hash. -/
theorem hash_step (hash : Int) (c : UInt8) :
    (UInt32.ofInt hash <<< 5) + UInt32.ofInt hash + c.toInt8.toInt32.toUInt32 =
      UInt32.ofInt (33 * hash + c.toInt8.toInt) := by
  have shifted (value : UInt32) : value <<< 5 = 32 * value := by
    apply UInt32.toNat_inj.mp
    rw [UInt32.toNat_shiftLeft, UInt32.toNat_mul, Nat.shiftLeft_eq, Nat.mul_comm]
    rfl
  have scaled : UInt32.ofInt (33 * hash) = 32 * UInt32.ofInt hash + UInt32.ofInt hash := by
    rw [show (33 : Int) * hash = 32 * hash + hash by ring, UInt32.ofInt_add, UInt32.ofInt_mul]
    rfl
  rw [shifted, toUInt32_character, UInt32.ofInt_add, scaled]

/-- A signed character lies between -128 and 127. -/
theorem character_range (c : UInt8) : -128 ≤ c.toInt8.toInt ∧ c.toInt8.toInt ≤ 127 :=
  ⟨Int8.le_toInt _, Int.lt_add_one_iff.mp (Int8.toInt_lt _)⟩

/-- The sums lie close to zero. -/
theorem weight_range (first second third : UInt8) :
    -150000 ≤ weight [first, second, third] ∧ weight [first, second, third] ≤ 150000 := by
  have range₁ := character_range first
  have range₂ := character_range second
  have range₃ := character_range third
  simp only [weight]
  omega

/-- The hash of three characters. -/
theorem djbHash_three (first second third : UInt8) :
    (djbHash [first, second, third] 3 : Int) =
      (193376997 + weight [first, second, third]) % 193400000 := by
  have start : (5381 : UInt32) = UInt32.ofInt 5381 := rfl
  have folded : djbHash [first, second, third] 3 =
      (UInt32.ofInt (193376997 + weight [first, second, third])).toNat % 193400000 := by
    change UInt32.toNat (_ + _) % 193400000 = _
    simp only [start, hash_step]
    congr 2
    congr 1
    simp only [weight]
    ring
  have range := weight_range first second third
  have value : ((UInt32.ofInt (193376997 + weight [first, second, third])).toNat : Int) =
      193376997 + weight [first, second, third] := by
    change (((_ : Int) % 2 ^ 32).toNat % 2 ^ 32 : Nat) = (_ : Int)
    omega
  rw [folded, Int.natCast_emod, value]
  rfl

/-- Codes of three characters have one hash exactly when they have one weight. -/
theorem djbHash_eq_iff {left right : Bytes} (three : left.length = 3) (three' : right.length = 3) :
    djbHash left 3 = djbHash right 3 ↔ weight left = weight right := by
  obtain ⟨a, b, c, rfl⟩ := List.length_eq_three.mp three
  obtain ⟨d, e, f, rfl⟩ := List.length_eq_three.mp three'
  have first := djbHash_three a b c
  have second := djbHash_three d e f
  -- the sums lie within less than the modulus of one another
  have range := weight_range a b c
  have range' := weight_range d e f
  omega

/-! ## The switch -/

/-- The handler of a tag. -/
theorem opcodeOf_letters : ∀ tag ∈ tags, tag.letters.length = 3 ∧
    opcodeOf tag.letters = tag.opcode ∧ tag.opcode ≠ .unknown := by decide +kernel

/-- No two tags have one handler. -/
theorem opcode_injective : ∀ tag ∈ tags, ∀ other ∈ tags, tag.opcode = other.opcode → tag = other := by
  decide +kernel

/-- Two codes with the same hash are dispatched in the same way. -/
theorem opcodeOf_congr {left right : Bytes}
    (same : djbHash (left.take 3) 3 = djbHash (right.take 3) 3) : opcodeOf left = opcodeOf right := by
  rw [opcodeOf, opcodeOf, same]

/-- A handler is run for the hash of its tag. -/
theorem opcodeOf_cases (checkcode : Bytes) : opcodeOf checkcode = .unknown ∨
    ∃ tag ∈ tags, opcodeOf checkcode = tag.opcode ∧
      djbHash (checkcode.take 3) 3 = djbHash tag.letters 3 := by
  unfold opcodeOf
  generalize djbHash (checkcode.take 3) 3 = hash
  split
  case h_20 => exact .inl rfl
  all_goals
    right
    decide +kernel

variable {a : CLN}

/-- The first three characters of a long code. -/
theorem take_three (long : 3 ≤ strlen a.checkcode) : (a.checkcode.take 3).length = 3 := by
  have short := strlen_le a.checkcode
  rw [List.length_take]
  omega

/-- The handler of a tag is run for the codes of its weight. -/
theorem opcodeOf_iff {tag : Tag} (member : tag ∈ tags) {checkcode : Bytes}
    (three : (checkcode.take 3).length = 3) :
    opcodeOf checkcode = tag.opcode ↔ weight (checkcode.take 3) = weight tag.letters := by
  obtain ⟨size, own, known⟩ := opcodeOf_letters tag member
  rw [← djbHash_eq_iff three size]
  constructor
  · intro same
    rcases opcodeOf_cases checkcode with unknown | ⟨other, present, handler, hash⟩
    · exact absurd (same.symm.trans unknown) known
    · obtain rfl := opcode_injective tag member other present (same.symm.trans handler)
      exact hash
  · intro hash
    have whole : tag.letters.take 3 = tag.letters := List.take_of_length_le size.le
    rw [← own]
    apply opcodeOf_congr
    rw [whole]
    exact hash

/-- A request with a long code is dispatched by the switch. -/
theorem requestClass_long (long : 3 ≤ strlen a.checkcode) (test : a.checkcode.getD 0 0 ≠ 116) :
    a.requestClass = .user (opcodeOf a.checkcode) := by
  rw [CLN.requestClass, if_neg test, if_neg (Nat.not_lt.mpr long)]

/-- A code is dispatched exactly when no tag but itself has its weight. -/
theorem dispatchExact_iff (a : CLN) (long : 3 ≤ strlen a.checkcode)
    (test : a.checkcode.getD 0 0 ≠ 116) :
    DispatchExact a ↔
      ∀ tag ∈ tags, weight tag.letters = weight (a.checkcode.take 3) →
        a.checkcode.take 3 = tag.letters := by
  have three := take_three long
  rw [DispatchExact, requestClass_long long test]
  constructor
  · rintro ⟨only, -⟩ tag member same
    apply only tag member
    rw [(opcodeOf_iff member three).mpr same.symm]
  · intro alone
    refine ⟨fun tag member handler => ?_, fun none => ?_⟩
    · have own := RequestClass.user.inj handler
      exact alone tag member ((opcodeOf_iff member three).mp own).symm
    · rcases opcodeOf_cases a.checkcode with unknown | ⟨tag, member, handler, -⟩
      · rw [unknown]
      · have own := (opcodeOf_iff member three).mp handler
        exact absurd (alone tag member own.symm) (none tag member)

/-- A request with a given code. -/
def coded (code : String) : CLN := { CLN.zero with checkcode := text code ++ zeros (18 - code.length) }

/-- No other code of three bytes than `SIA` has its hash. -/
theorem dispatchExact_sia : DispatchExact (coded "SIA") :=
  (dispatchExact_iff (coded "SIA") (by decide +kernel) (by decide +kernel)).mpr (by decide +kernel)

/-- `HAb` runs the handler of `HBA`. -/
theorem dispatch_collision : 3 ≤ strlen (coded "HAb").checkcode ∧
    (coded "HAb").checkcode.getD 0 0 ≠ 116 ∧ (coded "HAb").requestClass = .user .hba ∧
    ¬DispatchExact (coded "HAb") := by
  have runs : (coded "HAb").requestClass = .user .hba := by decide +kernel
  refine ⟨by decide +kernel, by decide +kernel, runs, fun exactly => ?_⟩
  have same := exactly.1 ⟨text "HBA", .hba⟩ List.mem_cons_self runs
  exact absurd same (by decide +kernel)

end UubangIot
