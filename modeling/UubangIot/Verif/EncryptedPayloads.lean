import UubangIot.Verif.TextFacts

/-!
# Encrypted payloads

`Encrypt` adds the PIN's digits to the bytes of a payload, modulo 256, and leaves its terminator; the
receiver measures what it got with `strlen` again. A byte that the digit of its position lifts to 0
ends the text early, and one that it lifts to `\n` looks like the end of the frame; the payloads
without such bytes are recovered. Texts of ASCII characters are among them.
-/

namespace UubangIot

variable {shift : UInt8 → UInt8 → UInt8} {pinCode payload : Bytes} {rounds i : Nat}

/-- The loop at each index. -/
theorem shiftLoop_get (array : Bytes) (j : Nat) :
    (shiftLoop shift pinCode rounds i array)[j]? =
      if i ≤ j ∧ j < i + rounds then array[j]?.map fun c => shift c (pinByte pinCode j)
      else array[j]? := by
  induction rounds generalizing i array with
  | zero =>
    rw [shiftLoop, if_neg (by omega)]
  | succ rounds ih =>
    rw [shiftLoop, ih]
    by_cases here : i = j
    · rw [if_neg (by omega), if_pos (by omega), ← here, List.getElem?_set_self']
      cases byte : array[i]? with
      | none => rfl
      | some c => simp [List.getD_eq_getElem?_getD, byte]
    · have bounds : i + 1 ≤ j ∧ j < i + 1 + rounds ↔ i ≤ j ∧ j < i + (rounds + 1) := by omega
      rw [List.getElem?_set_ne here]
      simp only [bounds]

/-- The loop over the text at the front of an array. -/
theorem shiftLoop_front {len : Nat} (size : payload.length = len) (rest : Bytes) :
    shiftLoop shift pinCode len 0 (payload ++ rest) =
      (payload.mapIdx fun j c => shift c (pinByte pinCode j)) ++ rest := by
  refine List.ext_getElem? fun j => ?_
  rw [shiftLoop_get]
  by_cases inside : j < payload.length
  · rw [if_pos (by omega), List.getElem?_append_left inside, List.getElem?_append_left (by simpa),
      List.getElem?_mapIdx]
  · rw [if_neg (by omega), List.getElem?_append_right (by omega),
      List.getElem?_append_right (by simpa using inside), List.length_mapIdx]

/-- `Encrypt` on one array writes what the packets carry. -/
theorem encryptInPlace_front (plain : 0 ∉ payload) (rest pinCode : Bytes) :
    encryptInPlace (payload ++ 0 :: rest) (strlen (payload ++ 0 :: rest)) pinCode =
      encrypt payload payload.length pinCode ++ 0 :: rest := by
  rw [encryptInPlace, strlen, cstr_append_of_plain plain, shiftLoop_front rfl, encrypt,
    List.take_length]

/-- `Decrypt` takes the shift back. -/
theorem decrypt_encrypt (payload rest : Bytes) :
    decryptInPlace (encrypt payload payload.length pinCode ++ rest) payload.length pinCode =
      payload ++ rest := by
  have size : (encrypt payload payload.length pinCode).length = payload.length := by
    rw [encrypt, List.take_length, List.length_mapIdx]
  rw [decryptInPlace, shiftLoop_front size]
  refine congrArg (· ++ rest) (List.ext_getElem? fun j => ?_)
  rw [List.getElem?_mapIdx, encrypt, List.take_length, List.getElem?_mapIdx]
  cases payload[j]? with
  | none => rfl
  | some c => simp

/-- The byte that the digit of a position lifts to another. -/
theorem lifted_iff (c digit target : UInt8) : c + digit = target ↔ c = target - digit := by
  constructor
  · rintro rfl
    simp
  · rintro rfl
    simp

/-- A payload in an array that is encrypted, sent and decrypted: its encrypted bytes are no terminator
of the text or of the frame, and the receiver recovers it. -/
structure Survives (payload rest pinCode : Bytes) : Prop where
  /-- No byte of the payload becomes NUL or `\n`. -/
  clear : ∀ j < payload.length, ∀ c, (encryptInPlace (payload ++ 0 :: rest)
      (strlen (payload ++ 0 :: rest)) pinCode)[j]? = some c → c ≠ 0 ∧ c ≠ 10
  /-- The text that the receiver decrypts. -/
  recovered : cstr (decryptInPlace
    (encryptInPlace (payload ++ 0 :: rest) (strlen (payload ++ 0 :: rest)) pinCode)
    (strlen (encryptInPlace (payload ++ 0 :: rest) (strlen (payload ++ 0 :: rest)) pinCode))
    pinCode) = payload

/-- A payload without a NUL survives exactly when none of its bytes is 256 or 266 less the PIN's digit
at its position. -/
theorem survives_iff (payload rest pinCode : Bytes) (plain : 0 ∉ payload) :
    Survives payload rest pinCode ↔ ∀ j c, payload[j]? = some c →
      c ≠ 0 - pinByte pinCode j ∧ c ≠ 10 - pinByte pinCode j := by
  have sent := encryptInPlace_front plain rest pinCode
  have byte (j : Nat) : (encrypt payload payload.length pinCode)[j]? =
      payload[j]?.map fun c => c + pinByte pinCode j := by
    rw [encrypt, List.take_length, List.getElem?_mapIdx]
  have size : (encrypt payload payload.length pinCode).length = payload.length := by
    rw [encrypt, List.take_length, List.length_mapIdx]
  constructor
  · intro survives j c here
    have inside : j < payload.length := (List.getElem?_eq_some_iff.mp here).1
    have clear := survives.clear j inside (c + pinByte pinCode j) (by
      rw [sent, List.getElem?_append_left (by omega), byte, here]
      rfl)
    rw [ne_eq, ne_eq, lifted_iff, lifted_iff] at clear
    exact clear
  · intro apart
    have clear (j : Nat) (c : UInt8) (here : (encrypt payload payload.length pinCode)[j]? = some c) :
        c ≠ 0 ∧ c ≠ 10 := by
      rw [byte] at here
      obtain ⟨source, found, rfl⟩ := Option.map_eq_some_iff.mp here
      rw [ne_eq, ne_eq, lifted_iff, lifted_iff]
      exact apart j source found
    have textual : 0 ∉ encrypt payload payload.length pinCode := fun member => by
      obtain ⟨j, here⟩ := List.mem_iff_getElem?.mp member
      exact (clear j 0 here).1 rfl
    constructor
    · intro j inside c here
      rw [sent, List.getElem?_append_left (by omega)] at here
      exact clear j c here
    · rw [sent, strlen, cstr_append_of_plain textual, size, decrypt_encrypt]
      exact cstr_append_of_plain plain rest

/-- A PIN of decimal digits lifts only bytes from 199 = 256 - '9' on. -/
theorem digit_lifts {c digit : UInt8} (low : c.toNat < 199) (least : 48 ≤ digit.toNat)
    (most : digit.toNat ≤ 57) : c ≠ 0 - digit ∧ c ≠ 10 - digit := by
  refine ⟨fun same => ?_, fun same => ?_⟩
  · have value : c.toNat = (2 ^ 8 - digit.toNat + 0) % 2 ^ 8 := by
      rw [same, UInt8.toNat_sub]
      rfl
    omega
  · have value : c.toNat = (2 ^ 8 - digit.toNat + 10) % 2 ^ 8 := by
      rw [same, UInt8.toNat_sub]
      rfl
    omega

/-- The digits of a PIN of six. -/
theorem pinByte_digit {pinCode : Bytes} (six : pinCode.length = 6)
    (digits : ∀ c ∈ pinCode, 48 ≤ c.toNat ∧ c.toNat ≤ 57) (j : Nat) :
    48 ≤ (pinByte pinCode j).toNat ∧ (pinByte pinCode j).toNat ≤ 57 := by
  have inside : j % 6 < pinCode.length := by
    rw [six]
    exact Nat.mod_lt j (by decide)
  rw [pinByte, List.getD_eq_getElem?_getD, List.getElem?_eq_getElem inside, Option.getD_some]
  exact digits _ (List.getElem_mem inside)

/-- Bytes that no digit lifts, ASCII characters among them, are apart from the lifted ones. -/
theorem low_apart {pinCode payload : Bytes} (six : pinCode.length = 6)
    (digits : ∀ c ∈ pinCode, 48 ≤ c.toNat ∧ c.toNat ≤ 57) (low : ∀ c ∈ payload, c.toNat < 199)
    (j : Nat) (c : UInt8) (here : payload[j]? = some c) :
    c ≠ 0 - pinByte pinCode j ∧ c ≠ 10 - pinByte pinCode j :=
  digit_lifts (low c (List.mem_of_getElem? here)) (pinByte_digit six digits j).1
    (pinByte_digit six digits j).2

/-- The PIN `123456`. -/
def examplePin : Bytes := text "123456"

/-- A command of ASCII characters survives. -/
theorem survives_command : 0 ∉ text "1_on_" ∧ Survives (text "1_on_") (zeros 20) examplePin :=
  ⟨by decide +kernel, (survives_iff _ (zeros 20) examplePin (by decide +kernel)).mpr
    (low_apart (by decide +kernel) (by decide +kernel) (by decide +kernel))⟩

/-- The byte 207 = 256 - '1' under the first digit becomes a NUL: the receiver gets an empty text. -/
theorem lifted_payload_lost : 0 ∉ [207, 65] ∧ ¬ Survives [207, 65] (zeros 20) examplePin := by
  refine ⟨by decide, fun survives => ?_⟩
  have recovered := survives.recovered
  have lost : cstr (decryptInPlace (encryptInPlace ([207, 65] ++ 0 :: zeros 20)
      (strlen ([207, 65] ++ 0 :: zeros 20)) examplePin)
      (strlen (encryptInPlace ([207, 65] ++ 0 :: zeros 20) (strlen ([207, 65] ++ 0 :: zeros 20))
        examplePin)) examplePin) = [] := by
    decide +kernel
  rw [lost] at recovered
  contradiction

end UubangIot
