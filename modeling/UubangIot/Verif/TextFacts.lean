import UubangIot.Server.Records

/-!
# Facts about C strings

Numerals print and parse back, a text is its own text, and a split cuts at every delimiter and
nowhere else.
-/

namespace UubangIot

/-- The byte of a digit is its code. -/
theorem digit_byte {c : Char} (digit : c.isDigit = true) :
    (48 ≤ c.toNat.toUInt8 ∧ c.toNat.toUInt8 ≤ 57) ∧ c.toNat.toUInt8.toNat = c.toNat := by
  have range : 48 ≤ c.toNat ∧ c.toNat ≤ 57 := by
    simpa [Char.isDigit, UInt32.le_iff_toNat_le] using digit
  have small : c.toNat.toUInt8.toNat = c.toNat := by
    simp only [Nat.toUInt8, UInt8.toNat_ofNat']
    omega
  refine ⟨⟨?_, ?_⟩, small⟩
  · rw [UInt8.le_iff_toNat_le, small]
    exact range.1
  · rw [UInt8.le_iff_toNat_le, small]
    exact range.2

/-- The digit loop of `atoi` computes the value of the digits. -/
theorem digitsValue_chars (chars : List Char) (digits : ∀ c ∈ chars, c.isDigit = true)
    (value : Nat) :
    (chars.map fun c => c.toNat.toUInt8).foldl (fun value c => value * 10 + (c.toNat - 48))
      value = Nat.ofDigitChars 10 chars value := by
  induction chars generalizing value with
  | nil => simp
  | cons c chars ih =>
    have small := (digit_byte (digits c List.mem_cons_self)).2
    rw [List.map_cons, List.foldl_cons, small, Nat.ofDigitChars_cons,
      ih (fun other member => digits other (List.mem_cons_of_mem _ member)), Nat.mul_comm]
    rfl

/-- The characters of a natural numeral. -/
theorem decimal_chars (n : Nat) : (toString (n : Int)).toList = Nat.toDigits 10 n :=
  Nat.toList_repr

/-- A natural numeral has only digits. -/
theorem decimal_digits (n : Nat) : ∀ c ∈ decimal n, 48 ≤ c ∧ c ≤ 57 := by
  intro c member
  rw [decimal, text, decimal_chars] at member
  obtain ⟨character, present, rfl⟩ := List.mem_map.mp member
  exact (digit_byte (Nat.isDigit_of_mem_toDigits (by decide) (by decide) present)).1

/-- A negative numeral is a sign and a natural one. -/
theorem decimal_negSucc (n : Nat) : decimal (Int.negSucc n) = 45 :: decimal (n + 1 : Nat) := by
  have printed : toString (Int.negSucc n) = "-" ++ toString ((n + 1 : Nat) : Int) := rfl
  rw [decimal, printed, text, String.toList_append, List.map_append]
  rfl

/-- A numeral has only digits and a sign. -/
theorem decimal_characters (value : Int) : ∀ c ∈ decimal value, c = 45 ∨ 48 ≤ c ∧ c ≤ 57 := by
  intro c member
  cases value with
  | ofNat n => exact .inr (decimal_digits n c member)
  | negSucc n =>
    rw [decimal_negSucc] at member
    rcases List.mem_cons.mp member with sign | digit
    · exact .inl sign
    · exact .inr (decimal_digits (n + 1) c digit)

/-- Literals of the source joined. -/
theorem text_append (first second : String) :
    text (first ++ second) = text first ++ text second := by
  simp [text, String.toList_append]

/-- The value of the digits of a natural numeral. -/
theorem digitsValue_decimal (n : Nat) : digitsValue (decimal n) = n := by
  have all : (decimal n).takeWhile (fun c => decide (48 ≤ c ∧ c ≤ 57)) = decimal n :=
    List.takeWhile_eq_self_iff.mpr fun c member => decide_eq_true (decimal_digits n c member)
  have digits : ∀ c ∈ Nat.toDigits 10 n, c.isDigit = true := fun c member =>
    Nat.isDigit_of_mem_toDigits (by decide) (by decide) member
  rw [digitsValue, all, decimal, text, decimal_chars, digitsValue_chars _ digits,
    Nat.ofDigitChars_ten_toDigits]

/-- `atoi` reads back what `%d` printed. -/
theorem atoi_decimal (n : Nat) : atoi (decimal n) = n := by
  have value := digitsValue_decimal n
  have whole : cstr (decimal n) = decimal n := by
    refine List.takeWhile_eq_self_iff.mpr fun c member => decide_eq_true ?_
    rintro rfl
    exact absurd (decimal_digits n 0 member).1 (by decide)
  rw [atoi, whole]
  cases printed : decimal n with
  | nil =>
    rw [printed] at value
    rw [← value]
    rfl
  | cons c rest =>
    have range := decimal_digits n c (by rw [printed]; exact List.mem_cons_self)
    have digit : ∀ other : UInt8, other < 48 → c ≠ other := by
      rintro other small rfl
      exact absurd range.1 (UInt8.not_le.mpr small)
    have visible : ¬(c = 32 ∨ 9 ≤ c ∧ c ≤ 13) := by
      rintro (blank | ⟨-, high⟩)
      · exact digit 32 (by decide) blank
      · exact absurd (UInt8.le_trans range.1 high) (by decide)
    rw [List.dropWhile_cons_of_neg (by simpa using visible)]
    split
    · rename_i same
      exact absurd (List.cons.inj same).1 (digit 45 (by decide))
    · rename_i same
      exact absurd (List.cons.inj same).1 (digit 43 (by decide))
    · rw [← printed, value]

/-- The text of an array is no longer than the array. -/
theorem strlen_le (array : Bytes) : strlen array ≤ array.length :=
  (List.takeWhile_prefix _).length_le

/-- Cutting a text at its terminator twice changes nothing. -/
@[simp]
theorem cstr_cstr (array : Bytes) : cstr (cstr array) = cstr array :=
  List.takeWhile_idem

/-- A text has the length of its array's text. -/
@[simp]
theorem strlen_cstr (array : Bytes) : strlen (cstr array) = strlen array := by
  rw [strlen, strlen, cstr_cstr]

/-- The list of an id depends only on its text. -/
@[simp]
theorem kindOf_cstr (userId : Bytes) : kindOf (cstr userId) = kindOf userId := by
  rw [kindOf, kindOf, strlen_cstr]

/-- A zero at the end of an array adds nothing to its text. -/
theorem cstr_snoc_zero (array : Bytes) : cstr (array ++ [0]) = cstr array := by
  induction array with
  | nil => rfl
  | cons byte rest ih =>
    rw [cstr, List.cons_append, List.takeWhile_cons, ← cstr, ih, cstr, cstr, List.takeWhile_cons]

/-- A text has no terminator in it. -/
theorem zero_not_mem_cstr (array : Bytes) : 0 ∉ cstr array := fun member => by
  simpa using List.mem_takeWhile_imp member

/-- A terminator ends a text whatever follows it. -/
theorem cstr_append_zero (array rest : Bytes) : cstr (cstr array ++ 0 :: rest) = cstr array := by
  have ends : cstr (0 :: rest) = [] := List.takeWhile_cons_of_neg (by simp)
  have letters (c : UInt8) (member : c ∈ cstr array) : decide (c ≠ 0) = true :=
    decide_eq_true fun zero => zero_not_mem_cstr array (zero ▸ member)
  have whole : cstr (cstr array ++ 0 :: rest) = cstr array ++ cstr (0 :: rest) :=
    List.takeWhile_append_of_pos letters
  rw [whole, ends, List.append_nil]

/-- A copied string is its source. -/
@[simp]
theorem cstr_strcpy (target source : Bytes) : cstr (strcpy target source) = cstr source :=
  cstr_append_zero source _

/-- The front of an array that has its terminator there has its text, whatever follows. -/
theorem cstr_take_append {array : Bytes} {size : Nat} (fits : strlen array < size)
    (sized : size ≤ array.length) (rest : Bytes) :
    cstr (array.take size ++ rest) = cstr array := by
  induction array generalizing size with
  | nil => exact absurd fits (by simp at sized; omega)
  | cons c tail ih =>
    cases size with
    | zero => exact absurd fits (Nat.not_lt_zero _)
    | succ size =>
      by_cases zero : c = 0
      · subst zero
        exact (List.takeWhile_cons_of_neg (by simp)).trans
          (List.takeWhile_cons_of_neg (by simp)).symm
      · have head (more : Bytes) : cstr (c :: more) = c :: cstr more :=
          List.takeWhile_cons_of_pos (by simpa using zero)
        rw [strlen, head, List.length_cons] at fits
        have shorter : cstr (tail.take size ++ rest) = cstr tail :=
          ih (Nat.lt_of_succ_lt_succ fits) (Nat.le_of_succ_le_succ sized)
        rw [List.take_succ_cons, List.cons_append, head, head, shorter]

/-! ## Splitting -/

variable {delim : UInt8} {word : Bytes}

/-- Bytes that are no delimiter go to the field. -/
theorem splitLoop_word (plain : delim ∉ word) (field rest : Bytes) :
    splitLoop delim field (word ++ rest) = splitLoop delim (word.reverse ++ field) rest := by
  induction word generalizing field with
  | nil => rfl
  | cons c word ih =>
    have apart : c ≠ delim := fun same => plain (same ▸ List.mem_cons_self)
    have later : delim ∉ word := fun member => plain (List.mem_cons_of_mem _ member)
    rw [List.cons_append, splitLoop, if_neg apart, ih later, List.reverse_cons, List.append_assoc,
      List.singleton_append]

/-- A field ends at its delimiter. -/
theorem splitLoop_cut (plain : delim ∉ word) (rest : Bytes) :
    splitLoop delim [] (word ++ delim :: rest) = word :: splitLoop delim [] rest := by
  rw [splitLoop_word plain, List.append_nil, splitLoop, if_pos rfl, List.reverse_reverse]

/-- No field has a delimiter. -/
theorem splitLoop_plain {field bytes : Bytes} (plain : delim ∉ field) :
    ∀ cut ∈ splitLoop delim field bytes, delim ∉ cut := by
  induction bytes generalizing field with
  | nil => simp [splitLoop]
  | cons c bytes ih =>
    intro cut member
    rw [splitLoop] at member
    split at member
    · rcases List.mem_cons.mp member with rfl | later
      · rw [List.mem_reverse]
        exact plain
      · exact ih List.not_mem_nil cut later
    · rename_i apart
      have extended : delim ∉ c :: field := by
        simp only [List.mem_cons, not_or]
        exact ⟨fun same => apart same.symm, plain⟩
      exact ih extended cut member

/-- A field's bytes are among those that were split. -/
theorem splitLoop_subset {field bytes : Bytes} :
    ∀ cut ∈ splitLoop delim field bytes, ∀ c ∈ cut, c ∈ field ∨ c ∈ bytes := by
  induction bytes generalizing field with
  | nil => simp [splitLoop]
  | cons b bytes ih =>
    intro cut member c present
    rw [splitLoop] at member
    split at member
    · rcases List.mem_cons.mp member with rfl | later
      · exact .inl (List.mem_reverse.mp present)
      · rcases ih cut later c present with before | after
        · exact absurd before List.not_mem_nil
        · exact .inr (List.mem_cons_of_mem _ after)
    · rcases ih cut member c present with before | after
      · rcases List.mem_cons.mp before with rfl | before
        · exact .inr List.mem_cons_self
        · exact .inl before
      · exact .inr (List.mem_cons_of_mem _ after)

/-- More bytes add fields after the ones there are. -/
theorem splitLoop_append (field bytes more : Bytes) :
    ∃ later, splitLoop delim field (bytes ++ more) = splitLoop delim field bytes ++ later := by
  induction bytes generalizing field with
  | nil => exact ⟨splitLoop delim field more, rfl⟩
  | cons c bytes ih =>
    rw [List.cons_append, splitLoop, splitLoop]
    split
    · obtain ⟨later, split⟩ := ih []
      exact ⟨later, congrArg (_ :: ·) split⟩
    · exact ih (c :: field)

/-- Bytes without a delimiter add no fields at the end. -/
theorem splitLoop_append_plain (field bytes : Bytes) (plain : delim ∉ word) :
    splitLoop delim field (bytes ++ word) = splitLoop delim field bytes := by
  induction bytes generalizing field with
  | nil =>
    have cut := splitLoop_word plain field []
    rw [List.append_nil] at cut
    rw [List.nil_append, cut, splitLoop, splitLoop]
  | cons c bytes ih =>
    rw [List.cons_append, splitLoop, splitLoop]
    split
    · rw [ih]
    · exact ih (c :: field)

/-- A text without a terminator is all of its array's text. -/
theorem cstr_of_plain (plain : 0 ∉ word) : cstr word = word := by
  refine List.takeWhile_eq_self_iff.mpr fun c member => decide_eq_true ?_
  rintro rfl
  exact plain member

/-- A text ends at its terminator. -/
theorem cstr_append_of_plain (plain : 0 ∉ word) (rest : Bytes) :
    cstr (word ++ 0 :: rest) = word := by
  have ends := cstr_append_zero word rest
  rwa [cstr_of_plain plain] at ends

/-- Zeros after a text end it. -/
theorem cstr_append_zeros (plain : 0 ∉ word) (size : Nat) : cstr (word ++ zeros size) = word := by
  cases size with
  | zero =>
    rw [zeros, List.replicate_zero, List.append_nil]
    exact cstr_of_plain plain
  | succ size => exact cstr_append_of_plain plain (zeros size)

/-- A character up to `9` is its code. -/
theorem digit_toInt {c : UInt8} (digit : c ≤ 57) : c.toInt8.toInt = Int.ofNat c.toNat := by
  have small : c.toNat ≤ 57 := UInt8.le_iff_toNat_le.mp digit
  rw [UInt8.toInt8, Int8.toInt, BitVec.toInt_eq_toNat_of_lt]
  · rfl
  · change 2 * c.toNat < 2 ^ 8
    omega

end UubangIot
