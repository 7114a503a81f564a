import UubangIot.Server.StrSplit
import UubangIot.Verif.TextFacts

/-!
# Splitting a text into its fields

The two passes of `StrSplit` agree: the first counts the delimiters, the second cuts one field at each
of them, `k` is the number of bytes between `m` and `i`, and a field of `k` bytes fills its `k + 1`
allocated ones. The fields are those of `strSplit`, each followed by the delimiter in the buffer; a text
that was written that way is taken apart again.
-/

namespace UubangIot.StrSplit

variable {srcStr : Bytes} {delim : UInt8} {mallocs : Mallocs} {rounds i k l m : Nat}

/-! ## Accesses -/

/-- A read within an array. -/
theorem readAt_inside {array : List α} {index : Nat} (inside : index < array.length) :
    readAt array index = .ok (array.get ⟨index, inside⟩) := by
  rw [readAt, List.getElem?_eq_getElem inside]
  rfl

/-- The bytes that a pass has still to read, by the one it reads now. -/
theorem take_drop_succ {bytes : Bytes} (inside : i + (rounds + 1) ≤ bytes.length) :
    (bytes.drop i).take (rounds + 1) =
      bytes.get ⟨i, by omega⟩ :: (bytes.drop (i + 1)).take rounds := by
  rw [List.drop_eq_getElem_cons (by omega), List.take_succ_cons]
  rfl

/-! ## Cutting a field -/

/-- The copy loop and the terminator after it. -/
theorem stringcutLoop_storeAll {str des : Bytes} (inside : i + rounds ≤ str.length) (begins : m ≤ i) :
    stringcutLoop str m rounds i des =
      (CheckedArray.storeAll des (i - m) ((str.drop i).take rounds ++ [0])).elim
        (.error .fault) .ok := by
  induction rounds generalizing i des with
  | zero =>
    rw [stringcutLoop, writeAt, List.take_zero, List.nil_append, CheckedArray.storeAll]
    cases CheckedArray.store des (i - m) 0 with
    | none => rfl
    | some des => rfl
  | succ rounds ih =>
    rw [stringcutLoop, readAt_inside (by omega), take_drop_succ inside, List.cons_append,
      CheckedArray.storeAll]
    show (writeAt des (i - m) _ >>= _) = _
    rw [writeAt]
    cases CheckedArray.store des (i - m) (str.get ⟨i, by omega⟩) with
    | none => rfl
    | some des =>
      rw [Option.bind_some, ← Nat.sub_add_comm begins, ← ih (by omega) (by omega)]
      rfl

/-- `Stringcut` fills an allocation of one byte more than the field. -/
theorem stringcut_field {str des : Bytes} (begins : m ≤ i) (inside : i ≤ str.length)
    (size : des.length = i - m + 1) :
    stringcut str m ((i : Int) - 1) des = .ok ((str.drop m).take (i - m) ++ [0]) := by
  have rounds : ((i : Int) - 1 + 1 - m).toNat = i - m := by omega
  have full : ((str.drop m).take (i - m) ++ [0]).length = des.length := by
    rw [List.length_append, List.length_take, List.length_drop, size, List.length_singleton]
    omega
  rw [stringcut, rounds, stringcutLoop_storeAll (by omega) le_rfl, Nat.sub_self,
    CheckedArray.storeAll_front (le_of_eq full), full, List.drop_length, List.append_nil]
  rfl

/-! ## The two passes -/

/-- The first pass counts the delimiters. -/
theorem countLoop_count (inside : i + rounds ≤ srcStr.length) (j : Nat) :
    countLoop srcStr delim rounds i j = .ok (j + ((srcStr.drop i).take rounds).count delim) := by
  induction rounds generalizing i j with
  | zero => simp [countLoop]
  | succ rounds ih =>
    rw [countLoop, readAt_inside (by omega), take_drop_succ inside, List.count_cons]
    show countLoop srcStr delim rounds (i + 1) _ = _
    rw [ih (by omega)]
    by_cases here : srcStr.get ⟨i, by omega⟩ = delim
    · rw [if_pos here, if_pos (beq_iff_eq.mpr here), Nat.add_assoc, Nat.add_comm 1]
    · rw [if_neg here, if_neg (fun same => here (beq_iff_eq.mp same))]
      rfl

/-- The allocation of a field that was cut. -/
def cutField (field : Bytes) : Option Bytes := some (field ++ [0])

/-- One byte more of a field. -/
theorem field_extend {bytes : Bytes} (begins : m ≤ i) (inside : i < bytes.length) :
    ((bytes.drop m).take (i + 1 - m)).reverse =
      bytes.get ⟨i, inside⟩ :: ((bytes.drop m).take (i - m)).reverse := by
  have place : i - m < (bytes.drop m).length := by
    rw [List.length_drop]
    omega
  have byte : (bytes.drop m)[i - m] = bytes.get ⟨i, inside⟩ := by
    rw [List.getElem_drop]
    simp only [List.get_eq_getElem]
    congr 1
    omega
  rw [Nat.sub_add_comm begins, List.take_succ_eq_append_getElem place, List.reverse_append, byte]
  rfl

/-- The second pass cuts the fields of `strSplit` into the places that are left. -/
theorem cutLoop_fields (inside : i + rounds ≤ srcStr.length) (begins : m ≤ i)
    (filled : List (Option Bytes)) (length : filled.length = l)
    (served : ∀ place, l ≤ place → place < l + ((srcStr.drop i).take rounds).count delim →
      (mallocs.field place).isSome = true) :
    cutLoop mallocs srcStr delim rounds i (i - m) l m
        (filled ++ List.replicate (((srcStr.drop i).take rounds).count delim) none) =
      .ok (filled ++ (splitLoop delim ((srcStr.drop m).take (i - m)).reverse
        ((srcStr.drop i).take rounds)).map cutField) := by
  induction rounds generalizing i l m filled with
  | zero => simp [cutLoop, splitLoop]
  | succ rounds ih =>
    have here : i < srcStr.length := by omega
    rw [take_drop_succ inside] at served ⊢
    rw [cutLoop, readAt_inside here]
    show (if _ then _ else _) = _
    by_cases same : srcStr.get ⟨i, here⟩ = delim
    · rw [if_neg (not_not.mpr same), splitLoop, if_pos same]
      rw [same, List.count_cons_self] at served ⊢
      obtain ⟨bytes, allocated⟩ := Option.isSome_iff_exists.mp (served l le_rfl (by omega))
      have place : l < (filled ++ List.replicate
          (((srcStr.drop (i + 1)).take rounds).count delim + 1) (none : Option Bytes)).length := by
        rw [List.length_append, List.length_replicate]
        omega
      have size : ((List.range (i - m + 1)).map bytes).length = i - m + 1 := by
        rw [List.length_map, List.length_range]
      have longer : (filled ++ [cutField ((srcStr.drop m).take (i - m))]).length = l + 1 := by
        rw [List.length_append, length, List.length_singleton]
      have next := ih (i := i + 1) (by omega) le_rfl _ longer fun place after bound =>
        served place (by omega) (by omega)
      rw [writeAt, CheckedArray.store_inside place, allocated]
      show (stringcut srcStr m _ _ >>= _) = _
      rw [stringcut_field begins (by omega) size]
      show cutLoop mallocs srcStr delim rounds (i + 1) 0 (l + 1) (i + 1) _ = _
      rw [List.set_set, List.replicate_succ, ← length, List.set_append_right _ _ le_rfl, Nat.sub_self,
        List.set_cons_zero, length]
      rw [Nat.sub_self, List.take_zero, List.reverse_nil, List.append_assoc, List.append_assoc] at next
      rw [List.reverse_reverse, List.map_cons]
      exact next
    · have rest := ih (by omega) (Nat.le_succ_of_le begins) filled length
        (fun place after bound => served place after (by
          rw [List.count_cons_of_ne same]
          exact bound))
      rw [if_pos same, splitLoop, if_neg same, List.count_cons_of_ne same, ← field_extend begins here,
        ← Nat.sub_add_comm begins]
      exact rest

/-- A pass that ends with a vector was served with memory for every field, and the vector had a place
for it. -/
theorem cutLoop_served {outStr filled : List (Option Bytes)} (inside : i + rounds ≤ srcStr.length)
    (done : cutLoop mallocs srcStr delim rounds i k l m outStr = .ok filled) :
    ∀ place, l ≤ place → place < l + ((srcStr.drop i).take rounds).count delim →
      place < outStr.length ∧ (mallocs.field place).isSome = true := by
  induction rounds generalizing i k l m outStr with
  | zero =>
    intro place after bound
    simp only [List.take_zero, List.count_nil] at bound
    omega
  | succ rounds ih =>
    have here : i < srcStr.length := by omega
    intro place after bound
    rw [take_drop_succ inside] at bound
    rw [cutLoop, readAt_inside here] at done
    replace done : (if _ then _ else _) = _ := done
    by_cases same : srcStr.get ⟨i, here⟩ = delim
    · rw [if_neg (not_not.mpr same), writeAt, CheckedArray.store] at done
      rw [same, List.count_cons_self] at bound
      by_cases room : l < outStr.length
      · rw [if_pos room] at done
        cases allocated : mallocs.field l with
        | none =>
          rw [allocated] at done
          contradiction
        | some bytes =>
          rw [allocated] at done
          replace done : (stringcut srcStr m _ _ >>= _) = _ := done
          cases cut : stringcut srcStr m ((i : Int) - 1) ((List.range (k + 1)).map bytes) with
          | error stop =>
            rw [cut] at done
            contradiction
          | ok field =>
            rw [cut] at done
            by_cases first : place = l
            · rw [first]
              exact ⟨room, Option.isSome_iff_exists.mpr ⟨bytes, allocated⟩⟩
            · have rest := ih (by omega) done place (by omega) (by omega)
              rw [List.length_set, List.length_set] at rest
              exact rest
      · rw [if_neg room] at done
        contradiction
    · rw [if_pos same] at done
      rw [List.count_cons_of_ne same] at bound
      exact ih (by omega) done place after bound

/-! ## The fields -/

/-- Fields written one after another, each followed by the delimiter. -/
def written (delim : UInt8) (fields : List Bytes) : Bytes :=
  fields.flatMap fun field => field ++ [delim]

/-- One field for each delimiter. -/
theorem splitLoop_count (field bytes : Bytes) :
    (splitLoop delim field bytes).length = bytes.count delim := by
  induction bytes generalizing field with
  | nil => rfl
  | cons c bytes ih =>
    rw [splitLoop]
    by_cases same : c = delim
    · rw [if_pos same, List.length_cons, ih, same, List.count_cons_self]
    · rw [if_neg same, ih, List.count_cons_of_ne same]

/-- The fields with their delimiters are the bytes up to the last delimiter. -/
theorem splitLoop_written {field : Bytes} (plain : delim ∉ field) (bytes : Bytes) :
    ∃ rest, field.reverse ++ bytes = written delim (splitLoop delim field bytes) ++ rest ∧
      delim ∉ rest := by
  induction bytes generalizing field with
  | nil =>
    refine ⟨field.reverse, ?_, fun member => plain (List.mem_reverse.mp member)⟩
    rw [List.append_nil]
    rfl
  | cons c bytes ih =>
    rw [splitLoop]
    by_cases same : c = delim
    · obtain ⟨rest, front, free⟩ := ih List.not_mem_nil
      refine ⟨rest, ?_, free⟩
      rw [List.reverse_nil, List.nil_append] at front
      rw [if_pos same, written, List.flatMap_cons, same, List.append_assoc, ← written, ← front]
      simp
    · have extended : delim ∉ c :: field := fun member =>
        (List.mem_cons.mp member).elim (fun equal => same equal.symm) plain
      obtain ⟨rest, front, free⟩ := ih extended
      rw [if_neg same]
      refine ⟨rest, ?_, free⟩
      rw [← front, List.reverse_cons, List.append_assoc, List.singleton_append]

/-- Fields that were written are read. -/
theorem splitLoop_read {fields : List Bytes} {tail : Bytes} (plain : ∀ field ∈ fields, delim ∉ field)
    (free : delim ∉ tail) : splitLoop delim [] (written delim fields ++ tail) = fields := by
  induction fields with
  | nil =>
    have none := splitLoop_append_plain [] [] free
    rw [List.nil_append] at none
    exact none
  | cons field fields ih =>
    have cut := splitLoop_cut (plain field List.mem_cons_self) (written delim fields ++ tail)
    rw [ih fun other member => plain other (List.mem_cons_of_mem _ member)] at cut
    have text : written delim (field :: fields) ++ tail =
        field ++ delim :: (written delim fields ++ tail) := by
      simp [written]
    rw [text, cut]

/-- The mallocs of a call with a number of fields succeed. -/
def Mallocs.Serve (mallocs : Mallocs) (number : Nat) : Prop :=
  (0 < number → mallocs.vector = true) ∧ ∀ place < number, (mallocs.field place).isSome = true

/-- The vector before the second pass. -/
def emptyVector (mallocs : Mallocs) (number : Nat) : List (Option Bytes) :=
  if mallocs.vector then List.replicate number none else []

/-- `StrSplit` by its second pass. -/
theorem strSplitMemory_cut {srcStrLen : Nat} (inside : srcStrLen ≤ srcStr.length) :
    strSplitMemory mallocs srcStr srcStrLen delim =
      (cutLoop mallocs srcStr delim srcStrLen 0 0 0 0
        (emptyVector mallocs ((srcStr.take srcStrLen).count delim))).map
          fun outStr => ((srcStr.take srcStrLen).count delim, outStr) := by
  have whole : 0 + srcStrLen ≤ srcStr.length := by omega
  rw [strSplitMemory, countLoop_count whole, Nat.zero_add, List.drop_zero]
  rfl

/-- `StrSplit` with the memory it asks for. -/
theorem strSplitMemory_served {srcStrLen : Nat} (inside : srcStrLen ≤ srcStr.length)
    (served : mallocs.Serve ((srcStr.take srcStrLen).count delim)) :
    strSplitMemory mallocs srcStr srcStrLen delim =
      .ok ((srcStr.take srcStrLen).count delim, (strSplit srcStr srcStrLen delim).map cutField) := by
  have whole : 0 + srcStrLen ≤ srcStr.length := by omega
  have vector : emptyVector mallocs ((srcStr.take srcStrLen).count delim) =
      List.replicate ((srcStr.take srcStrLen).count delim) none := by
    by_cases some : 0 < (srcStr.take srcStrLen).count delim
    · rw [emptyVector, if_pos (served.1 some)]
    · rw [emptyVector, Nat.eq_zero_of_not_pos some, List.replicate_zero, ite_self]
  have memory : ∀ place, 0 ≤ place →
      place < 0 + ((srcStr.drop 0).take srcStrLen).count delim →
        (mallocs.field place).isSome = true := by
    intro place _ bound
    rw [Nat.zero_add, List.drop_zero] at bound
    exact served.2 place bound
  have cut := cutLoop_fields (l := 0) whole (Nat.le_refl 0) [] rfl memory
  rw [List.drop_zero, Nat.sub_zero, List.take_zero, List.reverse_nil, List.nil_append,
    List.nil_append] at cut
  rw [strSplitMemory_cut inside, vector, cut]
  rfl

/-- `StrSplit` stops when an allocation that it needs is refused. -/
theorem strSplitMemory_refused {srcStrLen : Nat} (inside : srcStrLen ≤ srcStr.length)
    (refused : ¬ mallocs.Serve ((srcStr.take srcStrLen).count delim)) :
    ∃ stop, strSplitMemory mallocs srcStr srcStrLen delim = .error stop := by
  have whole : 0 + srcStrLen ≤ srcStr.length := by omega
  rw [strSplitMemory_cut inside]
  cases done : cutLoop mallocs srcStr delim srcStrLen 0 0 0 0
      (emptyVector mallocs ((srcStr.take srcStrLen).count delim)) with
  | error stop => exact ⟨stop, rfl⟩
  | ok outStr =>
    have memory := cutLoop_served whole done
    rw [Nat.zero_add, List.drop_zero] at memory
    refine absurd ⟨fun some => ?_, fun place bound => (memory place (Nat.zero_le _) bound).2⟩ refused
    by_contra missing
    have room := (memory 0 le_rfl some).1
    rw [emptyVector, if_neg missing] at room
    contradiction

/-- A vector of fields of a buffer: one for each delimiter, each in an allocation that it fills with
its terminator, and the delimited bytes are the fields with their delimiters. -/
structure SplitsInto (bytes : Bytes) (delim : UInt8) (number : Nat) (outStr : List (Option Bytes))
    (fields : List Bytes) : Prop where
  /-- As many as there are delimiters. -/
  counted : number = bytes.count delim
  length : fields.length = number
  /-- The allocations. -/
  allocated : outStr = fields.map cutField
  /-- No field has the delimiter. -/
  plain : ∀ field ∈ fields, delim ∉ field
  /-- The bytes up to the last delimiter. -/
  front : ∃ rest, bytes = written delim fields ++ rest ∧ delim ∉ rest

/-- For every buffer, length and delimiter `StrSplit` returns the delimited fields, each written
within its allocation, when the memory it asks for is there; and a text of fields that were
written each with the delimiter after it is split into these fields. -/
theorem strSplit_fields :
    (∀ (srcStr : Bytes) (srcStrLen : Nat) (delim : UInt8) (mallocs : Mallocs),
      srcStrLen ≤ srcStr.length →
      (mallocs.Serve ((srcStr.take srcStrLen).count delim) →
        ∃ number outStr fields, strSplitMemory mallocs srcStr srcStrLen delim = .ok (number, outStr) ∧
          SplitsInto (srcStr.take srcStrLen) delim number outStr fields) ∧
      (¬ mallocs.Serve ((srcStr.take srcStrLen).count delim) →
        ∃ stop, strSplitMemory mallocs srcStr srcStrLen delim = .error stop)) ∧
    (∀ (fields : List Bytes) (delim : UInt8) (tail more : Bytes) (mallocs : Mallocs),
      (∀ field ∈ fields, delim ∉ field ∧ 0 ∉ field) → delim ∉ tail → mallocs.Serve fields.length →
      ∃ outStr, strSplitMemory mallocs (written delim fields ++ tail ++ more)
          (written delim fields ++ tail).length delim = .ok (fields.length, outStr) ∧
        outStr.map (Option.map cstr) = fields.map some) := by
  refine ⟨fun srcStr srcStrLen delim mallocs inside => ⟨fun served => ?_, ?_⟩, ?_⟩
  · obtain ⟨rest, front, free⟩ := splitLoop_written List.not_mem_nil (srcStr.take srcStrLen)
    refine ⟨_, _, strSplit srcStr srcStrLen delim, strSplitMemory_served inside served, ?_⟩
    constructor
    · rfl
    · exact splitLoop_count [] _
    · rfl
    · exact splitLoop_plain List.not_mem_nil
    · exact ⟨rest, front, free⟩
  · exact strSplitMemory_refused inside
  · intro fields delim tail more mallocs plain free served
    have text : (written delim fields ++ tail ++ more).take (written delim fields ++ tail).length =
        written delim fields ++ tail := List.take_left
    have fieldsPlain : ∀ field ∈ fields, delim ∉ field := fun field member => (plain field member).1
    have read := splitLoop_read fieldsPlain free
    have number : (written delim fields ++ tail).count delim = fields.length := by
      rw [← splitLoop_count [], read]
    have inside : (written delim fields ++ tail).length ≤
        (written delim fields ++ tail ++ more).length := by
      simp only [List.length_append]
      omega
    have done := strSplitMemory_served inside (by rw [text, number]; exact served)
    rw [strSplit, text, number, read] at done
    refine ⟨_, done, ?_⟩
    rw [List.map_map]
    refine List.map_congr_left fun field member => ?_
    have ends : cstr (field ++ [0]) = field := by
      rw [cstr_snoc_zero]
      exact cstr_of_plain (plain field member).2
    show some (cstr (field ++ [0])) = some field
    rw [ends]

/-- Memory for everything. -/
def plenty : Mallocs := ⟨true, fun _ => some fun _ => 255⟩

/-- The text `a__bc_d`: three fields, the second of them empty, and `d` is none; and the written
fields. -/
theorem strSplit_fields_three :
    strSplitMemory plenty (text "a__bc_d") 7 underscore =
        .ok (3, [some (text "a" ++ [0]), some [0], some (text "bc" ++ [0])]) ∧
      (∃ number outStr fields, strSplitMemory plenty (text "a__bc_d") 7 underscore =
          .ok (number, outStr) ∧
        SplitsInto ((text "a__bc_d").take 7) underscore number outStr fields) ∧
      ∃ outStr, strSplitMemory plenty (written underscore [text "5", text "on"] ++ [0] ++ text "_")
          (written underscore [text "5", text "on"] ++ [0]).length underscore = .ok (2, outStr) ∧
        outStr.map (Option.map cstr) = [some (text "5"), some (text "on")] := by
  refine ⟨by decide +kernel, ?_, ?_⟩
  · exact (strSplit_fields.1 (text "a__bc_d") 7 underscore plenty (by decide +kernel)).1
      ⟨fun _ => rfl, fun _ _ => rfl⟩
  · exact strSplit_fields.2 [text "5", text "on"] underscore [0] (text "_") plenty
      (by decide +kernel) (by decide +kernel) ⟨fun _ => rfl, fun _ _ => rfl⟩

end UubangIot.StrSplit
