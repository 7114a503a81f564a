import Mathlib.Data.List.Basic
import Mathlib.Tactic.Common

/-!
# Quoted literals with doubled quotes and backslash escapes

The lexical rules of a string literal in MySQL: it ends at the first single quote that is neither
doubled nor escaped, two quotes stand for one, and a backslash with the character after it stands
for the character the escape names (for itself, with the backslash, before the two wildcards). A
statement is read as the characters outside its literals and the values of the literals.

`lex_format_iff` says when values put between quotes without any escaping are read back: exactly
when none of them holds a quote, or a backslash that is not before a wildcard.
-/

namespace QuotedText

/-- A text as its bytes. -/
abbrev Text := List UInt8

/-- The single quote. -/
def quote : UInt8 := 39
/-- The backslash. -/
def backslash : UInt8 := 92

/-- The characters whose escape keeps the backslash: `%` and `_`. -/
def wildcard (c : UInt8) : Bool := c = 37 || c = 95

/-- What a backslash and the character after it stand for. -/
def unescape (c : UInt8) : Text :=
  if wildcard c then [backslash, c]
  else if c = 48 then [0]
  else if c = 98 then [8]
  else if c = 110 then [10]
  else if c = 114 then [13]
  else if c = 116 then [9]
  else if c = 90 then [26]
  else [c]

/-- Put characters before the value of a literal. -/
def prepend (front : Text) (read : Option (Text × Text)) : Option (Text × Text) :=
  read.map fun (value, rest) => (front ++ value, rest)

/-- A literal after its opening quote: its value, and what follows the closing quote. -/
def readLiteral : Text → Option (Text × Text)
  | [] => none
  | [c] => if c = quote then some ([], []) else none
  | c :: d :: more =>
    if c = quote then
      if d = quote then prepend [quote] (readLiteral more) else some ([], d :: more)
    else if c = backslash then prepend (unescape d) (readLiteral more)
    else prepend [c] (readLiteral (d :: more))

/-- A part of a statement. -/
inductive Token
  /-- A character outside the literals. -/
  | plain (c : UInt8)
  /-- A literal by its value. -/
  | literal (value : Text)
  deriving DecidableEq, Repr

/-- A statement by its tokens, outside of literals or within one whose value begins as given; none
when its last literal has no end. -/
def lex : Option Text → Text → Option (List Token)
  | none, [] => some []
  | none, c :: rest =>
    if c = quote then lex (some []) rest else (lex none rest).map (.plain c :: ·)
  | some _, [] => none
  | some front, [c] => if c = quote then some [.literal front] else none
  | some front, c :: d :: more =>
    if c = quote then
      if d = quote then lex (some (front ++ [quote])) more
      else (lex none (d :: more)).map (.literal front :: ·)
    else if c = backslash then lex (some (front ++ unescape d)) more
    else lex (some (front ++ [c])) (d :: more)

/-- Neither a quote nor a backslash that is not before a wildcard. -/
def clean : Text → Bool
  | [] => true
  | [c] => c ≠ quote && c ≠ backslash
  | c :: d :: more =>
    if c = quote then false
    else if c = backslash then wildcard d && clean more
    else clean (d :: more)

/-- Text without quotes and backslashes is clean. -/
theorem clean_of_plain {value : Text} (unquoted : quote ∉ value) (unescaped : backslash ∉ value) :
    clean value = true := by
  induction value using clean.induct with
  | case1 => rfl
  | case2 c => simp_all [clean, eq_comm]
  | case3 d more => simp at unquoted
  | case4 d more different ih => simp at unescaped
  | case5 c d more notQuote notBackslash ih => simp_all [clean]

/-! ## Reading one literal -/

/-- Prepending succeeds where the reading did. -/
@[simp]
theorem prepend_eq_some {front value rest : Text} {read : Option (Text × Text)} :
    prepend front read = some (value, rest) ↔
      ∃ tail, read = some (tail, rest) ∧ value = front ++ tail := by
  simp only [prepend, Option.map_eq_some_iff, Prod.exists, Prod.mk.injEq]
  constructor
  · rintro ⟨tail, after, found, rfl, rfl⟩
    exact ⟨tail, found, rfl⟩
  · rintro ⟨tail, found, rfl⟩
    exact ⟨tail, rest, found, rfl, rfl⟩

/-- Any other character stands for itself. -/
theorem readLiteral_plain {c : UInt8} (notQuote : c ≠ quote) (notBackslash : c ≠ backslash)
    {rest : Text} (more : rest ≠ []) :
    readLiteral (c :: rest) = prepend [c] (readLiteral rest) := by
  cases rest with
  | nil => contradiction
  | cons d rest => simp [readLiteral, notQuote, notBackslash]

/-- A backslash and the character after it. -/
theorem readLiteral_escape (c : UInt8) (rest : Text) :
    readLiteral (backslash :: c :: rest) = prepend (unescape c) (readLiteral rest) := by
  simp [readLiteral, quote, backslash]

/-- Two quotes inside a literal stand for one, and the literal goes on. -/
theorem readLiteral_doubled (rest : Text) :
    readLiteral (quote :: quote :: rest) = prepend [quote] (readLiteral rest) := by
  simp [readLiteral]

/-- A quote that no other follows ends the literal. -/
theorem readLiteral_close {c : UInt8} (single : c ≠ quote) (rest : Text) :
    readLiteral (quote :: c :: rest) = some ([], c :: rest) := by
  simp [readLiteral, single]

/-- An escape of a wildcard stands for itself. -/
theorem unescape_wildcard {c : UInt8} (kept : wildcard c = true) :
    unescape c = [backslash, c] := by
  simp [unescape, kept]

/-- Any other escape is a single character. -/
theorem unescape_single {c : UInt8} (other : wildcard c = false) :
    ∃ stood, unescape c = [stood] := by
  simp only [unescape, other, Bool.false_eq_true, if_false]
  repeat' split
  all_goals exact ⟨_, rfl⟩

/-- A clean value is read back. -/
theorem readLiteral_clean {value : Text} (good : clean value = true) {next : UInt8}
    (single : next ≠ quote) (rest : Text) :
    readLiteral (value ++ quote :: next :: rest) = some (value, next :: rest) := by
  induction value using clean.induct with
  | case1 => exact readLiteral_close single rest
  | case2 c =>
    simp only [clean, Bool.and_eq_true, decide_eq_true_eq, ne_eq] at good
    rw [List.cons_append, readLiteral_plain good.1 good.2 (by simp)]
    simp [readLiteral_close single rest]
  | case3 d more => simp [clean] at good
  | case4 d more different ih =>
    simp only [clean, different, if_false, if_true, Bool.and_eq_true] at good
    rw [List.cons_append, List.cons_append, readLiteral_escape, ih good.2,
      unescape_wildcard good.1]
    rfl
  | case5 c d more notQuote notBackslash ih =>
    simp only [clean, notQuote, notBackslash, if_false] at good
    rw [List.cons_append, readLiteral_plain notQuote notBackslash (by simp), ih good]
    rfl

/-- A character that may follow a literal: no quote, and itself also behind a backslash. -/
def separator (c : UInt8) : Bool := c ≠ quote && c ≠ backslash && unescape c = [c]

variable {next : UInt8}

/-- A separator is no quote, no backslash, and itself when it is escaped. -/
theorem separator_iff :
    separator next = true ↔ next ≠ quote ∧ next ≠ backslash ∧ unescape next = [next] := by
  simp [separator, and_assoc]

/-- A value read from a separator on begins with it. -/
theorem readLiteral_separator (separates : separator next = true) {rest value after : Text}
    (read : readLiteral (next :: rest) = some (value, after)) :
    ∃ tail, value = next :: tail := by
  obtain ⟨notQuote, notBackslash, -⟩ := separator_iff.mp separates
  cases rest with
  | nil => simp [readLiteral, notQuote] at read
  | cons d rest =>
    rw [readLiteral_plain notQuote notBackslash (by simp), prepend_eq_some] at read
    obtain ⟨tail, -, rfl⟩ := read
    exact ⟨tail, rfl⟩

/-- A literal that runs over its closing quote has the separator in its value, so it cannot be what
is left of the text behind anything without the separator. -/
theorem readLiteral_overrun (separates : separator next = true) (rest after left front : Text)
    (some_front : front ≠ []) (absent : next ∉ front) :
    readLiteral (left ++ quote :: next :: rest) ≠ some (front ++ left, after) := by
  obtain ⟨notQuote, notBackslash, fixed⟩ := separator_iff.mp separates
  intro read
  induction left using readLiteral.induct generalizing front with
  | case1 =>
    rw [List.nil_append, readLiteral_close notQuote] at read
    simp_all
  | case2 =>
    rw [List.singleton_append, readLiteral_doubled, prepend_eq_some] at read
    obtain ⟨tail, later, same⟩ := read
    obtain ⟨tail, rfl⟩ := readLiteral_separator separates later
    rcases front with _ | ⟨a, _ | ⟨b, front⟩⟩ <;> simp_all
  | case3 c other =>
    by_cases escape : c = backslash
    · subst escape
      rw [List.singleton_append, readLiteral_escape, prepend_eq_some] at read
      obtain ⟨tail, later, same⟩ := read
      obtain ⟨tail, rfl⟩ := readLiteral_separator separates later
      have single : unescape quote = [quote] := by decide
      rw [single] at same
      rcases front with _ | ⟨a, _ | ⟨b, front⟩⟩ <;> simp_all
    · rw [List.singleton_append, readLiteral_plain other escape (by simp), prepend_eq_some,
        readLiteral_close notQuote] at read
      rcases front with _ | ⟨a, front⟩ <;> simp_all
  | case4 more ih =>
    rw [List.cons_append, List.cons_append, readLiteral_doubled, prepend_eq_some] at read
    obtain ⟨tail, later, same⟩ := read
    rcases front with _ | ⟨a, front⟩
    · contradiction
    · apply ih (front ++ [quote, quote])
      · simp
      · simp_all
      · simp_all
  | case5 d more other =>
    rw [List.cons_append, List.cons_append, readLiteral_close other] at read
    simp_all
  | case6 d more different ih =>
    rw [List.cons_append, List.cons_append, readLiteral_escape, prepend_eq_some] at read
    obtain ⟨tail, later, same⟩ := read
    cases kept : wildcard d with
    | true =>
      have unlike : next ≠ d := by
        rintro rfl
        rw [unescape_wildcard kept] at fixed
        simp at fixed
      have other : d ≠ backslash := by
        rintro rfl
        exact absurd kept (by decide)
      rw [unescape_wildcard kept] at same
      rcases front with _ | ⟨a, _ | ⟨b, front⟩⟩
      · contradiction
      · simp_all
      · apply ih (front ++ [backslash, d])
        · simp
        · simp_all
        · simp_all
    | false =>
      obtain ⟨stood, single⟩ := unescape_single kept
      rw [single] at same
      rcases front with _ | ⟨a, front⟩
      · contradiction
      · have unlike : next ≠ d := by
          rintro rfl
          simp_all
        apply ih (front ++ [backslash, d])
        · simp
        · simp_all
        · simp_all
  | case7 c d more notQuote' notBackslash' ih =>
    rw [List.cons_append, readLiteral_plain notQuote' notBackslash' (by simp), prepend_eq_some]
      at read
    obtain ⟨tail, later, same⟩ := read
    rcases front with _ | ⟨a, front⟩
    · contradiction
    · apply ih (front ++ [c])
      · simp
      · simp_all
      · simp_all

/-- Only a clean value is read back. -/
theorem clean_of_readLiteral (separates : separator next = true) {value rest after : Text}
    (read : readLiteral (value ++ quote :: next :: rest) = some (value, after)) :
    clean value = true := by
  obtain ⟨notQuote, notBackslash, fixed⟩ := separator_iff.mp separates
  have overrun := readLiteral_overrun separates rest after
  induction value using readLiteral.induct with
  | case1 => rfl
  | case2 =>
    rw [List.singleton_append, readLiteral_doubled, prepend_eq_some] at read
    obtain ⟨tail, later, same⟩ := read
    obtain ⟨tail, rfl⟩ := readLiteral_separator separates later
    simp at same
  | case3 c other =>
    by_cases escape : c = backslash
    · subst escape
      rw [List.singleton_append, readLiteral_escape, prepend_eq_some] at read
      obtain ⟨tail, -, same⟩ := read
      have single : unescape quote = [quote] := by decide
      rw [single] at same
      simp [quote, backslash] at same
    · simp [clean, other, escape]
  | case4 more ih =>
    rw [List.cons_append, List.cons_append, readLiteral_doubled, prepend_eq_some] at read
    obtain ⟨tail, later, same⟩ := read
    obtain rfl : tail = [quote] ++ more := by simpa using same.symm
    exact absurd later (overrun more [quote] (by simp) (by simpa using notQuote))
  | case5 d more other =>
    rw [List.cons_append, List.cons_append, readLiteral_close other] at read
    simp at read
  | case6 d more different ih =>
    rw [List.cons_append, List.cons_append, readLiteral_escape, prepend_eq_some] at read
    obtain ⟨tail, later, same⟩ := read
    cases kept : wildcard d with
    | true =>
      rw [unescape_wildcard kept] at same
      obtain rfl : tail = more := by simpa using same.symm
      simp [clean, kept, different, ih later]
    | false =>
      obtain ⟨stood, single⟩ := unescape_single kept
      rw [single] at same
      have unlike : next ∉ [d] := by
        simp only [List.mem_singleton]
        rintro rfl
        simp_all
      obtain rfl : tail = [d] ++ more := by simp_all
      exact absurd later (overrun more [d] (by simp) unlike)
  | case7 c d more notQuote' notBackslash' ih =>
    rw [List.cons_append, readLiteral_plain notQuote' notBackslash' (by simp), prepend_eq_some]
      at read
    obtain ⟨tail, later, same⟩ := read
    obtain rfl : tail = d :: more := by simpa using same.symm
    simp [clean, notQuote', notBackslash', ih later]

/-! ## Reading a statement -/

/-- Within a literal the statement is read as the literal and what follows it. -/
theorem lex_literal (front rest : Text) :
    lex (some front) rest = (readLiteral rest).bind fun (value, after) =>
      (lex none after).map (.literal (front ++ value) :: ·) := by
  induction rest using readLiteral.induct generalizing front with
  | case1 => rfl
  | case2 => simp [lex, readLiteral]
  | case3 c other => simp [lex, readLiteral, other]
  | case4 more ih =>
    cases read : readLiteral more <;> simp [lex, readLiteral, prepend, ih, read]
  | case5 d more other => simp [lex, readLiteral, other]
  | case6 d more different ih =>
    cases read : readLiteral more <;> simp [lex, readLiteral, prepend, different, ih, read]
  | case7 c d more notQuote notBackslash ih =>
    cases read : readLiteral (d :: more) <;>
      simp [lex, readLiteral, prepend, notQuote, notBackslash, ih, read]

/-- Text without quotes is read as its characters. -/
theorem lex_plain {piece : Text} (unquoted : quote ∉ piece) (rest : Text) :
    lex none (piece ++ rest) = (lex none rest).map (piece.map Token.plain ++ ·) := by
  induction piece with
  | nil => simp
  | cons c piece ih =>
    rw [List.mem_cons, not_or] at unquoted
    obtain ⟨other, unquoted⟩ := unquoted
    have notQuote : c ≠ quote := fun same => other same.symm
    simp [lex, notQuote, ih unquoted, Function.comp_def]

/-- A statement: text and a value between quotes, over and over, and the text after the last
value. -/
def format : List (Text × Text) → Text → Text
  | [], tail => tail
  | (piece, value) :: more, tail => piece ++ quote :: (value ++ quote :: format more tail)

/-- The tokens its template means. -/
def tokens : List (Text × Text) → Text → List Token
  | [], tail => tail.map .plain
  | (piece, value) :: more, tail => piece.map .plain ++ .literal value :: tokens more tail

/-- A token without the value of its literal. -/
def Token.erased : Token → Token
  | .plain c => .plain c
  | .literal _ => .literal []

/-- Without its values a statement is its template. -/
theorem map_erased_tokens (segments : List (Text × Text)) (tail : Text) :
    (tokens segments tail).map Token.erased =
      tokens ((segments.map Prod.fst).map fun piece => (piece, [])) tail := by
  have plain (piece : Text) : (piece.map Token.plain).map Token.erased = piece.map Token.plain := by
    simp [Token.erased]
  induction segments with
  | nil => exact plain tail
  | cons segment more ih => simp [tokens, Token.erased, ih]

/-- Text that may stand after a literal. -/
def separates (piece : Text) : Bool := piece.head?.any separator

/-- What follows a value, by the texts before the next values. -/
def following : List Text → Text → Text
  | [], tail => tail
  | piece :: _, _ => piece

/-- A template by the texts before its values: no quotes of its own, and a separator after each
value. -/
def template : List Text → Text → Bool
  | [], tail => quote ∉ tail
  | piece :: more, tail => quote ∉ piece && separates (following more tail) && template more tail

/-- What follows a value begins with a separator. -/
theorem format_following {segments : List (Text × Text)} {tail : Text}
    (begins : separates (following (segments.map Prod.fst) tail) = true) :
    ∃ next rest, format segments tail = next :: rest ∧ separator next = true := by
  have heads (piece rest : Text) (first : separates piece = true) :
      ∃ next more, piece ++ rest = next :: more ∧ separator next = true := by
    cases piece with
    | nil => simp [separates] at first
    | cons next piece => exact ⟨next, piece ++ rest, rfl, by simpa [separates] using first⟩
  cases segments with
  | nil =>
    obtain ⟨next, more, same, first⟩ := heads tail [] begins
    exact ⟨next, more, by simpa [format] using same, first⟩
  | cons segment more => exact heads segment.1 _ begins

/-- Values between quotes are read back exactly when all of them are clean. -/
theorem lex_format_iff {segments : List (Text × Text)} {tail : Text}
    (good : template (segments.map Prod.fst) tail = true) :
    lex none (format segments tail) = some (tokens segments tail) ↔
      ∀ segment ∈ segments, clean segment.2 = true := by
  induction segments with
  | nil =>
    have unquoted : quote ∉ tail := by simpa [template] using good
    have read := lex_plain unquoted []
    simp only [List.append_nil, lex, Option.map_some] at read
    simp [format, tokens, read]
  | cons segment more ih =>
    obtain ⟨piece, value⟩ := segment
    simp only [List.map_cons, template, Bool.and_eq_true, decide_eq_true_eq] at good
    obtain ⟨⟨unquoted, begins⟩, rest⟩ := good
    obtain ⟨next, after, follows, separates⟩ := format_following begins
    have notQuote : next ≠ quote := (separator_iff.mp separates).1
    rw [format, lex_plain unquoted, lex, if_pos rfl, lex_literal, tokens, List.forall_mem_cons,
      ← ih rest, follows]
    constructor
    · intro read
      obtain ⟨found, lexed, same⟩ := Option.map_eq_some_iff.mp read
      obtain ⟨⟨other, left⟩, literal, later⟩ := Option.bind_eq_some_iff.mp lexed
      obtain ⟨others, last, rfl⟩ := Option.map_eq_some_iff.mp later
      have tail := List.append_cancel_left same
      simp only [List.nil_append, List.cons.injEq, Token.literal.injEq] at tail
      obtain ⟨rfl, rfl⟩ := tail
      have good := clean_of_readLiteral separates literal
      refine ⟨good, ?_⟩
      rw [readLiteral_clean good notQuote] at literal
      simp only [Option.some.injEq, Prod.mk.injEq, true_and] at literal
      rw [literal, last]
    · rintro ⟨good, later⟩
      simp [readLiteral_clean good notQuote, later]

end QuotedText
