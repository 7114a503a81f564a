import Mathlib.Data.List.Basic
import Mathlib.Data.Option.Basic

/-!
# Programs over an operation signature

A program is a finite tree of operation calls: each call waits for a response of the
operation's own type and continues with it. The tree says nothing about what an operation
does, so one program serves every reading of its operations: all responses arbitrary
(`Path`), responses drawn from a given list (`replay`), or responses fixed by a shared state.
An operation whose response type is empty is a fault, and no path goes past it.

`Only` bounds which operations a program may call, `Leads` bounds them until a goal is left to do,
`Ensures` states a postcondition over the trace and the result of every path. Each has a rule for
each way programs are built.
-/

namespace Effect

/-- A program with operations `Op`, responses `Res` and result `α`. -/
inductive Prog (Op : Type) (Res : Op → Type) (α : Type) : Type where
  /-- Stop with a value. -/
  | ret (value : α)
  /-- Call an operation and continue with its response. -/
  | call (op : Op) (next : Res op → Prog Op Res α)

/-- One operation together with its response. -/
abbrev Event (Op : Type) (Res : Op → Type) := (op : Op) × Res op

namespace Prog

variable {Op : Type} {Res : Op → Type} {α β γ : Type}

/-- Run a program, then the program its result selects. -/
def bind : Prog Op Res α → (α → Prog Op Res β) → Prog Op Res β
  | .ret value, f => f value
  | .call op next, f => .call op fun response => (next response).bind f

instance : Monad (Prog Op Res) where
  pure := .ret
  bind := .bind

/-- The monad returns by the constructor. -/
@[simp]
theorem pure_eq (value : α) : (pure value : Prog Op Res α) = .ret value := rfl

/-- A result goes to what follows. -/
@[simp]
theorem ret_bind (value : α) (f : α → Prog Op Res β) : (Prog.ret value >>= f) = f value := rfl

/-- A sequence begins with the operation of its first part. -/
@[simp]
theorem call_bind (op : Op) (next : Res op → Prog Op Res α) (f : α → Prog Op Res β) :
    (Prog.call op next >>= f) = .call op fun response => next response >>= f := rfl

/-- Returning the result of a program is the program. -/
@[simp]
theorem bind_ret (program : Prog Op Res α) : (program >>= Prog.ret) = program := by
  induction program with
  | ret value => rfl
  | call op next ih =>
    rw [call_bind]
    exact congrArg (Prog.call op) (funext ih)

/-- Sequences associate. -/
theorem bind_bind (program : Prog Op Res α) (f : α → Prog Op Res β) (g : β → Prog Op Res γ) :
    (program >>= f) >>= g = program >>= fun value => f value >>= g := by
  induction program with
  | ret value => rfl
  | call op next ih =>
    rw [call_bind, call_bind, call_bind]
    exact congrArg (Prog.call op) (funext ih)

/-- A mapped result is a sequence with a return. -/
@[simp]
theorem map_eq (program : Prog Op Res α) (f : α → β) :
    f <$> program = program >>= fun value => .ret (f value) := rfl

/-! ## Paths -/

/-- A complete path: the responses along it are arbitrary, its operations are the program's. -/
def Path : Prog Op Res α → List (Event Op Res) → α → Prop
  | .ret value, trace, result => trace = [] ∧ result = value
  | .call op next, trace, result =>
    ∃ response rest, trace = ⟨op, response⟩ :: rest ∧ (next response).Path rest result

/-- A return has the empty path. -/
@[simp]
theorem path_ret (value : α) (trace : List (Event Op Res)) (result : α) :
    (Prog.ret value : Prog Op Res α).Path trace result ↔ trace = [] ∧ result = value := Iff.rfl

/-- A path of an operation is its event and a path of what follows its response. -/
@[simp]
theorem path_call (op : Op) (next : Res op → Prog Op Res α) (trace : List (Event Op Res))
    (result : α) :
    (Prog.call op next).Path trace result ↔
      ∃ response rest, trace = ⟨op, response⟩ :: rest ∧ (next response).Path rest result :=
  Iff.rfl

/-- Two continuations of a program that are the same in a sequence are the same at each of its
results. -/
theorem Path.continues {program : Prog Op Res α} {f g : α → Prog Op Res β}
    {trace : List (Event Op Res)} {value : α} (path : program.Path trace value)
    (same : program >>= f = program >>= g) : f value = g value := by
  induction program generalizing trace with
  | ret found =>
    obtain ⟨-, rfl⟩ := path
    exact same
  | call op next ih =>
    obtain ⟨response, rest, -, later⟩ := path
    rw [call_bind, call_bind, Prog.call.injEq] at same
    exact ih response later (congrFun (eq_of_heq same.2) response)

/-- A path of a sequence is a path of its first part followed by one of the selected second. -/
theorem path_bind (program : Prog Op Res α) (f : α → Prog Op Res β)
    (trace : List (Event Op Res)) (result : β) :
    (program >>= f).Path trace result ↔
      ∃ before value after, trace = before ++ after ∧ program.Path before value ∧
        (f value).Path after result := by
  induction program generalizing trace with
  | ret value =>
    constructor
    · intro path
      exact ⟨[], value, trace, rfl, ⟨rfl, rfl⟩, path⟩
    · rintro ⟨before, found, after, rfl, ⟨rfl, rfl⟩, path⟩
      exact path
  | call op next ih =>
    constructor
    · rintro ⟨response, rest, rfl, path⟩
      obtain ⟨before, value, after, rfl, first, second⟩ := (ih response rest).mp path
      exact ⟨⟨op, response⟩ :: before, value, after, rfl, ⟨response, before, rfl, first⟩, second⟩
    · rintro ⟨before, value, after, rfl, ⟨response, rest, rfl, first⟩, second⟩
      exact ⟨response, rest ++ after, rfl,
        (ih response _).mpr ⟨rest, value, after, rfl, first, second⟩⟩

/-! ## Bounding the operations of a program -/

/-- Every operation the program may call is allowed, whatever the responses. -/
def Only (allowed : Op → Prop) : Prog Op Res α → Prop
  | .ret _ => True
  | .call op next => allowed op ∧ ∀ response, (next response).Only allowed

variable {allowed : Op → Prop}

/-- A return calls nothing. -/
@[simp]
theorem only_ret (value : α) : (Prog.ret value : Prog Op Res α).Only allowed := trivial

/-- An operation is allowed, and what follows any response of it. -/
@[simp]
theorem only_call (op : Op) (next : Res op → Prog Op Res α) :
    (Prog.call op next).Only allowed ↔
      allowed op ∧ ∀ response, (next response).Only allowed := Iff.rfl

/-- A sequence calls only what its parts call. -/
theorem Only.bind {program : Prog Op Res α} {f : α → Prog Op Res β}
    (first : program.Only allowed) (second : ∀ value, (f value).Only allowed) :
    (program >>= f).Only allowed := by
  induction program with
  | ret value => exact second value
  | call op next ih => exact ⟨first.1, fun response => ih response (first.2 response)⟩

/-- A sequence, the second part after a path of the first. -/
theorem Only.bind_path {program : Prog Op Res α} {f : α → Prog Op Res β}
    (first : program.Only allowed)
    (second : ∀ trace value, program.Path trace value → (f value).Only allowed) :
    (program >>= f).Only allowed := by
  induction program with
  | ret value => exact second [] value ⟨rfl, rfl⟩
  | call op next ih =>
    refine ⟨first.1, fun response => ih response (first.2 response) fun trace value path => ?_⟩
    exact second (⟨op, response⟩ :: trace) value ⟨response, trace, rfl, path⟩

/-- Allowing more operations keeps the bound. -/
theorem Only.mono {wider : Op → Prop} {program : Prog Op Res α}
    (bounded : program.Only allowed) (implied : ∀ op, allowed op → wider op) :
    program.Only wider := by
  induction program with
  | ret value => trivial
  | call op next ih => exact ⟨implied _ bounded.1, fun response => ih response (bounded.2 response)⟩

/-- Every event of a path of a bounded program is allowed. -/
theorem Only.path {program : Prog Op Res α} (bounded : program.Only allowed)
    {trace : List (Event Op Res)} {result : α} (path : program.Path trace result) :
    ∀ event ∈ trace, allowed event.1 := by
  induction program generalizing trace with
  | ret value =>
    obtain ⟨rfl, -⟩ := path
    simp
  | call op next ih =>
    obtain ⟨response, rest, rfl, path⟩ := path
    intro event member
    rcases List.mem_cons.mp member with rfl | member
    · exact bounded.1
    · exact ih response (bounded.2 response) path event member

/-! ## Programs that lead to a goal -/

/-- Whatever the responses heard, the program calls only allowed operations until what is left of
it is a goal. -/
inductive Leads (allowed : Op → Prop) (heard : Event Op Res → Prop)
    (goal : Prog Op Res α → Prop) : Prog Op Res α → Prop
  /-- What is left is a goal. -/
  | here {program : Prog Op Res α} (reached : goal program) : Leads allowed heard goal program
  /-- An allowed call, and every heard response leads on. -/
  | call {op : Op} {next : Res op → Prog Op Res α} (first : allowed op)
      (later : ∀ response, heard ⟨op, response⟩ → Leads allowed heard goal (next response)) :
      Leads allowed heard goal (.call op next)

variable {heard : Event Op Res → Prop} {goal : Prog Op Res α → Prop}

/-- A sequence leads to a goal when its second part does from every goal of the first. -/
theorem Leads.bind {program : Prog Op Res α} {f : α → Prog Op Res β} {last : Prog Op Res β → Prop}
    (first : program.Leads allowed heard goal)
    (second : ∀ rest, goal rest → (rest >>= f).Leads allowed heard last) :
    (program >>= f).Leads allowed heard last := by
  induction first with
  | here reached => exact second _ reached
  | call first later ih => exact .call first ih

/-- A bounded program leads to wherever its continuation does. -/
theorem Only.leads {program : Prog Op Res α} {f : α → Prog Op Res β} {last : Prog Op Res β → Prop}
    (bounded : program.Only allowed) (second : ∀ value, (f value).Leads allowed heard last) :
    (program >>= f).Leads allowed heard last := by
  induction program with
  | ret value => exact second value
  | call op next ih => exact .call bounded.1 fun response _ => ih response (bounded.2 response)

/-- Where every response is heard, a program that leads to bounded goals is bounded. -/
theorem Leads.only {wider : Op → Prop} {program : Prog Op Res α}
    (leads : program.Leads allowed heard goal) (total : ∀ event, heard event)
    (implied : ∀ op, allowed op → wider op) (bounded : ∀ rest, goal rest → rest.Only wider) :
    program.Only wider := by
  induction leads with
  | here reached => exact bounded _ reached
  | call first later ih => exact ⟨implied _ first, fun response => ih response (total _)⟩

/-- Allowing more operations and more goals keeps the lead. -/
theorem Leads.mono {wider : Op → Prop} {further : Prog Op Res α → Prop} {program : Prog Op Res α}
    (leads : program.Leads allowed heard goal) (implied : ∀ op, allowed op → wider op)
    (reaches : ∀ rest, goal rest → further rest) : program.Leads wider heard further := by
  induction leads with
  | here reached => exact .here (reaches _ reached)
  | call first later ih => exact .call (implied _ first) ih

/-- A path along heard responses comes to a goal after allowed operations. -/
theorem Leads.path {program : Prog Op Res α} (leads : program.Leads allowed heard goal)
    {trace : List (Event Op Res)} {result : α} (path : program.Path trace result)
    (answered : ∀ event ∈ trace, heard event) :
    ∃ before rest after, trace = before ++ after ∧ (∀ event ∈ before, allowed event.1) ∧
      goal rest ∧ rest.Path after result := by
  induction leads generalizing trace with
  | here reached => exact ⟨[], _, trace, rfl, by simp, reached, path⟩
  | call first later ih =>
    obtain ⟨response, tail, rfl, path⟩ := path
    obtain ⟨before, rest, after, rfl, bounded, reached, last⟩ :=
      ih response (answered _ List.mem_cons_self) path
        fun event member => answered event (List.mem_cons_of_mem _ member)
    refine ⟨_ :: before, rest, after, rfl, ?_, reached, last⟩
    intro event member
    rcases List.mem_cons.mp member with rfl | member
    · exact first
    · exact bounded event member

/-! ## Postconditions over traces -/

/-- Every path ends with a trace and a result that satisfy the postcondition. -/
def Ensures (program : Prog Op Res α) (post : List (Event Op Res) → α → Prop) : Prop :=
  ∀ trace result, program.Path trace result → post trace result

variable {post : List (Event Op Res) → α → Prop}

/-- A return has no events. -/
@[simp]
theorem ensures_ret (value : α) :
    (Prog.ret value : Prog Op Res α).Ensures post ↔ post [] value := by
  simp [Ensures]

/-- What follows an operation is about the events after its own. -/
@[simp]
theorem ensures_call (op : Op) (next : Res op → Prog Op Res α) :
    (Prog.call op next).Ensures post ↔
      ∀ response, (next response).Ensures fun trace result =>
        post (⟨op, response⟩ :: trace) result := by
  constructor
  · intro ensured response trace result path
    exact ensured _ _ ⟨response, trace, rfl, path⟩
  · rintro ensured _ result ⟨response, rest, rfl, path⟩
    exact ensured response rest result path

/-- The sequence rule: the second part's postcondition continues the first part's trace. -/
theorem ensures_bind (program : Prog Op Res α) (f : α → Prog Op Res β)
    (post : List (Event Op Res) → β → Prop) :
    (program >>= f).Ensures post ↔
      program.Ensures fun before value =>
        (f value).Ensures fun after result => post (before ++ after) result := by
  constructor
  · intro ensured before value first after result second
    exact ensured _ _ ((path_bind _ _ _ _).mpr ⟨before, value, after, rfl, first, second⟩)
  · intro ensured trace result path
    obtain ⟨before, value, after, rfl, first, second⟩ := (path_bind _ _ _ _).mp path
    exact ensured before value first after result second

/-! ## Replay -/

/-- Follow a program with the given answers, read at each call's own response type. The trace
and the result are returned when the answers fit and the last of them is used. -/
def replay {Answer : Type} (read : (op : Op) → Answer → Option (Res op)) :
    Prog Op Res α → List Answer → Option (List (Event Op Res) × α)
  | .ret value, [] => some ([], value)
  | .ret _, _ :: _ => none
  | .call _ _, [] => none
  | .call op next, answer :: answers =>
    match read op answer with
    | none => none
    | some response =>
      match (next response).replay read answers with
      | none => none
      | some (trace, result) => some (⟨op, response⟩ :: trace, result)

/-- A replay is a path. -/
theorem replay_path {Answer : Type} {read : (op : Op) → Answer → Option (Res op)}
    {program : Prog Op Res α} {answers : List Answer} {trace : List (Event Op Res)} {result : α}
    (replayed : program.replay read answers = some (trace, result)) :
    program.Path trace result := by
  induction program generalizing answers trace with
  | ret value =>
    cases answers with
    | nil =>
      simp only [replay, Option.some.injEq, Prod.mk.injEq] at replayed
      exact ⟨replayed.1.symm, replayed.2.symm⟩
    | cons answer answers => simp [replay] at replayed
  | call op next ih =>
    cases answers with
    | nil => simp [replay] at replayed
    | cons answer answers =>
      simp only [replay] at replayed
      split at replayed
      · contradiction
      · rename_i response readable
        split at replayed
        · contradiction
        · rename_i rest found later
          simp only [Option.some.injEq, Prod.mk.injEq] at replayed
          obtain ⟨rfl, rfl⟩ := replayed
          exact ⟨response, rest, rfl, ih response later⟩

/-! ## Environments -/

/-- What happens in an environment, which answers an operation after what has happened before it,
or stops the program there. -/
def play (answer : List (Event Op Res) → (op : Op) → Option (Res op)) :
    Prog Op Res α → List (Event Op Res) → List (Event Op Res)
  | .ret _, history => history
  | .call op next, history =>
    match answer history op with
    | none => history
    | some response => (next response).play answer (history ++ [⟨op, response⟩])

section

variable {answer : List (Event Op Res) → (op : Op) → Option (Res op)}
  {seen : Event Op Res → Option γ} {history : List (Event Op Res)}

/-- Operations that an observer does not see add nothing to what it has seen. -/
theorem Only.play {program : Prog Op Res α} (bounded : program.Only allowed)
    (unseen : ∀ event, allowed event.1 → seen event = none) :
    (program.play answer history).filterMap seen = history.filterMap seen := by
  induction program generalizing history with
  | ret value => rfl
  | call op next ih =>
    rw [Prog.play]
    split
    · rfl
    · rename_i response _
      have hidden : seen ⟨op, response⟩ = none := unseen ⟨op, response⟩ bounded.1
      rw [ih response (bounded.2 response), List.filterMap_append]
      simp [hidden]

/-- What follows a program out of an observer's sight adds nothing to what it has seen. -/
theorem play_bind_unseen {program : Prog Op Res α} {f : α → Prog Op Res β}
    (bounded : ∀ value, (f value).Only allowed)
    (unseen : ∀ event, allowed event.1 → seen event = none) :
    ((program >>= f).play answer history).filterMap seen =
      (program.play answer history).filterMap seen := by
  induction program generalizing history with
  | ret value => exact (bounded value).play unseen
  | call op next ih =>
    rw [call_bind, Prog.play, Prog.play]
    split
    · rfl
    · exact ih _

end

/-! ## Handlers -/

/-- Run a program on a state, with a handler that answers its operations or stops it. -/
def exec {σ : Type} (handle : σ → (op : Op) → Option (Res op × σ)) :
    Prog Op Res α → σ → Option (α × σ)
  | .ret value, state => some (value, state)
  | .call op next, state =>
    match handle state op with
    | none => none
    | some (response, state) => (next response).exec handle state

/-- An operation that is answered. -/
theorem exec_call {σ : Type} {handle : σ → (op : Op) → Option (Res op × σ)} {op : Op}
    {next : Res op → Prog Op Res α} {state after : σ} {response : Res op}
    (handled : handle state op = some (response, after)) :
    (Prog.call op next).exec handle state = (next response).exec handle after := by
  rw [exec, handled]

/-! ## Parts of paths -/

/-- The program comes to what is left of it along the events. -/
inductive Comes : Prog Op Res α → List (Event Op Res) → Prog Op Res α → Prop
  /-- Nothing has happened. -/
  | here (program : Prog Op Res α) : Comes program [] program
  /-- An operation and its response. -/
  | call (op : Op) (next : Res op → Prog Op Res α) (response : Res op)
      (trace : List (Event Op Res)) (rest : Prog Op Res α) (later : Comes (next response) trace rest) :
      Comes (.call op next) (⟨op, response⟩ :: trace) rest

/-- One more operation. -/
theorem Comes.snoc {program : Prog Op Res α} {trace : List (Event Op Res)} {op : Op}
    {next : Res op → Prog Op Res α} (comes : Comes program trace (.call op next))
    (response : Res op) : Comes program (trace ++ [⟨op, response⟩]) (next response) := by
  generalize left : Prog.call op next = rest at comes
  induction comes with
  | here program =>
    subst left
    exact .call op next response [] _ (.here _)
  | call first following answer trace rest later ih =>
    exact .call first following answer _ _ (ih left)

/-- A part of a path of a sequence is within its first part, or after it. -/
theorem Comes.bind_cases {program : Prog Op Res α} {f : α → Prog Op Res β}
    {trace : List (Event Op Res)} {rest : Prog Op Res β} (comes : Comes (program >>= f) trace rest) :
    (∃ middle, Comes program trace middle ∧ rest = middle >>= f) ∨
      ∃ before value after, trace = before ++ after ∧ program.Path before value ∧
        Comes (f value) after rest := by
  induction program generalizing trace with
  | ret value => exact .inr ⟨[], value, trace, rfl, ⟨rfl, rfl⟩, comes⟩
  | call op next ih =>
    rw [call_bind] at comes
    cases comes with
    | here => exact .inl ⟨.call op next, .here _, rfl⟩
    | call _ _ response trace _ later =>
      rcases ih response later with ⟨middle, first, rfl⟩ | ⟨before, value, after, rfl, first, last⟩
      · exact .inl ⟨middle, .call _ _ _ _ _ first, rfl⟩
      · exact .inr ⟨⟨op, response⟩ :: before, value, after, rfl,
          ⟨response, before, rfl, first⟩, last⟩

/-- A complete path comes to a value. -/
theorem comes_ret {program : Prog Op Res α} {trace : List (Event Op Res)} {value : α} :
    Comes program trace (.ret value) ↔ program.Path trace value := by
  constructor
  · intro comes
    generalize left : Prog.ret value = rest at comes
    induction comes with
    | here program =>
      subst left
      exact ⟨rfl, rfl⟩
    | call op next response trace rest later ih => exact ⟨response, trace, rfl, ih left⟩
  · intro path
    induction program generalizing trace with
    | ret found =>
      obtain ⟨rfl, rfl⟩ := path
      exact .here _
    | call op next ih =>
      obtain ⟨response, rest, rfl, path⟩ := path
      exact .call op next response rest _ (ih response path)

/-- Every event on the way is allowed. -/
theorem Only.comes {program rest : Prog Op Res α} {trace : List (Event Op Res)}
    (bounded : program.Only allowed) (comes : Comes program trace rest) :
    (∀ event ∈ trace, allowed event.1) ∧ rest.Only allowed := by
  induction comes with
  | here => exact ⟨by simp, bounded⟩
  | call op next response trace rest later ih =>
    obtain ⟨events, left⟩ := ih (bounded.2 response)
    refine ⟨fun event member => ?_, left⟩
    rcases List.mem_cons.mp member with rfl | member
    · exact bounded.1
    · exact events event member

/-! ## What an operation rests on -/

/-- Every operation has what it needs in the events before it, the given ones first. -/
def Founded (needs : List (Event Op Res) → Op → Prop) :
    Prog Op Res α → List (Event Op Res) → Prop
  | .ret _, _ => True
  | .call op next, past =>
    needs past op ∧ ∀ response, (next response).Founded needs (past ++ [⟨op, response⟩])

section

variable {needs : List (Event Op Res) → Op → Prop} {past : List (Event Op Res)}

/-- A sequence, the second part after a path of the first. -/
theorem Founded.bind {program : Prog Op Res α} {f : α → Prog Op Res β}
    (first : program.Founded needs past)
    (second : ∀ trace value, program.Path trace value → (f value).Founded needs (past ++ trace)) :
    (program >>= f).Founded needs past := by
  induction program generalizing past with
  | ret value =>
    have whole := second [] value ⟨rfl, rfl⟩
    rwa [List.append_nil] at whole
  | call op next ih =>
    refine ⟨first.1, fun response => ih response (first.2 response) fun trace value path => ?_⟩
    have whole := second (⟨op, response⟩ :: trace) value ⟨response, trace, rfl, path⟩
    rwa [List.append_assoc]

/-- A program of operations that need nothing. -/
theorem Only.founded {program : Prog Op Res α} (bounded : program.Only allowed)
    (free : ∀ op past, allowed op → needs past op) : program.Founded needs past := by
  induction program generalizing past with
  | ret value => trivial
  | call op next ih =>
    exact ⟨free op past bounded.1, fun response => ih response (bounded.2 response)⟩

/-- The operation that a program comes to. -/
theorem Founded.comes {program : Prog Op Res α} {trace : List (Event Op Res)} {op : Op}
    {next : Res op → Prog Op Res α} (founded : program.Founded needs past)
    (comes : Comes program trace (.call op next)) : needs (past ++ trace) op := by
  generalize left : Prog.call op next = rest at comes
  induction comes generalizing past with
  | here program =>
    subst left
    rw [List.append_nil]
    exact founded.1
  | call first following response trace rest later ih =>
    have reached := ih (founded.2 response) left
    rwa [List.append_assoc] at reached

/-- Every operation on the way has what it needs. -/
theorem Founded.each {program rest : Prog Op Res α} {before after : List (Event Op Res)}
    {event : Event Op Res} (founded : program.Founded needs past)
    (comes : Comes program (before ++ event :: after) rest) : needs (past ++ before) event.1 := by
  induction before generalizing program past with
  | nil =>
    rw [List.append_nil]
    cases comes with
    | call op next response trace rest later => exact founded.1
  | cons first before ih =>
    cases comes with
    | call op next response trace rest later =>
      have reached := ih (founded.2 response) later
      rwa [List.append_assoc] at reached

end

end Prog

end Effect
