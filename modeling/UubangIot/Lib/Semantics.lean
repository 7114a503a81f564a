import UubangIot.Lib.Program
import UubangIot.Lib.Transition

/-!
# Programs over a shared state

A transition system whose labels are events reads the operations of a program over a state: it
says which responses an operation can have there and what it changes. `Reaches` is the result
and the final state of a whole program taken as one step, with one rule for each way a program
is built. `Safely` says what holds at every operation on the way as well.
-/

namespace Effect.Prog

open Transition

variable {Op : Type} {Res : Op → Type} {State α β : Type}

/-- The program can end with a result in a final state. -/
def Reaches (system : System State (Event Op Res)) (program : Prog Op Res α) (state : State)
    (result : α) (final : State) : Prop :=
  ∃ trace, program.Path trace result ∧ system.run state trace = some final

variable {system : System State (Event Op Res)} {state final : State}

/-- A return reaches its result where it is. -/
@[simp]
theorem reaches_ret (value result : α) :
    (Prog.ret value : Prog Op Res α).Reaches system state result final ↔
      result = value ∧ final = state := by
  constructor
  · rintro ⟨trace, ⟨rfl, rfl⟩, reached⟩
    exact ⟨rfl, (Option.some.inj reached).symm⟩
  · rintro ⟨rfl, rfl⟩
    exact ⟨[], ⟨rfl, rfl⟩, rfl⟩

/-- A call takes one step of the system. -/
theorem reaches_call (op : Op) (next : Res op → Prog Op Res α) (result : α) :
    (Prog.call op next).Reaches system state result final ↔
      ∃ response middle, system.step state ⟨op, response⟩ = some middle ∧
        (next response).Reaches system middle result final := by
  constructor
  · rintro ⟨trace, ⟨response, rest, rfl, path⟩, reached⟩
    obtain ⟨middle, stepped, later⟩ := (System.run_cons _ _ _ _).mp reached
    exact ⟨response, middle, stepped, rest, path, later⟩
  · rintro ⟨response, middle, stepped, rest, path, later⟩
    exact ⟨⟨op, response⟩ :: rest, ⟨response, rest, rfl, path⟩,
      (System.run_cons _ _ _ _).mpr ⟨middle, stepped, later⟩⟩

/-- A sequence goes through the state its first part ends in. -/
theorem reaches_bind (program : Prog Op Res α) (f : α → Prog Op Res β) (result : β) :
    (program >>= f).Reaches system state result final ↔
      ∃ value middle, program.Reaches system state value middle ∧
        (f value).Reaches system middle result final := by
  constructor
  · rintro ⟨trace, path, reached⟩
    obtain ⟨before, value, after, rfl, first, second⟩ := (path_bind _ _ _ _).mp path
    obtain ⟨middle, there, on⟩ := (System.run_append _ _ _ _).mp reached
    exact ⟨value, middle, ⟨before, first, there⟩, after, second, on⟩
  · rintro ⟨value, middle, ⟨before, first, there⟩, after, second, on⟩
    exact ⟨before ++ after, (path_bind _ _ _ _).mpr ⟨before, value, after, rfl, first, second⟩,
      (System.run_append _ _ _ _).mpr ⟨middle, there, on⟩⟩

/-- A program of operations that keep a property of the state keeps it. -/
theorem Only.reaches {allowed : Op → Prop} {property : State → Prop} {program : Prog Op Res α}
    (bounded : program.Only allowed)
    (kept : ∀ op response before after, allowed op →
      system.step before ⟨op, response⟩ = some after → property before → property after)
    {result : α} (reached : program.Reaches system state result final)
    (initial : property state) : property final := by
  induction program generalizing state with
  | ret value =>
    obtain ⟨-, rfl⟩ := (reaches_ret _ _).mp reached
    exact initial
  | call op next ih =>
    obtain ⟨response, middle, stepped, later⟩ := (reaches_call _ _ _).mp reached
    exact ih response (bounded.2 response) later (kept _ _ _ _ bounded.1 stepped initial)

/-! ## Safety -/

/-- From a state on, no operation is called where it is bad, and every result is reached in a state
that satisfies the postcondition. -/
def Safely (system : System State (Event Op Res)) (bad : State → Op → Prop)
    (post : α → State → Prop) : Prog Op Res α → State → Prop
  | .ret value, state => post value state
  | .call op next, state => ¬bad state op ∧ ∀ response after,
      system.step state ⟨op, response⟩ = some after → Safely system bad post (next response) after

section Safety

variable {bad : State → Op → Prop}

/-- A sequence is safe when its second part is safe wherever the first one ends. -/
theorem safely_bind {program : Prog Op Res α} {f : α → Prog Op Res β} {post : β → State → Prop} :
    (program >>= f).Safely system bad post state ↔
      program.Safely system bad (fun value after => (f value).Safely system bad post after)
        state := by
  induction program generalizing state with
  | ret value => exact Iff.rfl
  | call op next ih =>
    constructor
    · rintro ⟨fine, rest⟩
      exact ⟨fine, fun response after stepped => (ih response).mp (rest response after stepped)⟩
    · rintro ⟨fine, rest⟩
      exact ⟨fine, fun response after stepped => (ih response).mpr (rest response after stepped)⟩

/-- The postcondition may be weakened. -/
theorem Safely.mono {program : Prog Op Res α} {post weaker : α → State → Prop}
    (safe : program.Safely system bad post state)
    (implied : ∀ value after, post value after → weaker value after) :
    program.Safely system bad weaker state := by
  induction program generalizing state with
  | ret value => exact implied _ _ safe
  | call op next ih =>
    exact ⟨safe.1, fun response after stepped => ih response (safe.2 response after stepped)⟩

/-- What a safe program reaches satisfies its postcondition. -/
theorem Safely.reaches {program : Prog Op Res α} {post : α → State → Prop} {result : α}
    (safe : program.Safely system bad post state)
    (reached : program.Reaches system state result final) : post result final := by
  induction program generalizing state with
  | ret value =>
    obtain ⟨rfl, rfl⟩ := (reaches_ret _ _).mp reached
    exact safe
  | call op next ih =>
    obtain ⟨response, middle, stepped, later⟩ := (reaches_call _ _ _).mp reached
    exact ih response (safe.2 response middle stepped) later

/-- A program of operations that keep an invariant, and are not bad under it, is safe. -/
theorem Only.safely {allowed : Op → Prop} {I : State → Prop}
    {program : Prog Op Res α} {post : α → State → Prop} (bounded : program.Only allowed)
    (fine : ∀ op before, allowed op → I before → ¬bad before op)
    (kept : ∀ op response before after, allowed op →
      system.step before ⟨op, response⟩ = some after → I before → I after)
    (initial : I state) (ends : ∀ value after, I after → post value after) :
    program.Safely system bad post state := by
  induction program generalizing state with
  | ret value => exact ends _ _ initial
  | call op next ih =>
    exact ⟨fine _ _ bounded.1 initial, fun response after stepped =>
      ih response (bounded.2 response) (kept _ _ _ _ bounded.1 stepped initial)⟩

/-- A safe program comes to no bad operation, and ends in its postcondition. -/
theorem safely_iff {program : Prog Op Res α} {post : α → State → Prop} :
    program.Safely system bad post state ↔
      ∀ trace rest final, Comes program trace rest → system.run state trace = some final →
        (∀ op next, rest = .call op next → ¬bad final op) ∧
          ∀ value, rest = .ret value → post value final := by
  constructor
  · intro safe trace rest final comes reached
    induction comes generalizing state with
    | here program =>
      obtain rfl := Option.some.inj reached
      cases program with
      | ret value =>
        constructor
        · intro op next same
          cases same
        · intro found same
          cases same
          exact safe
      | call op next =>
        constructor
        · intro called following same
          cases same
          exact safe.1
        · intro found same
          cases same
    | call op next response trace rest later ih =>
      obtain ⟨middle, stepped, on⟩ := (System.run_cons _ _ _ _).mp reached
      exact ih (safe.2 response middle stepped) on
  · intro all
    induction program generalizing state with
    | ret value => exact (all [] _ state (.here _) rfl).2 value rfl
    | call op next ih =>
      refine ⟨(all [] _ state (.here _) rfl).1 op next rfl, fun response after stepped => ?_⟩
      refine ih response fun trace rest final comes reached => ?_
      exact all (⟨op, response⟩ :: trace) rest final (.call _ _ _ _ _ comes)
        ((System.run_cons _ _ _ _).mpr ⟨after, stepped, reached⟩)

end Safety

end Effect.Prog
