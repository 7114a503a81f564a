import Mathlib.Data.List.Basic
import Mathlib.Data.Option.Basic

/-!
# Partial transition systems and their runs

A system steps from a state under a label and may refuse the label. Every choice that is not
the program's own (which thread moves, what the environment answers) is part of the label, so
a run is a list of labels and stays executable. `Meets` restricts a run to steps that satisfy a
condition on the state before the step and its label; `run_invariant` is the induction that
every safety result over restricted runs uses.
-/

namespace Transition

/-- A deterministic partial step function. -/
structure System (State Label : Type) where
  /-- The state after a label, or none when the label is refused. -/
  step : State → Label → Option State

namespace System

variable {State Label : Type} (system : System State Label)

/-- The state after a list of labels, none as soon as one of them is refused. -/
def run : State → List Label → Option State
  | state, [] => some state
  | state, label :: labels => (system.step state label).bind fun next => run next labels

/-- Every step of the run starts in a state and under a label that satisfy the condition. -/
def Meets (condition : State → Label → Prop) : State → List Label → Prop
  | _, [] => True
  | state, label :: labels =>
    condition state label ∧ ∀ next, system.step state label = some next →
      Meets condition next labels

/-- Whether a run meets a decidable condition can be computed. -/
instance decidableMeets {condition : State → Label → Prop}
    [decided : ∀ state label, Decidable (condition state label)] :
    (state : State) → (labels : List Label) → Decidable (system.Meets condition state labels)
  | _, [] => .isTrue trivial
  | state, label :: labels =>
    match decided state label, stepped : system.step state label with
    | .isFalse unmet, _ => .isFalse fun meets => unmet meets.1
    | .isTrue met, none => .isTrue ⟨met, fun _ reached => nomatch stepped.symm.trans reached⟩
    | .isTrue met, some next =>
      match decidableMeets next labels with
      | .isFalse unmet => .isFalse fun meets => unmet (meets.2 next stepped)
      | .isTrue rest => .isTrue ⟨met, fun _ reached =>
        Option.some.inj (stepped.symm.trans reached) ▸ rest⟩

/-- A property of every state reached along the run. -/
def Always (property : State → Prop) (state : State) (labels : List Label) : Prop :=
  ∀ count reached, system.run state (labels.take count) = some reached → property reached

variable {system} {condition : State → Label → Prop} {invariant : State → Prop}

/-- A run of no labels stays. -/
@[simp]
theorem run_nil (state : State) : system.run state [] = some state := rfl

/-- A run is its first step followed by a run. -/
theorem run_cons (state final : State) (label : Label) (labels : List Label) :
    system.run state (label :: labels) = some final ↔
      ∃ next, system.step state label = some next ∧ system.run next labels = some final := by
  simp [run, Option.bind_eq_some_iff]

/-- A run over a longer list, one step first. -/
theorem run_cons_eq (state : State) (label : Label) (labels : List Label) :
    system.run state (label :: labels) =
      (system.step state label).bind fun next => system.run next labels := rfl

/-- A run over two lists, the first list first. -/
theorem run_append_eq (state : State) (first second : List Label) :
    system.run state (first ++ second) =
      (system.run state first).bind fun middle => system.run middle second := by
  induction first generalizing state with
  | nil => rfl
  | cons label labels ih =>
    rw [List.cons_append, run_cons_eq, run_cons_eq, Option.bind_assoc]
    exact congrArg _ (funext ih)

/-- A run over two lists stops at an intermediate state. -/
theorem run_append (state final : State) (first second : List Label) :
    system.run state (first ++ second) = some final ↔
      ∃ middle, system.run state first = some middle ∧ system.run middle second = some final := by
  induction first generalizing state with
  | nil => simp
  | cons label labels ih =>
    simp only [List.cons_append, run_cons, ih]
    constructor
    · rintro ⟨next, stepped, middle, before, after⟩
      exact ⟨middle, ⟨next, stepped, before⟩, after⟩
    · rintro ⟨middle, ⟨next, stepped, before⟩, after⟩
      exact ⟨next, stepped, middle, before, after⟩

/-- A step that keeps the invariant whenever it meets the condition keeps it along every run
whose steps all meet the condition. -/
theorem run_invariant
    (preserved : ∀ state label next, condition state label → invariant state →
      system.step state label = some next → invariant next)
    {state final : State} {labels : List Label} (initial : invariant state)
    (meets : system.Meets condition state labels)
    (reached : system.run state labels = some final) : invariant final := by
  induction labels generalizing state with
  | nil =>
    obtain rfl := Option.some.inj reached
    exact initial
  | cons label labels ih =>
    obtain ⟨next, stepped, rest⟩ := (run_cons _ _ _ _).mp reached
    exact ih (preserved _ _ _ meets.1 initial stepped) (meets.2 next stepped) rest

/-- An invariant kept by every step holds at the end of every run. -/
theorem run_preserved
    (preserved : ∀ state label next, invariant state → system.step state label = some next →
      invariant next)
    {state final : State} {labels : List Label} (initial : invariant state)
    (reached : system.run state labels = some final) : invariant final := by
  induction labels generalizing state with
  | nil =>
    obtain rfl := Option.some.inj reached
    exact initial
  | cons label labels ih =>
    obtain ⟨next, stepped, rest⟩ := (run_cons _ _ _ _).mp reached
    exact ih (preserved _ _ _ initial stepped) rest

/-- A run meets a condition that all its labels imply. -/
theorem meets_of_labels {condition : State → Label → Prop} {labels : List Label}
    (all : ∀ label ∈ labels, ∀ state, condition state label) (state : State) :
    system.Meets condition state labels := by
  induction labels generalizing state with
  | nil => trivial
  | cons label labels ih =>
    refine ⟨all label List.mem_cons_self state, fun next _ => ?_⟩
    exact ih (fun later member => all later (List.mem_cons_of_mem _ member)) next

/-- Every step of a run that takes place is accepted. -/
theorem meets_of_run {state final : State} {labels : List Label}
    (reached : system.run state labels = some final) :
    system.Meets (fun state label => ∃ next, system.step state label = some next) state labels := by
  induction labels generalizing state with
  | nil => trivial
  | cons label labels ih =>
    obtain ⟨next, stepped, rest⟩ := (run_cons _ _ _ _).mp reached
    refine ⟨⟨next, stepped⟩, fun other same => ?_⟩
    obtain rfl := Option.some.inj (stepped.symm.trans same)
    exact ih rest

/-- A property holds along a run when it holds at once and after every first step along the
rest. -/
theorem always_cons {property : State → Prop} (state : State) (label : Label)
    (labels : List Label) :
    system.Always property state (label :: labels) ↔
      property state ∧ ∀ next, system.step state label = some next →
        system.Always property next labels := by
  constructor
  · intro always
    refine ⟨always 0 state rfl, fun next stepped count reached run => ?_⟩
    exact always (count + 1) reached ((run_cons _ _ _ _).mpr ⟨next, stepped, run⟩)
  · rintro ⟨now, later⟩ count reached run
    cases count with
    | zero =>
      obtain rfl := Option.some.inj run
      exact now
    | succ count =>
      obtain ⟨next, stepped, rest⟩ := (run_cons _ _ _ _).mp run
      exact later next stepped count reached rest

/-- A property of no run beyond its start. -/
theorem always_nil {property : State → Prop} (state : State) :
    system.Always property state [] ↔ property state := by
  constructor
  · exact fun always => always 0 state rfl
  · intro now count reached run
    rw [List.take_nil] at run
    obtain rfl := Option.some.inj run
    exact now

/-- An invariant kept by the steps that meet a condition gives its property along every run
whose steps meet it. -/
theorem always_of_meets {property : State → Prop}
    (implied : ∀ state, invariant state → property state)
    (preserved : ∀ state label next, condition state label → invariant state →
      system.step state label = some next → invariant next)
    {state : State} {labels : List Label} (initial : invariant state)
    (meets : system.Meets condition state labels) : system.Always property state labels := by
  induction labels generalizing state with
  | nil => exact (always_nil state).mpr (implied state initial)
  | cons label labels ih =>
    refine (always_cons state label labels).mpr ⟨implied state initial, fun next stepped => ?_⟩
    exact ih (preserved _ _ _ meets.1 initial stepped) (meets.2 next stepped)

/-- An invariant kept by every step gives its property along every run. -/
theorem always_of_preserved {property : State → Prop}
    (implied : ∀ state, invariant state → property state)
    (preserved : ∀ state label next, invariant state → system.step state label = some next →
      invariant next)
    {state : State} {labels : List Label} (initial : invariant state) :
    system.Always property state labels := by
  induction labels generalizing state with
  | nil => exact (always_nil state).mpr (implied state initial)
  | cons label labels ih =>
    refine (always_cons state label labels).mpr ⟨implied state initial, fun next stepped => ?_⟩
    exact ih (preserved _ _ _ initial stepped)

/-- When moreover every step outside the condition breaks the property, the property holds along
a run exactly when all its steps meet the condition. -/
theorem always_iff_meets {property : State → Prop}
    (implied : ∀ state, invariant state → property state)
    (preserved : ∀ state label next, condition state label → invariant state →
      system.step state label = some next → invariant next)
    (broken : ∀ state label, invariant state → ¬condition state label →
      ∃ next, system.step state label = some next ∧ ¬property next)
    {state : State} {labels : List Label} (initial : invariant state) :
    system.Always property state labels ↔ system.Meets condition state labels := by
  refine ⟨fun always => ?_, always_of_meets implied preserved initial⟩
  induction labels generalizing state with
  | nil => trivial
  | cons label labels ih =>
    obtain ⟨-, later⟩ := (always_cons state label labels).mp always
    have met : condition state label := by
      by_contra unmet
      obtain ⟨next, stepped, broke⟩ := broken state label initial unmet
      exact broke (later next stepped 0 next rfl)
    exact ⟨met, fun next stepped =>
      ih (preserved _ _ _ met initial stepped) (later next stepped)⟩

/-- Along runs whose steps meet a first condition, the property holds exactly when all steps meet a
second one. -/
theorem always_iff_meets_of {base : State → Label → Prop} {property : State → Prop}
    (implied : ∀ state, invariant state → property state)
    (preserved : ∀ state label next, base state label → condition state label → invariant state →
      system.step state label = some next → invariant next)
    (broken : ∀ state label, base state label → invariant state → ¬condition state label →
      ∃ next, system.step state label = some next ∧ ¬property next)
    {state : State} {labels : List Label} (initial : invariant state)
    (meets : system.Meets base state labels) :
    system.Always property state labels ↔ system.Meets condition state labels := by
  induction labels generalizing state with
  | nil => exact ⟨fun _ => trivial, fun _ => (always_nil state).mpr (implied state initial)⟩
  | cons label labels ih =>
    rw [always_cons]
    constructor
    · rintro ⟨-, later⟩
      have met : condition state label := by
        by_contra unmet
        obtain ⟨next, stepped, broke⟩ := broken state label meets.1 initial unmet
        exact broke (later next stepped 0 next rfl)
      exact ⟨met, fun next stepped => (ih (preserved _ _ _ meets.1 met initial stepped)
        (meets.2 next stepped)).mp (later next stepped)⟩
    · rintro ⟨met, rest⟩
      exact ⟨implied state initial, fun next stepped =>
        (ih (preserved _ _ _ meets.1 met initial stepped) (meets.2 next stepped)).mpr
          (rest next stepped)⟩

/-- Along runs whose steps meet a first condition, two conditions that agree in the states that
keep an invariant are met together. -/
theorem meets_iff_of {base other : State → Label → Prop}
    (same : ∀ state label, base state label → invariant state →
      (other state label ↔ condition state label))
    (preserved : ∀ state label next, base state label → condition state label → invariant state →
      system.step state label = some next → invariant next)
    {state : State} {labels : List Label} (initial : invariant state)
    (meets : system.Meets base state labels) :
    system.Meets other state labels ↔ system.Meets condition state labels := by
  induction labels generalizing state with
  | nil => exact Iff.rfl
  | cons label labels ih =>
    have here := same state label meets.1 initial
    constructor
    · rintro ⟨met, rest⟩
      exact ⟨here.mp met, fun next stepped =>
        (ih (preserved _ _ _ meets.1 (here.mp met) initial stepped) (meets.2 next stepped)).mp
          (rest next stepped)⟩
    · rintro ⟨met, rest⟩
      exact ⟨here.mpr met, fun next stepped =>
        (ih (preserved _ _ _ meets.1 met initial stepped) (meets.2 next stepped)).mpr
          (rest next stepped)⟩

/-- A run that meets a condition meets every weaker one. -/
theorem Meets.mono {weaker : State → Label → Prop}
    (implied : ∀ state label, condition state label → weaker state label)
    {state : State} {labels : List Label} (meets : system.Meets condition state labels) :
    system.Meets weaker state labels := by
  induction labels generalizing state with
  | nil => trivial
  | cons label labels ih =>
    exact ⟨implied _ _ meets.1, fun next stepped => ih (meets.2 next stepped)⟩

/-! ## Histories -/

section Histories

variable {Note : Type} {shows : State → Label → List Note} {ok : List Note → Note → Prop}

/-- The system with a history of what its steps show. -/
def observed (system : System State Label) (shows : State → Label → List Note) :
    System (State × List Note) Label where
  step now label := (system.step now.1 label).map fun next => (next, now.2 ++ shows now.1 label)

/-- A step with its history. -/
theorem observed_step {now next : State × List Note} {label : Label} :
    (system.observed shows).step now label = some next ↔
      system.step now.1 label = some next.1 ∧ next.2 = now.2 ++ shows now.1 label := by
  simp only [observed, Option.map_eq_some_iff]
  constructor
  · rintro ⟨after, stepped, rfl⟩
    exact ⟨stepped, rfl⟩
  · rintro ⟨stepped, shown⟩
    exact ⟨next.1, stepped, Prod.ext rfl shown.symm⟩

/-- Every note of a history is right after the notes before it. -/
def Throughout (ok : List Note → Note → Prop) (history : List Note) : Prop :=
  ∀ before note after, history = before ++ note :: after → ok before note

/-- An empty history is right. -/
theorem throughout_nil : Throughout ok [] := by
  intro before note after split
  simp at split

/-- A property of every note of a longer history is that of the history and of its last note. -/
theorem throughout_snoc (history : List Note) (last : Note) :
    Throughout ok (history ++ [last]) ↔ Throughout ok history ∧ ok history last := by
  constructor
  · intro right
    refine ⟨fun before note after split => right before note (after ++ [last]) ?_,
      right history last [] rfl⟩
    rw [split, List.append_assoc, List.cons_append]
  · rintro ⟨right, now⟩ before note after split
    rcases List.eq_nil_or_concat after with rfl | ⟨others, final, rfl⟩
    · obtain ⟨rfl, same⟩ := List.append_inj' split rfl
      rw [← List.head_eq_of_cons_eq same]
      exact now
    · rw [List.concat_eq_append, ← List.cons_append, ← List.append_assoc] at split
      exact right before note others (List.append_inj' split rfl).1

end Histories

/-! ## Undefined steps -/

section Undefined

variable {Ghost : Type} {follow : State → Label → Ghost → Ghost}
  {undefined : State → Label → Bool}

/-- The system with a ghost that follows its steps. -/
def shadowed (system : System State Label) (follow : State → Label → Ghost → Ghost) :
    System (State × Ghost) Label where
  step now label := (system.step now.1 label).map fun next => (next, follow now.1 label now.2)

/-- A step with its ghost is a step. -/
theorem shadowed_step {now next : State × Ghost} {label : Label}
    (stepped : (system.shadowed follow).step now label = some next) :
    system.step now.1 label = some next.1 := by
  obtain ⟨after, moved, rfl⟩ := Option.map_eq_some_iff.mp stepped
  exact moved

/-- The system in which an undefined step leads to any state, the one its label has. -/
def orAnything (system : System State Label) (undefined : State → Label → Bool) :
    System State (Label × State) where
  step state choice :=
    if undefined state choice.1 then some choice.2 else system.step state choice.1

/-- A step that is defined is one of the system. -/
theorem orAnything_step {state next : State} {choice : Label × State}
    (stepped : (system.orAnything undefined).step state choice = some next)
    (defined : undefined state choice.1 = false) : system.step state choice.1 = some next := by
  have same : (if undefined state choice.1 = true then some choice.2
      else system.step state choice.1) = some next := stepped
  rwa [if_neg (by rw [defined]; exact Bool.false_ne_true)] at same

/-- A run whose steps are defined is one of the system. -/
theorem orAnything_run {state final : State} {choices : List (Label × State)}
    (reached : (system.orAnything undefined).run state choices = some final)
    (defined : (system.orAnything undefined).Meets
      (fun state choice => undefined state choice.1 = false) state choices) :
    system.run state (choices.map Prod.fst) = some final := by
  induction choices generalizing state with
  | nil => exact reached
  | cons choice choices ih =>
    obtain ⟨next, stepped, rest⟩ := (run_cons _ _ _ _).mp reached
    exact (run_cons _ _ _ _).mpr
      ⟨next, orAnything_step stepped defined.1, ih rest (defined.2 next stepped)⟩

/-- A run with its ghost is a run. -/
theorem shadowed_run {now final : State × Ghost} {labels : List Label}
    (reached : (system.shadowed follow).run now labels = some final) :
    system.run now.1 labels = some final.1 := by
  induction labels generalizing now with
  | nil =>
    obtain rfl := Option.some.inj reached
    rfl
  | cons label labels ih =>
    obtain ⟨next, stepped, rest⟩ := (run_cons _ _ _ _).mp reached
    exact (run_cons _ _ _ _).mpr ⟨next.1, shadowed_step stepped, ih rest⟩

end Undefined

end System

end Transition
