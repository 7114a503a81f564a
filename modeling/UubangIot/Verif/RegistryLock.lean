import UubangIot.Verif.DeviceOperations
import UubangIot.Verif.RequestParts

/-!
# The mutexes of the registered lists

The server is run with the two mutexes beside it: a task takes one only when nobody has it. Nodes
are added only by a task that has a mutex, and only it gives the mutex back. A reload that gets no
connection, or whose query fails, ends without giving its mutex back, and from then on nobody ever
takes that mutex again: no later reload gets past its first step.
-/

namespace UubangIot

open Effect Effect.Prog Transition Transition.System

/-! ## Statement -/

/-- The tasks that have the mutexes. -/
abbrev Owners := Kind → Option Nat

/-- The owners after a note; a mutex is taken when nobody has it. -/
def ownersAfter (owners : Owners) : Note → Option Owners
  | .did object ⟨.lockMute kind, _⟩ =>
    if owners kind = none then some (Function.update owners kind (some object)) else none
  | .did _ ⟨.unlockMute kind, _⟩ => some (Function.update owners kind none)
  | _ => some owners

/-- The server with its mutexes. -/
abbrev Locked := (ServerState × List Note) × Owners

/-- The chronicled server with the mutexes of its registered lists. -/
def locked (config : Config) : System Locked Turn where
  step now turn := do
    let next ← (chronicled config).step now.1 turn
    let owners ← (now.1.1.notes turn).foldlM ownersAfter now.2
    return (next, owners)

/-- No mutex is taken at the start. -/
def Locked.initial : Locked := ((.initial, []), fun _ => none)

/-- A task that is about to add a node has a mutex, and one about to give a mutex back has it. -/
def MuteGuarded (now : Locked) : Prop :=
  ∀ task ∈ now.1.1.tasks, ∀ op next, task.program = .call op next →
    (∀ entry, op = .addtoLocal entry → ∃ kind, now.2 kind = some task.object) ∧
      ∀ kind, op = .unlockMute kind → now.2 kind = some task.object

/-- A mutex is with a request that is over. -/
def Leaked (now : Locked) (kind : Kind) : Prop :=
  ∃ object, now.2 kind = some object ∧ ∀ task ∈ now.1.1.tasks, task.object ≠ object

/-! ## What a program does to the mutexes it has -/

/-- The mutexes that a request has after an operation. -/
def locking : System (Kind → Bool) Happening where
  step
    | held, ⟨.lockMute kind, _⟩ => some (Function.update held kind true)
    | held, ⟨.unlockMute kind, _⟩ => some (Function.update held kind false)
    | held, _ => some held

/-- An addition without a mutex, or the return of one that the request does not have. -/
def Unguarded (held : Kind → Bool) : Op → Prop
  | .addtoLocal _ => ∀ kind, held kind = false
  | .unlockMute kind => held kind = false
  | _ => False

variable {α β : Type} {op : Op} {held : Kind → Bool}

/-- A program adds nodes under a mutex only. -/
def Guards (handler : Handler α) : Prop :=
  ∀ held, handler.Safely locking Unguarded (fun _ _ => True) held

/-- A program that starts with a mutex. -/
def GuardsWith (kind : Kind) (handler : Handler α) : Prop :=
  ∀ held, held kind = true → handler.Safely locking Unguarded (fun _ _ => True) held

/-- An operation that has nothing to do with the mutexes. -/
def Op.unlocked : Op → Bool
  | .lockMute _ | .unlockMute _ | .addtoLocal _ => false
  | _ => true

/-- Other operations leave the mutexes. -/
theorem locking_unlocked (free : op.unlocked = true) (response : op.Res) :
    locking.step held ⟨op, response⟩ = some held := by
  cases op <;> first | rfl | cases free

/-- Other operations need none. -/
theorem guarded_unlocked (free : op.unlocked = true) : ¬Unguarded held op := by
  cases op <;> first | exact id | cases free

/-- A return adds nothing. -/
theorem guards_ret (value : α) : Guards (.ret value : Handler α) := fun _ => trivial

/-- What needs no mutex may have one. -/
theorem Guards.with {handler : Handler α} (guards : Guards handler) (kind : Kind) :
    GuardsWith kind handler := fun held _ => guards held

/-- An operation that has nothing to do with the mutexes. -/
theorem guards_call {next : op.Res → Handler α} (free : op.unlocked = true)
    (later : ∀ response, Guards (next response)) : Guards (.call op next) := by
  intro held
  refine ⟨guarded_unlocked free, fun response after stepped => ?_⟩
  rw [locking_unlocked free] at stepped
  obtain rfl := Option.some.inj stepped
  exact later response held

/-- An operation besides the mutexes under one of them. -/
theorem guardsWith_call {kind : Kind} {next : op.Res → Handler α} (free : op.unlocked = true)
    (later : ∀ response, GuardsWith kind (next response)) : GuardsWith kind (.call op next) := by
  intro held has
  refine ⟨guarded_unlocked free, fun response after stepped => ?_⟩
  rw [locking_unlocked free] at stepped
  obtain rfl := Option.some.inj stepped
  exact later response held has

/-- An undefined access adds nodes under a mutex only. -/
theorem faulty_guards : Guards (faulty : Handler α) :=
  guards_call rfl fun response => response.elim

/-- A sequence of programs that add nodes under a mutex only is such a program. -/
theorem Guards.seq {program : Handler α} {f : α → Handler β} (first : Guards program)
    (second : ∀ value, Guards (f value)) : Guards (program >>= f) := by
  intro held
  apply safely_bind.mpr
  apply (first held).mono
  exact fun value after _ => second value after

/-- A program may take a mutex first, when the rest of it adds nodes under that one. -/
theorem guards_lock {kind : Kind} {next : Unit → Handler α}
    (later : GuardsWith kind (next ())) : Guards (.call (.lockMute kind) next) := by
  intro held
  refine ⟨id, fun response after stepped => ?_⟩
  obtain rfl := Option.some.inj stepped
  exact later _ (Function.update_self kind true held)

/-- A mutex is given back. -/
theorem guards_unlock {kind : Kind} {next : Unit → Handler α} (later : Guards (next ())) :
    GuardsWith kind (.call (.unlockMute kind) next) := by
  intro held has
  refine ⟨fun free => ?_, fun response after stepped => ?_⟩
  · change held kind = false at free
    rw [has] at free
    cases free
  · obtain rfl := Option.some.inj stepped
    exact later _

/-- The rows of a reload. -/
theorem addRows_guards {kind : Kind} {entry : Row → Entry} {next : Handler α}
    (later : GuardsWith kind next) (rows : List Row) :
    GuardsWith kind (addRows entry rows >>= fun _ => next) := by
  induction rows with
  | nil => exact later
  | cons row rest ih =>
    intro held has
    refine ⟨fun none => ?_, fun response after stepped => ?_⟩
    · have free : held kind = false := none kind
      rw [has] at free
      cases free
    · obtain rfl := Option.some.inj stepped
      exact ih held has

/-- The rows of a query. -/
theorem fetchRows_guards {kind : Kind} {node : Nat} {statement : Statement} {entry : Row → Entry}
    {next : Handler Int} (later : GuardsWith kind next) :
    GuardsWith kind (fetchRows node statement entry next) := by
  refine guardsWith_call rfl fun result => ?_
  cases result with
  | failed duplicate => exact (guards_call rfl fun _ => guards_ret _).with kind
  | done =>
    refine guardsWith_call rfl fun stored => ?_
    cases stored with
    | none => exact faulty_guards.with kind
    | some rows => exact addRows_guards later rows

/-- The reload of the devices adds nodes under a mutex only. -/
theorem updateLocalIotlist_guards (node : Nat) : Guards (updateLocalIotlist node) := by
  refine guards_call rfl fun top => ?_
  cases top with
  | none => exact guards_ret _
  | some first =>
    apply guards_lock
    refine guardsWith_call rfl fun top => ?_
    cases top with
    | none => exact faulty_guards.with _
    | some top =>
      apply fetchRows_guards
      apply guards_unlock
      exact guards_call rfl fun _ => guards_ret _

/-- `UpdateLocalRegUserAndIotlist` adds nodes under a mutex only. -/
theorem reload_guards : Guards updateLocalRegUserAndIotlist := by
  apply guards_lock
  refine guardsWith_call rfl fun checkcode => guardsWith_call rfl fun top => ?_
  cases top with
  | none => exact faulty_guards.with _
  | some top =>
    refine guardsWith_call rfl fun node => ?_
    cases node with
    | none => exact (guards_ret _).with _
    | some node =>
      apply fetchRows_guards
      apply guards_unlock
      exact guards_call rfl fun _ => updateLocalIotlist_guards node

/-- The change of a password has nothing to do with the mutexes. -/
theorem userRePwd_unlocked (a : CLN) : (userRePwd a).Only (Op.unlocked · = true) := by
  refine ⟨rfl, fun tag => ⟨rfl, fun known => ?_⟩⟩
  dsimp only [Prog.bind]
  split
  · cases tag with
    | none => trivial
    | some first =>
      dsimp only
      split
      · exact ⟨rfl, fun _ => trivial⟩
      · refine ⟨rfl, fun found => ?_⟩
        cases found with
        | none => trivial
        | some user =>
          refine ⟨rfl, fun node => ?_⟩
          cases node with
          | none => trivial
          | some node =>
            refine ⟨rfl, fun result => ?_⟩
            cases result with
            | failed duplicate => exact ⟨rfl, fun _ => trivial⟩
            | done => exact ⟨rfl, fun _ => ⟨rfl, fun _ => trivial⟩⟩
  · trivial

/-- A program that has nothing to do with the mutexes. -/
theorem guards_only {handler : Handler α} (free : handler.Only (Op.unlocked · = true)) :
    Guards handler := by
  induction handler with
  | ret value => exact guards_ret value
  | call op next ih => exact guards_call free.1 fun response => ih response (free.2 response)

/-- Results, operations besides those on the registered lists, and sequences. -/
theorem guards_closed : ClosedUnder fun α => Guards (α := α) where
  ret α value := guards_ret value
  call α op next free later := guards_call (by cases op <;> first | rfl | cases free) later
  bind α β program f first second := first.seq second

/-- What is put together from the parts. -/
theorem Assembled.guards {renews : CLN → Prop} {handler : Handler α}
    (assembled : Assembled renews handler) : Guards handler :=
  assembled.closed guards_closed reload_guards fun b _ => guards_only (userRePwd_unlocked b)

/-! ## Every turn -/

variable {config : Config} {server after : ServerState} {log history : List Note}
  {owners later : Owners} {object : Nat} {kind : Kind} {turn : Turn}

/-- The mutexes of an object. -/
def mutesOf (owners : Owners) (object : Nat) : Kind → Bool :=
  fun kind => decide (owners kind = some object)

/-- What every run keeps. -/
structure Booked (config : Config) (now : Locked) : Prop where
  told : Told config now.1
  /-- Requests have the mutexes that they have taken and not given back. -/
  books : ∀ object, locking.run (fun _ => false) (deeds now.1.2 object) =
    some (mutesOf now.2 object)

/-- Before the first connection nobody has a mutex. -/
theorem booked_initial (config : Config) : Booked config .initial where
  told := told_initial config
  books _ := rfl

/-- What a task may do next. -/
theorem Booked.guarded (booked : Booked config ((server, log), owners)) {task : Task}
    (member : task ∈ server.tasks) {op : Op} {next : op.Res → Handler Unit}
    (program : task.program = .call op next) : ¬Unguarded (mutesOf owners task.object) op := by
  obtain ⟨-, comes⟩ := booked.told.pooled task member
  have safe := (talk_assembled config task.request).guards fun _ => false
  exact (safely_iff.mp safe _ _ _ comes (booked.books task.object)).1 op next program

/-- It gives back only a mutex that it has. -/
theorem Booked.unlocks (booked : Booked config ((server, log), owners)) {task : Task}
    (member : task ∈ server.tasks) {next : Unit → Handler Unit}
    (program : task.program = .call (.unlockMute kind) next) : owners kind = some task.object := by
  by_contra other
  exact booked.guarded member program (decide_eq_false other)

/-- One more operation of an object. -/
theorem locking_snoc {object : Nat} {happening : Happening}
    (books : locking.run (fun _ => false) (deeds log object) = some (mutesOf owners object))
    (step : locking.step (mutesOf owners object) happening = some (mutesOf later object)) :
    locking.run (fun _ => false) (deeds (log ++ [.did object happening]) object) =
      some (mutesOf later object) := by
  rw [deeds_snoc_did, run_append_eq, books]
  exact (run_cons _ _ _ _).mpr ⟨_, step, rfl⟩

/-- The books after an operation. -/
theorem Booked.did (booked : Booked config ((server, log), owners)) {op : Op} {response : op.Res}
    (holds : ∀ kind, op = .unlockMute kind → owners kind = some object)
    (answered : ownersAfter owners (.did object ⟨op, response⟩) = some later) (other : Nat) :
    locking.run (fun _ => false) (deeds (log ++ [.did object ⟨op, response⟩]) other) =
      some (mutesOf later other) := by
  have books := booked.books other
  by_cases own : object = other
  · subst own
    apply locking_snoc books
    cases op with
    | lockMute kind =>
      obtain ⟨-, taken⟩ := Option.ite_none_right_eq_some.mp answered
      obtain rfl := Option.some.inj taken
      apply congrArg some
      funext other
      by_cases same : other = kind <;> simp [mutesOf, same]
    | unlockMute kind =>
      obtain rfl := Option.some.inj answered
      apply congrArg some
      funext other
      by_cases same : other = kind <;> simp [mutesOf, same]
    | _ =>
      obtain rfl := Option.some.inj answered
      rfl
  · rw [deeds_snoc_other log own, books]
    apply congrArg some
    funext which
    cases op with
    | lockMute kind =>
      obtain ⟨free, taken⟩ := Option.ite_none_right_eq_some.mp answered
      obtain rfl := Option.some.inj taken
      by_cases same : which = kind
      · subst same
        simp [mutesOf, free, own]
      · simp [mutesOf, same]
    | unlockMute kind =>
      obtain rfl := Option.some.inj answered
      by_cases same : which = kind
      · subst same
        simp [mutesOf, holds which rfl, own]
      · simp [mutesOf, same]
    | _ =>
      obtain rfl := Option.some.inj answered
      rfl

/-- A turn of the server, with its mutexes. -/
theorem locked_step {now next : Locked} (turned : (locked config).step now turn = some next) :
    (chronicled config).step now.1 turn = some next.1 ∧
      (now.1.1.notes turn).foldlM ownersAfter now.2 = some next.2 := by
  obtain ⟨following, stepped, rest⟩ := Option.bind_eq_some_iff.mp turned
  obtain ⟨owners, answered, same⟩ := Option.bind_eq_some_iff.mp rest
  obtain rfl := Option.some.inj same
  exact ⟨stepped, answered⟩

/-- A run of the server with its mutexes is one of the server: a mutex that is taken only takes runs
away, so what holds in every run of the server holds here. -/
theorem locked_run {turns : List Turn} {now final : Locked}
    (ran : (locked config).run now turns = some final) :
    (chronicled config).run now.1 turns = some final.1 := by
  induction turns generalizing now with
  | nil =>
    obtain rfl := Option.some.inj ran
    rfl
  | cons turn turns ih =>
    obtain ⟨next, turned, rest⟩ := (run_cons _ _ _ _).mp ran
    exact (run_cons _ _ _ _).mpr ⟨next.1, (locked_step turned).1, ih rest⟩

/-- Either an operation of a task, which the mutexes allow, or no note of one. -/
theorem locked_cases
    (turned : (locked config).step ((server, log), owners) turn = some ((after, history), later)) :
    (∃ task ∈ server.tasks, ∃ op next response, task.program = .call op next ∧
      history = log ++ [.did task.object ⟨op, response⟩] ∧
      ownersAfter owners (.did task.object ⟨op, response⟩) = some later ∧
      (∀ other ∈ after.tasks, ∃ former ∈ server.tasks, former.object = other.object) ∧
      (∃ performed ∈ after.tasks, performed.object = task.object) ∧
      ∀ other ∈ server.tasks, other ≠ task → other ∈ after.tasks) ∨
    (later = owners ∧ (∀ object, deeds history object = deeds log object) ∧
      (∀ other ∈ after.tasks, (∃ former ∈ server.tasks, former.object = other.object) ∨
        other.object = server.objects) ∧
      ∀ other ∈ server.tasks, other.program ≠ .ret () → other ∈ after.tasks) := by
  obtain ⟨stepped, answers⟩ := locked_step turned
  have shown : history = log ++ server.notes turn := (observed_step.mp stepped).2
  dsimp only at answers
  obtain ⟨conn, record, packet, allocated, -, known, received, rfl⟩ |
    ⟨index, answer, task, op, rest, response, memory, -, found, program, -, -, rfl, rfl⟩ |
    ⟨index, task, -, found, returned, rfl, rfl⟩ | ⟨passes, rfl⟩ := chronicled_cases stepped
  · rw [← List.append_cancel_left shown] at answers
    obtain rfl : owners = later := Option.some.inj answers
    refine .inr ⟨rfl, fun object => deeds_snoc_of_none (by rfl), ?_⟩
    obtain ⟨-, tasks, -⟩ | ⟨request, -, -, tasks⟩ := receive_request known received
    · rw [tasks]
      exact ⟨fun other member => .inl ⟨other, member, rfl⟩, fun other member _ => member⟩
    · rw [tasks]
      refine ⟨fun other member => ?_, fun other member _ => List.mem_append_left _ member⟩
      rcases List.mem_append.mp member with old | new
      · exact .inl ⟨other, old, rfl⟩
      · rw [List.mem_singleton.mp new]
        exact .inr rfl
  · rw [← List.append_cancel_left shown, List.foldlM_cons] at answers
    obtain ⟨middle, answered, ended⟩ := Option.bind_eq_some_iff.mp answers
    obtain rfl : middle = later := Option.some.inj ended
    have present : task ∈ server.tasks := List.mem_of_getElem? found
    have inside : index < server.tasks.length := (List.getElem?_eq_some_iff.mp found).1
    refine .inl ⟨task, present, op, _, response, program, rfl, answered, fun other member => ?_,
      ⟨_, List.mem_set inside _, rfl⟩, fun other member different => ?_⟩
    · rcases List.mem_or_eq_of_mem_set member with old | rfl
      · exact ⟨other, old, rfl⟩
      · exact ⟨task, present, rfl⟩
    · obtain ⟨place, there⟩ := List.mem_iff_getElem?.mp member
      have apart : index ≠ place := by
        rintro rfl
        exact different (Option.some.inj (there.symm.trans found))
      have kept : (server.tasks.set index (task.performed op (rest response)))[place]? =
          some other := (List.getElem?_set_ne apart).trans there
      exact List.mem_of_getElem? kept
  · rw [List.append_right_eq_self.mp shown.symm] at answers
    obtain rfl : owners = later := Option.some.inj answers
    refine .inr ⟨rfl, fun _ => rfl, fun other member => .inl ⟨other, ?_, rfl⟩,
      fun other member runs => ?_⟩
    · exact List.mem_of_mem_eraseIdx member
    · obtain ⟨place, there⟩ := List.mem_iff_getElem?.mp member
      apply List.mem_eraseIdx_iff_getElem?.mpr
      refine ⟨place, ?_, there⟩
      rintro rfl
      obtain rfl := Option.some.inj (there.symm.trans found)
      exact runs returned
  · rw [List.append_right_eq_self.mp shown.symm] at answers
    obtain rfl : owners = later := Option.some.inj answers
    refine .inr ⟨rfl, fun _ => rfl, fun other member => .inl ⟨other, ?_, rfl⟩,
      fun other member _ => ?_⟩
    · exact passes.same.1 ▸ member
    · exact passes.same.1.symm ▸ member

/-- A turn keeps the books of the mutexes and their owners. -/
theorem booked_turn (config : Config) (now : Locked) (turn : Turn) (next : Locked)
    (booked : Booked config now) (turned : (locked config).step now turn = some next) :
    Booked config next := by
  have told := told_turn config now.1 turn next.1 booked.told (locked_step turned).1
  obtain ⟨⟨server, log⟩, owners⟩ := now
  obtain ⟨⟨after, history⟩, later⟩ := next
  refine ⟨told, fun object => ?_⟩
  obtain ⟨task, member, op, following, response, program, shown, answered, -⟩ |
    ⟨same, quiet, -⟩ := locked_cases turned
  · change locking.run _ (deeds history object) = _
    rw [shown]
    apply booked.did _ answered
    rintro kind rfl
    exact booked.unlocks member program
  · change locking.run _ (deeds history object) = some (mutesOf later object)
    rw [quiet object, same]
    exact booked.books object

/-- In every run, nodes are added to the registered lists only by a task that has a mutex, and only
the task that has a mutex gives it back. -/
theorem additions_guarded (config : Config) (turns : List Turn) :
    (locked config).Always MuteGuarded .initial turns := by
  have guarded (now : Locked) (booked : Booked config now) : MuteGuarded now := by
    intro task member op next program
    constructor
    · rintro entry rfl
      by_contra none
      apply booked.guarded member program
      intro kind
      exact decide_eq_false fun has => none ⟨kind, has⟩
    · rintro kind rfl
      exact booked.unlocks member program
  exact always_of_preserved guarded (booked_turn config) (booked_initial config)

/-- A task that waits for a mutex. -/
def Task.waitsFor (task : Task) (kind : Kind) : Prop :=
  ∃ next, task.program = .call (.lockMute kind) next

/-- Whoever has a mutex has taken it. -/
theorem Booked.numbered (booked : Booked config ((server, log), owners))
    (has : owners kind = some object) : object < server.objects := by
  have books := booked.books object
  have done : deeds log object ≠ [] := by
    intro none
    change locking.run _ (deeds log object) = _ at books
    rw [none] at books
    have nothing : false = mutesOf owners object kind := congrFun (Option.some.inj books) kind
    rw [mutesOf, has, decide_eq_true rfl] at nothing
    cases nothing
  obtain ⟨happening, rest, same⟩ := List.exists_cons_of_ne_nil done
  have told : .did object happening ∈ log := mem_deeds.mp (same ▸ List.mem_cons_self)
  obtain ⟨request, requested⟩ := booked.told.acted object happening told
  exact booked.told.numbered object request requested

/-- The owner of a mutex whose request is over stays its owner. -/
theorem Booked.leaks (booked : Booked config ((server, log), owners))
    (leaked : Leaked ((server, log), owners) kind)
    (turned : (locked config).step ((server, log), owners) turn = some ((after, history), later)) :
    Leaked ((after, history), later) kind ∧
      (∃ notes, history = log ++ notes ∧ ∀ object, .did object ⟨.lockMute kind, ()⟩ ∉ notes) ∧
      ∀ task ∈ server.tasks, task.waitsFor kind → task ∈ after.tasks := by
  obtain ⟨owner, has, gone⟩ := leaked
  change owners kind = some owner at has
  obtain ⟨task, member, op, next, response, program, rfl, answered, formers, -, others⟩ |
    ⟨rfl, quiet, formers, others⟩ := locked_cases turned
  · have refused : op ≠ .lockMute kind := by
      rintro rfl
      have free := (Option.ite_none_right_eq_some.mp answered).1
      rw [has] at free
      cases free
    have still : later kind = some owner := by
      cases op with
      | lockMute which =>
        have taken := (Option.ite_none_right_eq_some.mp answered).2
        obtain rfl := Option.some.inj taken
        have apart : kind ≠ which := fun same => refused (by rw [same])
        exact (Function.update_of_ne apart _ _).trans has
      | unlockMute which =>
        obtain rfl := Option.some.inj answered
        have apart : kind ≠ which := by
          rintro rfl
          have own := booked.unlocks member program
          exact gone task member (Option.some.inj (own.symm.trans has))
        exact (Function.update_of_ne apart _ _).trans has
      | _ =>
        obtain rfl := Option.some.inj answered
        exact has
    refine ⟨⟨owner, still, fun other there => ?_⟩, ⟨_, rfl, fun object taken => ?_⟩,
      fun other there waits => others other there ?_⟩
    · obtain ⟨former, present, same⟩ := formers other there
      exact same ▸ gone former present
    · obtain ⟨-, same⟩ := Note.did.inj (List.mem_singleton.mp taken)
      exact refused (congrArg Sigma.fst same).symm
    · rintro rfl
      obtain ⟨following, locks⟩ := waits
      rw [locks] at program
      injection program with same
      exact refused same.symm
  · obtain ⟨stepped, -⟩ := locked_step turned
    have shown : history = log ++ server.notes turn := (observed_step.mp stepped).2
    refine ⟨⟨owner, has, fun other there => ?_⟩, ⟨_, shown, fun object taken => ?_⟩,
      fun other there waits => others other there ?_⟩
    · obtain ⟨former, present, same⟩ | new := formers other there
      · exact same ▸ gone former present
      · rw [new]
        exact (booked.numbered has).ne'
    · have whole := quiet object
      rw [shown, deeds, List.filterMap_append, ← deeds, List.append_right_eq_self] at whole
      have done := mem_deeds.mpr taken
      change _ ∈ deeds (server.notes turn) object at done
      rw [deeds, whole] at done
      cases done
    · obtain ⟨following, locks⟩ := waits
      rw [locks]
      intro same
      cases same

/-- A mutex that is with a request that is over stays there in every continuation of the run: nobody
takes it, and the tasks that wait for it wait for ever. -/
theorem leaked_mutex_blocks (config : Config) (turns rest : List Turn) (now next : Locked)
    (kind : Kind) (ran : (locked config).run .initial turns = some now) (leaked : Leaked now kind)
    (ran_on : (locked config).run now rest = some next) :
    Leaked next kind ∧
      (∃ notes, next.1.2 = now.1.2 ++ notes ∧ ∀ object, .did object ⟨.lockMute kind, ()⟩ ∉ notes) ∧
      ∀ task ∈ now.1.1.tasks, task.waitsFor kind → task ∈ next.1.1.tasks := by
  have booked := run_preserved (booked_turn config) (booked_initial config) ran
  clear ran
  induction rest generalizing now with
  | nil =>
    obtain rfl := Option.some.inj ran_on
    exact ⟨leaked, ⟨[], (List.append_nil _).symm, fun _ => List.not_mem_nil⟩,
      fun task member _ => member⟩
  | cons turn rest ih =>
    obtain ⟨middle, turned, on⟩ := (run_cons _ _ _ _).mp ran_on
    obtain ⟨kept, ⟨first, shown, none⟩, waits⟩ := booked.leaks leaked turned
    obtain ⟨still, ⟨others, longer, never⟩, stay⟩ :=
      ih middle kept on (booked_turn config now turn middle booked turned)
    refine ⟨still, ⟨first ++ others, ?_, fun object taken => ?_⟩, fun task member waiting => ?_⟩
    · rw [longer, shown, List.append_assoc]
    · rcases List.mem_append.mp taken with now | later
      · exact none object now
      · exact never object later
    · exact stay task (waits task member waiting) waiting

/-- A request to be added as a friend reloads the lists, gets no connection and ends. -/
def reloadsInVain : List Turn :=
  .event (.receive 0 (text "ADD" ++ zeros 203) true) ::
    ([.unit, .bytes [], .found (some (keyedNode "13800000000" 3)), .node none, .found none, .unit,
      .unit].map (.step 1) ++ [.leave 1])

/-- Another one comes, and a connection is accepted. -/
def reloadsAgain : List Turn :=
  [.event (.receive 0 (text "ADD" ++ zeros 203) true), .event (.accept 6)]

/-- The mutex of the users is leaked, and the next request does not get it. -/
theorem leaked_mutex_blocks_add : ∃ now next : Locked,
    (locked ⟨id, []⟩).run .initial (greets ++ reloadsInVain) = some now ∧
      (locked ⟨id, []⟩).run now reloadsAgain = some next ∧ Leaked now .user ∧
      Leaked next .user := by
  have leaks : ((locked ⟨id, []⟩).run .initial (greets ++ reloadsInVain)).any (fun now =>
      decide (now.2 .user = some 1 ∧ ∀ task ∈ now.1.1.tasks, task.object ≠ 1) &&
        ((locked ⟨id, []⟩).run now reloadsAgain).isSome) = true := by
    decide +kernel
  obtain ⟨now, ran, checked⟩ := (Option.any_eq_true _ _).mp leaks
  obtain ⟨leaked, on⟩ := Bool.and_eq_true_iff.mp checked
  obtain ⟨next, ran_on⟩ := Option.isSome_iff_exists.mp on
  have before : Leaked now .user := ⟨1, of_decide_eq_true leaked⟩
  exact ⟨now, next, ran, ran_on, before,
    (leaked_mutex_blocks _ _ _ now next .user ran before ran_on).1⟩

end UubangIot
