import UubangIot.Verif.RegistryLock

/-!
# The mutexes and deadlock

A reload takes the mutex of the users, gives it back, and only then takes that of the devices. As
long as every reload gets its connection and its queries are done, a request never waits for a
mutex while it has one, and gives back what it has taken before it is over. So whoever has a mutex
is a task that can go on, and the tasks of the server do not wait for each other in a circle.
-/

namespace UubangIot

open Effect Effect.Prog Transition Transition.System

/-! ## Statement -/

/-- A request that has a mutex gets no connection, or its query fails. -/
def Happening.fails (held : Kind → Bool) : Happening → Bool
  | ⟨.getDbConnect, response⟩ =>
    (held .user || held .iot) && (show Option Nat from response).isNone
  | ⟨.realQuery _ _, result⟩ =>
    (held .user || held .iot) && decide ((show QueryResult from result) ≠ .done)
  | _ => false

/-- A note of a reload that fails. -/
def Note.reloadFails (owners : Owners) : Note → Bool
  | .did object happening =>
    Happening.fails (fun kind => decide (owners kind = some object)) happening
  | .received _ _ _ _ _ => false

/-- The reloads get their connection, and their queries are done. -/
def ReloadsServed (now : Locked) (turn : Turn) : Prop :=
  ∀ note ∈ now.1.1.notes turn, note.reloadFails now.2 = false

instance (now : Locked) (turn : Turn) : Decidable (ReloadsServed now turn) :=
  inferInstanceAs (Decidable (∀ note ∈ now.1.1.notes turn, note.reloadFails now.2 = false))

/-- Whoever has a mutex is a task, and waits for none. -/
def HoldersGoOn (now : Locked) : Prop :=
  ∀ kind object, now.2 kind = some object →
    ∃ task ∈ now.1.1.tasks, task.object = object ∧ ∀ other, ¬task.waitsFor other

/-! ## What a program does to the mutexes it has -/

/-- The mutexes of a request none of whose reloads fails. -/
def reloading : System (Kind → Bool) Happening where
  step held happening := if happening.fails held = true then none else locking.step held happening

variable {α β : Type} {op : Op} {held next : Kind → Bool} {kind : Kind} {happening : Happening}

/-- A step of a reload that does not fail. -/
theorem reloading_step : reloading.step held happening = some next ↔
    ¬happening.fails held = true ∧ locking.step held happening = some next :=
  Option.ite_none_left_eq_some

/-- A wait for a mutex under another. -/
def WaitsHolding (held : Kind → Bool) : Op → Prop
  | .lockMute _ => ∃ kind, held kind = true
  | _ => False

/-- No mutex. -/
def unheld : Kind → Bool := fun _ => false

/-- One mutex. -/
def holding (kind : Kind) : Kind → Bool := Function.update unheld kind true

/-- A program waits for a mutex only when it has none, and has none at its end. -/
def Returning (handler : Handler α) : Prop :=
  handler.Safely reloading WaitsHolding (fun _ after => after = unheld) unheld

/-- A program that starts with a mutex. -/
def ReturningWith (kind : Kind) (handler : Handler α) : Prop :=
  handler.Safely reloading WaitsHolding (fun _ after => after = unheld) (holding kind)

/-- An operation that takes and gives no mutex. -/
def Op.mutexless : Op → Bool
  | .lockMute _ | .unlockMute _ => false
  | _ => true

/-- What the mutexes allow takes none. -/
theorem mutexless_of_unlocked (free : op.unlocked = true) : op.mutexless = true := by
  cases op <;> first | rfl | cases free

/-- It leaves the mutexes, and does not fail. -/
theorem reloading_mutexless (free : op.mutexless = true) {response : op.Res} {after : Kind → Bool}
    (stepped : reloading.step held ⟨op, response⟩ = some after) :
    after = held ∧ Happening.fails held ⟨op, response⟩ = false := by
  obtain ⟨served, moved⟩ := reloading_step.mp stepped
  refine ⟨?_, Bool.eq_false_of_not_eq_true served⟩
  cases op <;> first | exact (Option.some.inj moved).symm | cases free

/-- What takes no mutex waits for none. -/
theorem not_waits_of_mutexless (free : op.mutexless = true) : ¬WaitsHolding held op := by
  cases op <;> first | exact id | cases free

/-- A return has no mutex. -/
theorem returning_ret (value : α) : Returning (.ret value : Handler α) := rfl

/-- A program of an operation besides the mutexes returns them when what follows it does. -/
theorem returning_call {next : op.Res → Handler α} (free : op.mutexless = true)
    (later : ∀ response, Returning (next response)) : Returning (.call op next) := by
  refine ⟨not_waits_of_mutexless free, fun response after stepped => ?_⟩
  rw [(reloading_mutexless free stepped).1]
  exact later response

/-- The same holds under a mutex, where the operation does not fail. -/
theorem returningWith_call {next : op.Res → Handler α} (free : op.mutexless = true)
    (later : ∀ response, Happening.fails (holding kind) ⟨op, response⟩ = false →
      ReturningWith kind (next response)) : ReturningWith kind (.call op next) := by
  refine ⟨not_waits_of_mutexless free, fun response after stepped => ?_⟩
  obtain ⟨same, served⟩ := reloading_mutexless free stepped
  rw [same]
  exact later response served

/-- A program that has nothing to do with the mutexes. -/
theorem returning_only {handler : Handler α} (free : handler.Only (Op.unlocked · = true)) :
    Returning handler := by
  induction handler with
  | ret value => exact returning_ret value
  | call op next ih =>
    exact returning_call (mutexless_of_unlocked free.1) fun response =>
      ih response (free.2 response)

/-- An undefined access never gives its mutex back, nor goes on. -/
theorem faulty_returningWith : ReturningWith kind (faulty : Handler α) :=
  returningWith_call rfl fun response => response.elim

/-- A sequence of programs that take and return one mutex at a time is such a program. -/
theorem Returning.seq {program : Handler α} {f : α → Handler β} (first : Returning program)
    (second : ∀ value, Returning (f value)) : Returning (program >>= f) := by
  apply safely_bind.mpr
  apply Safely.mono first
  rintro value after rfl
  exact second value

/-- A program with no mutex may take one, when the rest of it returns that one. -/
theorem returning_lock {next : Unit → Handler α} (later : ReturningWith kind (next ())) :
    Returning (.call (.lockMute kind) next) := by
  constructor
  · rintro ⟨other, has⟩
    cases has
  · intro response after stepped
    obtain ⟨-, moved⟩ := reloading_step.mp stepped
    obtain rfl := Option.some.inj moved
    exact later

/-- A mutex is given back. -/
theorem returning_unlock {next : Unit → Handler α} (later : Returning (next ())) :
    ReturningWith kind (.call (.unlockMute kind) next) := by
  refine ⟨id, fun response after stepped => ?_⟩
  obtain ⟨-, moved⟩ := reloading_step.mp stepped
  have freed : Function.update (holding kind) kind false = unheld := by
    rw [holding, Function.update_idem]
    exact Function.update_eq_self kind unheld
  rw [← Option.some.inj moved]
  change Safely _ _ _ _ (Function.update (holding kind) kind false)
  rw [freed]
  exact later

/-- Whoever has a mutex has one of the two. -/
theorem holding_some (kind : Kind) : (holding kind .user || holding kind .iot) = true := by
  cases kind <;> rfl

/-- The rows of a reload. -/
theorem addRows_returning {entry : Row → Entry} {next : Handler α}
    (later : ReturningWith kind next) (rows : List Row) :
    ReturningWith kind (addRows entry rows >>= fun _ => next) := by
  induction rows with
  | nil => exact later
  | cons row rest ih => exact returningWith_call rfl fun _ _ => ih

/-- The rows of a query that is done. -/
theorem fetchRows_returning {node : Nat} {statement : Statement} {entry : Row → Entry}
    {next : Handler Int} (later : ReturningWith kind next) :
    ReturningWith kind (fetchRows node statement entry next) := by
  refine returningWith_call rfl fun result served => ?_
  cases result with
  | failed duplicate =>
    have fails : Happening.fails (holding kind)
        ⟨.realQuery node statement, QueryResult.failed duplicate⟩ = true := by
      change ((holding kind .user || holding kind .iot) && _) = true
      rw [holding_some]
      rfl
    rw [fails] at served
    cases served
  | done =>
    refine returningWith_call rfl fun stored _ => ?_
    cases stored with
    | none => exact faulty_returningWith
    | some rows => exact addRows_returning later rows

/-- The reload of the devices waits without a mutex and ends without one. -/
theorem updateLocalIotlist_returning (node : Nat) : Returning (updateLocalIotlist node) := by
  refine returning_call rfl fun top => ?_
  cases top with
  | none => exact returning_ret _
  | some first =>
    apply returning_lock
    refine returningWith_call rfl fun top _ => ?_
    cases top with
    | none => exact faulty_returningWith
    | some top =>
      apply fetchRows_returning
      apply returning_unlock
      exact returning_call rfl fun _ => returning_ret _

/-- `UpdateLocalRegUserAndIotlist` waits without a mutex and ends without one. -/
theorem reload_returning : Returning updateLocalRegUserAndIotlist := by
  apply returning_lock
  refine returningWith_call rfl fun checkcode _ => returningWith_call rfl fun top _ => ?_
  cases top with
  | none => exact faulty_returningWith
  | some top =>
    refine returningWith_call rfl fun node served => ?_
    cases node with
    | none => cases served
    | some node =>
      apply fetchRows_returning
      apply returning_unlock
      exact returning_call rfl fun _ => updateLocalIotlist_returning node

/-- Results, operations besides those on the registered lists, and sequences. -/
theorem returning_closed : ClosedUnder fun α => Returning (α := α) where
  ret α value := returning_ret value
  call α op next free later := returning_call (by cases op <;> first | rfl | cases free) later
  bind α β program f first second := first.seq second

/-- The program of every request returns the mutexes it takes. -/
theorem talk_returning (config : Config) (a : CLN) : Returning (talk config a) :=
  (talk_assembled config a).closed returning_closed reload_returning fun b _ =>
    returning_only (userRePwd_unlocked b)

/-! ## Every turn -/

variable {config : Config} {server after : ServerState} {log history : List Note}
  {owners later : Owners} {object : Nat} {turn : Turn}

/-- What a run keeps whose reloads do not fail. -/
structure Advancing (config : Config) (now : Locked) : Prop where
  booked : Booked config now
  /-- No reload has failed. -/
  served : ∀ object, reloading.run unheld (deeds now.1.2 object) = some (mutesOf now.2 object)
  /-- Whoever has a mutex is a task. -/
  live : ∀ kind object, now.2 kind = some object → object ∈ now.1.1.tasks.map Task.object

/-- Before the first connection nobody has a mutex. -/
theorem advancing_initial (config : Config) : Advancing config .initial where
  booked := booked_initial config
  served _ := rfl
  live _ _ has := by cases has

/-- What holds of a task by the mutexes it has. -/
theorem Advancing.returning (advancing : Advancing config ((server, log), owners)) {task : Task}
    (member : task ∈ server.tasks) :
    (∀ op next, task.program = .call op next → ¬WaitsHolding (mutesOf owners task.object) op) ∧
      ∀ value, task.program = .ret value → mutesOf owners task.object = unheld := by
  obtain ⟨-, comes⟩ := advancing.booked.told.pooled task member
  exact safely_iff.mp (talk_returning config task.request) _ _ _ comes
    (advancing.served task.object)

/-- Whoever has a mutex goes on. -/
theorem Advancing.holdersGoOn (advancing : Advancing config ((server, log), owners)) :
    HoldersGoOn ((server, log), owners) := by
  intro kind object has
  obtain ⟨task, member, rfl⟩ := List.mem_map.mp (advancing.live kind object has)
  refine ⟨task, member, rfl, fun other waits => ?_⟩
  obtain ⟨next, program⟩ := waits
  exact (advancing.returning member).1 _ next program ⟨kind, decide_eq_true has⟩

/-- The owner of a mutex after an operation had it before, or has performed it. -/
theorem owner_after {op : Op} {response : op.Res}
    (answered : ownersAfter owners (.did object ⟨op, response⟩) = some later) {owner : Nat}
    (has : later kind = some owner) : owners kind = some owner ∨ owner = object := by
  cases op with
  | lockMute which =>
    obtain ⟨-, taken⟩ := Option.ite_none_right_eq_some.mp answered
    obtain rfl := Option.some.inj taken
    by_cases same : kind = which
    · subst same
      rw [Function.update_self] at has
      exact .inr (Option.some.inj has).symm
    · rw [Function.update_of_ne same] at has
      exact .inl has
  | unlockMute which =>
    obtain rfl := Option.some.inj answered
    by_cases same : kind = which
    · subst same
      rw [Function.update_self] at has
      cases has
    · rw [Function.update_of_ne same] at has
      exact .inl has
  | _ =>
    obtain rfl := Option.some.inj answered
    exact .inl has

/-- The books of a run without failures, after an operation. -/
theorem Advancing.did (advancing : Advancing config ((server, log), owners)) {happening : Happening}
    (serves : happening.fails (mutesOf owners object) = false)
    (books : ∀ other, locking.run (fun _ => false) (deeds (log ++ [.did object happening]) other) =
      some (mutesOf later other)) (other : Nat) :
    reloading.run unheld (deeds (log ++ [.did object happening]) other) =
      some (mutesOf later other) := by
  have old := advancing.served other
  have before := advancing.booked.books other
  have now := books other
  by_cases own : object = other
  · subst own
    rw [deeds_snoc_did, run_append_eq, before] at now
    rw [deeds_snoc_did, run_append_eq, old]
    obtain ⟨middle, stepped, ended⟩ := (run_cons _ _ _ _).mp now
    refine (run_cons _ _ _ _).mpr ⟨middle, ?_, ended⟩
    exact reloading_step.mpr ⟨by rw [serves]; exact Bool.false_ne_true, stepped⟩
  · rw [deeds_snoc_other log own] at now ⊢
    rw [before] at now
    rw [old]
    exact now

/-- A turn keeps the holders of the mutexes able to go on. -/
theorem advancing_turn (config : Config) (now : Locked) (turn : Turn) (next : Locked)
    (serves : ReloadsServed now turn) (advancing : Advancing config now)
    (turned : (locked config).step now turn = some next) : Advancing config next := by
  have booked := booked_turn config now turn next advancing.booked turned
  have stepped := (locked_step turned).1
  obtain ⟨⟨server, log⟩, owners⟩ := now
  obtain ⟨⟨after, history⟩, later⟩ := next
  have shown : history = log ++ server.notes turn := (observed_step.mp stepped).2
  obtain ⟨task, member, op, rest, response, program, rfl, answered, -, performs, others⟩ |
    ⟨rfl, quiet, -, others⟩ := locked_cases turned
  · have noted : Note.did task.object ⟨op, response⟩ ∈ server.notes turn :=
      List.append_cancel_left shown ▸ List.mem_cons_self
    refine ⟨booked, advancing.did (serves _ noted) booked.books, fun kind object has => ?_⟩
    have performed : task.object ∈ after.tasks.map Task.object := List.mem_map.mpr performs
    rcases owner_after answered has with old | rfl
    · obtain ⟨owner, there, rfl⟩ := List.mem_map.mp (advancing.live kind object old)
      by_cases same : owner = task
      · exact same ▸ performed
      · exact List.mem_map_of_mem (others owner there same)
    · exact performed
  · refine ⟨booked, fun object => ?_, fun kind object has => ?_⟩
    · exact (congrArg (reloading.run unheld) (quiet object)).trans (advancing.served object)
    · obtain ⟨owner, there, rfl⟩ := List.mem_map.mp (advancing.live kind object has)
      refine List.mem_map_of_mem (others owner there fun returned => ?_)
      have unowned := (advancing.returning there).2 () returned
      exact of_decide_eq_false (congrFun unowned kind) has

/-- In every run whose reloads get their connection and have their queries done, whoever has a mutex
of the registered lists is a task of the pool that does not wait for a mutex. -/
theorem holders_go_on (config : Config) (turns : List Turn)
    (meets : (locked config).Meets ReloadsServed .initial turns) :
    (locked config).Always HoldersGoOn .initial turns :=
  always_of_meets (fun _ advancing => advancing.holdersGoOn) (advancing_turn config)
    (advancing_initial config) meets

/-- Two requests to be added as a friend reload the lists, and the first has its query done. -/
def reloadsTwice : List Turn :=
  let adds : Turn := .event (.receive 0 (text "ADD" ++ zeros 203) true)
  greets ++ [adds, adds] ++
    [.unit, .bytes [], .found (some (keyedNode "13800000000" 3)), .node (some 0),
      .query .done].map (.step 1)

/-- The first request has the mutex of the users, and goes on. -/
theorem holders_go_on_reload : ∃ now : Locked,
    (locked ⟨id, []⟩).run .initial reloadsTwice = some now ∧ now.2 .user = some 1 ∧
      HoldersGoOn now := by
  have has : ((locked ⟨id, []⟩).run .initial reloadsTwice).map (fun now => now.2 .user) =
      some (some 1) := by
    decide +kernel
  obtain ⟨now, ran, owner⟩ := Option.map_eq_some_iff.mp has
  have meets : (locked ⟨id, []⟩).Meets ReloadsServed .initial reloadsTwice := by
    decide +kernel
  exact ⟨now, ran, owner, holders_go_on ⟨id, []⟩ _ meets 9 now ran⟩

end UubangIot
