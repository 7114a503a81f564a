import UubangIot.Verif.Chronicle
import UubangIot.Verif.RequestParts
import UubangIot.Verif.SqlLeases
import UubangIot.Verif.UserOperations
import Mathlib.Data.Multiset.AddSub

/-!
# The tasks of the server and the connection pool

The server is run with the pool beside it, which answers the calls of `get_db_connect` of all tasks.
As long as the first free node of every scan answers its ping, and no reload meets a registered
device, after which it goes on with a node it has given back, every task uses only nodes that are
leased to it, and no node is leased to two tasks.
-/

namespace UubangIot

open Effect Effect.Prog Transition Transition.System SqlPool

/-! ## Statement -/

/-- The node that an operation works on. -/
def Op.node : Op → Option Nat
  | .realQuery node _ | .storeResult node | .affectedRows node | .releaseNode node => some node
  | _ => none

/-- The server with its pool, and the leases of the tasks by their objects. -/
abbrev PooledServer := (ServerState × List Note) × LeaseState Nat

/-- The pool and its leases after a note. -/
def leasedAfter (outcomes : SqlPool.Outcomes) (state : LeaseState Nat) :
    Note → Option (LeaseState Nat)
  | .did object ⟨.getDbConnect, response⟩ =>
    if (getDbConnect state.pool outcomes).1 = (show Option Nat from response) then
      leaseSystem.step state (.get object outcomes)
    else none
  | .did object ⟨.releaseNode node, _⟩ =>
    some ⟨releaseNode state.pool node, state.leases.erase (object, node)⟩
  | _ => some state

/-- The chronicled server with its pool; every turn has its answers of `rand` and MySQL. -/
def pooled (config : Config) : System PooledServer (Turn × SqlPool.Outcomes) where
  step now turn := do
    let next ← (chronicled config).step now.1 turn.1
    let leases ← (now.1.1.notes turn.1).foldlM (leasedAfter turn.2) now.2
    return (next, leases)

/-- A scan meets no dropped connection, and a reload meets no device. -/
def Sparing (outcomes : SqlPool.Outcomes) (state : LeaseState Nat) : Note → Prop
  | .did object ⟨.getDbConnect, _⟩ => SqlPool.Answered state (.get object outcomes)
  | .did _ ⟨.registedHead .iot, top⟩ => (show Option User from top) = none
  | _ => True

instance (outcomes : SqlPool.Outcomes) (state : LeaseState Nat) (note : Note) :
    Decidable (Sparing outcomes state note) := by
  cases note with
  | received => exact .isTrue trivial
  | did object happening =>
    obtain ⟨op, response⟩ := happening
    cases op with
    | getDbConnect => exact inferInstanceAs (Decidable (∀ i < state.pool.poolNumber, _ → _ → _))
    | registedHead kind =>
      cases kind with
      | user => exact .isTrue trivial
      | iot => exact (inferInstance : DecidableEq (Option User)) response none
    | _ => exact .isTrue trivial

/-- So do those of a turn. -/
def PooledServer.sparing (now : PooledServer) (turn : Turn × SqlPool.Outcomes) : Prop :=
  ∀ note ∈ now.1.1.notes turn.1, Sparing turn.2 now.2 note

instance (now : PooledServer) (turn : Turn × SqlPool.Outcomes) : Decidable (now.sparing turn) :=
  inferInstanceAs (Decidable (∀ note ∈ now.1.1.notes turn.1, _))

/-- Tasks use nodes that are leased to them, and no node is leased twice. -/
structure NodesOwned (now : PooledServer) : Prop where
  once : now.2.nodes.Nodup
  own : ∀ task ∈ now.1.1.tasks, ∀ op next, task.program = .call op next →
    ∀ node, op.node = some node → (task.object, node) ∈ now.2.leases

/-! ## What a program does to the nodes it holds -/

/-- Nodes held after an operation; a reload that meets a device is not followed. -/
def borrowing : System (Multiset Nat) Happening where
  step
    | held, ⟨.getDbConnect, response⟩ =>
      match (response : Option Nat) with
      | none => some held
      | some node => some (node ::ₘ held)
    | held, ⟨.releaseNode node, _⟩ => some (held.erase node)
    | held, ⟨.registedHead .iot, top⟩ =>
      if (show Option User from top) = none then some held else none
    | held, _ => some held

/-- An operation on a node that is not held. -/
def Unheld (held : Multiset Nat) (op : Op) : Prop := ∃ node, op.node = some node ∧ node ∉ held

variable {α β : Type} {op : Op} {held : Multiset Nat} {node : Nat}

/-- A program works on nodes it holds, and gives back only what it has taken. -/
def Borrows (handler : Handler α) : Prop :=
  ∀ held, handler.Safely borrowing Unheld (fun _ after => held ≤ after) held

/-- A program that may also give back one node that it starts with. -/
def Holding (node : Nat) (handler : Handler α) : Prop :=
  ∀ held, handler.Safely borrowing Unheld (fun _ after => held ≤ after) (node ::ₘ held)

/-- An operation on no node, which takes none. -/
def Op.idle (op : Op) : Prop := op.node = none ∧ op ≠ .getDbConnect

/-- An operation on no node leaves the leases. -/
theorem borrowing_idle (idle : op.idle) {response : op.Res} {after : Multiset Nat}
    (stepped : borrowing.step held ⟨op, response⟩ = some after) : after = held := by
  cases op with
  | getDbConnect => exact absurd rfl idle.2
  | realQuery | storeResult | affectedRows | releaseNode => cases idle.1
  | registedHead kind =>
    cases kind with
    | user => exact (Option.some.inj stepped).symm
    | iot => exact (Option.some.inj (Option.ite_none_right_eq_some.mp stepped).2).symm
  | _ => exact (Option.some.inj stepped).symm

/-- Operations apart are on no node. -/
theorem idle_of_apart (apart : op.apart = true) : op.idle := by
  cases op <;> first | exact ⟨rfl, Op.noConfusion⟩ | cases apart

/-- A return holds what it held. -/
theorem borrows_ret (value : α) : Borrows (.ret value : Handler α) := fun _ => le_rfl

/-- An operation on no node. -/
theorem borrows_call {next : op.Res → Handler α} (idle : op.idle)
    (later : ∀ response, Borrows (next response)) : Borrows (.call op next) := by
  intro held
  constructor
  · rintro ⟨node, works, -⟩
    rw [idle.1] at works
    cases works
  · intro response after stepped
    rw [borrowing_idle idle stepped]
    exact later response held

/-- An undefined access works on nodes it holds and gives back what it takes. -/
theorem faulty_borrows : Borrows (faulty : Handler α) :=
  borrows_call ⟨rfl, Op.noConfusion⟩ fun response => response.elim

/-- A sequence of programs that give back only what they have taken is such a program. -/
theorem Borrows.seq {program : Handler α} {f : α → Handler β} (first : Borrows program)
    (second : ∀ value, Borrows (f value)) : Borrows (program >>= f) := by
  intro held
  apply safely_bind.mpr
  apply (first held).mono
  intro value middle grown
  exact (second value middle).mono fun _ _ later => grown.trans later

/-- A node is taken, or there is none. -/
theorem borrows_take {next : Option Nat → Handler α} (none : Borrows (next none))
    (some : ∀ node, Holding node (next (some node))) : Borrows (.call .getDbConnect next) := by
  intro held
  constructor
  · rintro ⟨node, works, -⟩
    cases works
  · intro response after stepped
    cases response with
    | none =>
      obtain rfl := Option.some.inj stepped
      exact none held
    | some node =>
      obtain rfl := Option.some.inj stepped
      exact some node held

/-- The node may be kept. -/
theorem Borrows.holding {handler : Handler α} (borrows : Borrows handler) :
    Holding node handler := by
  intro held
  apply (borrows (node ::ₘ held)).mono
  intro _ after grown
  exact (Multiset.le_cons_self held node).trans grown

/-- An operation on the node. -/
theorem holding_use {next : op.Res → Handler α} (works : op.node = some node)
    (kept : ∀ other, op ≠ .releaseNode other) (later : ∀ response, Holding node (next response)) :
    Holding node (.call op next) := by
  intro held
  constructor
  · rintro ⟨other, same, unheld⟩
    rw [works] at same
    rw [← Option.some.inj same] at unheld
    exact unheld (Multiset.mem_cons_self node held)
  · intro response after stepped
    have still : after = node ::ₘ held := by
      cases op with
      | realQuery | storeResult | affectedRows => exact (Option.some.inj stepped).symm
      | releaseNode other => exact absurd rfl (kept other)
      | _ => cases works
    rw [still]
    exact later response held

/-- The node is given back. -/
theorem holding_give {next : Unit → Handler α} (later : Borrows (next ())) :
    Holding node (.call (.releaseNode node) next) := by
  intro held
  constructor
  · rintro ⟨other, same, unheld⟩
    rw [← Option.some.inj same] at unheld
    exact unheld (Multiset.mem_cons_self node held)
  · intro response after stepped
    have given : after = held := by
      rw [← Option.some.inj stepped]
      exact Multiset.erase_cons_head node held
    rw [given]
    exact later held

/-- Other work before the node is given back. -/
theorem Borrows.before {program : Handler α} {f : α → Handler β} (first : Borrows program)
    (second : ∀ value, Holding node (f value)) : Holding node (program >>= f) := by
  intro held
  apply safely_bind.mpr
  apply (first (node ::ₘ held)).mono
  intro value middle grown
  have there : node ∈ middle := Multiset.mem_of_le grown (Multiset.mem_cons_self node held)
  have others : held ≤ middle.erase node := by
    have erased := Multiset.erase_le_erase node grown
    rwa [Multiset.erase_cons_head] at erased
  have later := second value (middle.erase node)
  rw [Multiset.cons_erase there] at later
  exact later.mono fun _ _ more => others.trans more

/-! ## Every part -/

/-- A failed query gives its node back. -/
theorem holding_failed (value : α) :
    Holding node (.call (.releaseNode node) fun _ => (.ret value : Handler α)) :=
  holding_give (borrows_ret value)

/-- A statement that stores works on nodes it holds and gives back what it takes. -/
theorem storing_borrows (statement : Statement) (onNull onError : Int) {after : Handler Unit}
    (follows : Borrows after) : Borrows (storing statement onNull onError after) := by
  refine borrows_take (borrows_ret _) fun node => ?_
  apply holding_use rfl fun _ => Op.noConfusion
  intro result
  cases result with
  | failed duplicate => exact holding_failed _
  | done => exact follows.before fun _ => holding_give (borrows_ret _)

/-- What is done with each row works on nodes it holds and gives back what it takes. -/
theorem eachRow_borrows {each : Row → Handler Bool} (row : ∀ row, Borrows (each row))
    (rows : List Row) : Borrows (eachRow each rows) := by
  induction rows with
  | nil => exact borrows_ret _
  | cons first rest ih =>
    apply (row first).seq
    intro goes
    split
    · exact ih
    · exact borrows_ret _

/-- A statement that reads works on nodes it holds and gives back what it takes. -/
theorem reading_borrows (statement : Statement) {each : Row → Handler Bool}
    (row : ∀ row, Borrows (each row)) : Borrows (reading statement each) := by
  refine borrows_take (borrows_ret _) fun node => ?_
  apply holding_use rfl fun _ => Op.noConfusion
  intro result
  cases result with
  | failed duplicate => exact holding_failed _
  | done =>
    apply holding_use rfl fun _ => Op.noConfusion
    intro stored
    cases stored with
    | none => exact faulty_borrows.holding
    | some rows => exact (eachRow_borrows row rows).before fun _ => holding_give (borrows_ret _)

/-- `IotReadCmd` works on nodes it holds and gives back what it takes. -/
theorem iotReadCmd_borrows (a : CLN) (devclass : Int) (del : Bool) :
    Borrows (iotReadCmd a devclass del) := by
  unfold iotReadCmd
  split
  · exact (storing_borrows _ _ _ (borrows_ret _)).seq fun _ => borrows_ret _
  · refine borrows_take (borrows_ret _) fun node => ?_
    apply holding_use rfl fun _ => Op.noConfusion
    intro result
    cases result with
    | failed duplicate => exact holding_failed _
    | done =>
      apply holding_use rfl fun _ => Op.noConfusion
      intro stored
      cases stored with
      | none => exact faulty_borrows.holding
      | some rows =>
        cases rows with
        | nil => exact holding_failed _
        | cons row rest => exact holding_failed _

/-- `IotUpdateStatus` works on nodes it holds and gives back what it takes. -/
theorem iotUpdateStatus_borrows (a : CLN) (evtClass status : Int) :
    Borrows (iotUpdateStatus a evtClass status) := by
  have again : Borrows (.call .getDbConnect fun found => match (found : Option Nat) with
      | none => (.ret 0 : Handler Int)
      | some node => .call (.realQuery node (.updateEvent status (cstr a.data) a.userKeyId
          evtClass)) fun _ => .call (.affectedRows node) fun (affected : Int) =>
            .call (.releaseNode node) fun _ => .ret (if affected = 0 then 0 else 1)) := by
    refine borrows_take (borrows_ret _) fun node => ?_
    apply holding_use rfl fun _ => Op.noConfusion
    intro result
    apply holding_use rfl fun _ => Op.noConfusion
    exact fun affected => holding_failed _
  refine borrows_take (borrows_ret _) fun node => ?_
  apply holding_use rfl fun _ => Op.noConfusion
  intro result
  cases result with
  | done => exact holding_failed _
  | failed duplicate =>
    cases duplicate with
    | false => exact holding_failed _
    | true => exact holding_give again

/-- The row of a user keeps its node when it is in. -/
theorem registerRow_borrows (a : CLN) (method : Int) : Borrows (registerRow a method) := by
  unfold registerRow
  split
  · refine borrows_take (borrows_ret _) fun node => ?_
    apply holding_use rfl fun _ => Op.noConfusion
    intro result
    cases result with
    | done => exact holding_failed _
    | failed duplicate => cases duplicate <;> exact holding_failed _
  · refine borrows_take (borrows_ret _) fun node => ?_
    apply holding_use rfl fun _ => Op.noConfusion
    intro result
    cases result with
    | failed duplicate => exact holding_failed _
    | done =>
      apply holding_use rfl fun _ => Op.noConfusion
      intro result
      cases result with
      | failed duplicate => exact holding_failed _
      | done => exact (borrows_ret _).holding

/-- The rows of a reload work on nodes they hold and give back what they take. -/
theorem addRows_borrows (entry : Row → Entry) (rows : List Row) : Borrows (addRows entry rows) := by
  induction rows with
  | nil => exact borrows_ret _
  | cons row rest ih => exact borrows_call ⟨rfl, Op.noConfusion⟩ fun _ => ih

/-- A reload that meets no device does not go on with the node it has given back. -/
theorem updateLocalIotlist_borrows (node : Nat) : Borrows (updateLocalIotlist node) := by
  intro held
  constructor
  · rintro ⟨other, works, -⟩
    cases works
  · intro top after stepped
    obtain ⟨missing, still⟩ := Option.ite_none_right_eq_some.mp stepped
    obtain rfl := Option.some.inj still
    obtain rfl : top = none := missing
    exact borrows_ret _ held

/-- `UpdateLocalRegUserAndIotlist` works on nodes it holds and gives back what it takes. -/
theorem reload_borrows : Borrows updateLocalRegUserAndIotlist := by
  apply borrows_call ⟨rfl, Op.noConfusion⟩
  intro _
  apply borrows_call ⟨rfl, Op.noConfusion⟩
  intro checkcode
  apply borrows_call ⟨rfl, Op.noConfusion⟩
  intro top
  cases top with
  | none => exact faulty_borrows
  | some top =>
    refine borrows_take (borrows_ret _) fun node => ?_
    apply holding_use rfl fun _ => Op.noConfusion
    intro result
    cases result with
    | failed duplicate => exact holding_failed _
    | done =>
      apply holding_use rfl fun _ => Op.noConfusion
      intro stored
      cases stored with
      | none => exact faulty_borrows.holding
      | some rows =>
        apply (addRows_borrows _ rows).before
        intro _ held
        constructor
        · rintro ⟨other, works, -⟩
          cases works
        · intro _ after stepped
          obtain rfl := Option.some.inj stepped
          exact holding_give (updateLocalIotlist_borrows node) held

/-- `UserRePwd` works on nodes it holds and gives back what it takes. -/
theorem userRePwd_borrows (a : CLN) : Borrows (userRePwd a) := by
  apply borrows_call ⟨rfl, Op.noConfusion⟩
  intro tag
  apply borrows_call ⟨rfl, Op.noConfusion⟩
  intro known
  dsimp only [Prog.bind]
  split
  · cases tag with
    | none => exact borrows_ret _
    | some first =>
      dsimp only
      split
      · exact borrows_call ⟨rfl, Op.noConfusion⟩ fun _ => borrows_ret _
      · apply borrows_call ⟨rfl, Op.noConfusion⟩
        intro found
        cases found with
        | none => exact borrows_ret _
        | some user =>
          refine borrows_take (borrows_ret _) fun node => ?_
          apply holding_use rfl fun _ => Op.noConfusion
          intro result
          cases result with
          | failed duplicate => exact holding_failed _
          | done =>
            intro held
            constructor
            · rintro ⟨other, works, -⟩
              cases works
            · intro _ after stepped
              obtain rfl := Option.some.inj stepped
              exact holding_failed _ held
  · exact borrows_ret _

/-- What is put together from the parts. -/
theorem Assembled.borrows {renews : CLN → Prop} {handler : Handler α}
    (assembled : Assembled renews handler) : Borrows handler := by
  induction assembled with
  | ret value => exact borrows_ret value
  | call op apart next later ih => exact borrows_call (idle_of_apart apart) ih
  | bind program f first second ih_first ih_second => exact ih_first.seq ih_second
  | storing statement onNull onError after follows ih => exact storing_borrows _ _ _ ih
  | reading statement each row ih => exact reading_borrows _ ih
  | readCmd a devclass del => exact iotReadCmd_borrows a devclass del
  | updateStatus a evtClass status => exact iotUpdateStatus_borrows a evtClass status
  | registerRow a method => exact registerRow_borrows a method
  | reload => exact reload_borrows
  | rePwd b asked => exact userRePwd_borrows b

/-! ## Leases of a task -/

variable {config : Config} {server after : ServerState} {log history : List Note}
  {state later : LeaseState Nat} {outcomes : SqlPool.Outcomes} {object other number : Nat}

/-- The nodes that are leased to a task. -/
def SqlPool.LeaseState.lent (state : LeaseState Nat) (object : Nat) : Multiset Nat :=
  ((state.leases.filter fun lease => decide (lease.1 = object)).map Prod.snd : List Nat)

/-- The nodes of an object are those leased to it. -/
theorem mem_lent : node ∈ state.lent object ↔ (object, node) ∈ state.leases := by
  rw [LeaseState.lent, Multiset.mem_coe, List.mem_map]
  constructor
  · rintro ⟨⟨holder, index⟩, member, rfl⟩
    obtain ⟨leased, own⟩ := List.mem_filter.mp member
    obtain rfl : holder = object := of_decide_eq_true own
    exact leased
  · intro leased
    exact ⟨(object, node), List.mem_filter.mpr ⟨leased, decide_eq_true rfl⟩, rfl⟩

/-- One more lease adds its node to what its task has borrowed. -/
theorem lent_cons (pool : SqlConnPool) (leases : List (Nat × Nat)) :
    LeaseState.lent ⟨pool, (object, node) :: leases⟩ other =
      if object = other then node ::ₘ LeaseState.lent ⟨pool, leases⟩ other
      else LeaseState.lent ⟨pool, leases⟩ other := by
  by_cases own : object = other
  · simp [LeaseState.lent, own]
  · simp [LeaseState.lent, own]

/-- A lease that ends takes its node from what its task has borrowed. -/
theorem lent_erase (pool : SqlConnPool) {leases : List (Nat × Nat)}
    (leased : (object, node) ∈ leases) :
    LeaseState.lent ⟨pool, leases.erase (object, node)⟩ other =
      if object = other then (LeaseState.lent ⟨pool, leases⟩ other).erase node
      else LeaseState.lent ⟨pool, leases⟩ other := by
  have order : leases.Perm ((object, node) :: leases.erase (object, node)) :=
    List.perm_cons_erase leased
  have same : LeaseState.lent ⟨pool, leases⟩ other =
      LeaseState.lent ⟨pool, (object, node) :: leases.erase (object, node)⟩ other :=
    Multiset.coe_eq_coe.mpr ((order.filter _).map _)
  rw [same, lent_cons]
  split
  · exact (Multiset.erase_cons_head _ _).symm
  · rfl

/-! ## Every turn -/

/-- What a run with sparing turns keeps. -/
structure Lending (config : Config) (number : Nat) (now : PooledServer) : Prop where
  told : Told config now.1
  sound : Sound number now.2
  /-- Tasks hold what is leased to them. -/
  books : ∀ object, borrowing.run 0 (deeds now.1.2 object) = some (now.2.lent object)

/-- In a fresh pool nothing is leased. -/
theorem lending_initial (config : Config) (number : Nat) :
    Lending config number ((.initial, []), ⟨freshPool number, []⟩) where
  told := told_initial config
  sound := freshPool_sound number
  books _ := rfl

/-- The next operation of a task is on a node that is leased to it. -/
theorem Lending.holds (lending : Lending config number ((server, log), state)) {task : Task}
    (member : task ∈ server.tasks) {op : Op} {next : op.Res → Handler Unit}
    (program : task.program = .call op next) (works : op.node = some node) :
    (task.object, node) ∈ state.leases := by
  obtain ⟨-, comes⟩ := lending.told.pooled task member
  have safe := (talk_assembled config task.request).borrows 0
  have now := (safely_iff.mp safe _ _ _ comes (lending.books task.object)).1 op next program
  by_contra free
  exact now ⟨node, works, fun held => free (mem_lent.mp held)⟩

/-- One more operation of an object. -/
theorem borrowing_snoc {deeds : List Happening} {happening : Happening}
    {before after : Multiset Nat} (run : borrowing.run 0 deeds = some before)
    (step : borrowing.step before happening = some after) :
    borrowing.run 0 (deeds ++ [happening]) = some after := by
  rw [run_append_eq, run]
  exact (run_cons _ _ _ _).mpr ⟨after, step, rfl⟩

/-- The books after an operation of an object. -/
theorem books_snoc {happening : Happening}
    (books : ∀ object, borrowing.run 0 (deeds log object) = some (state.lent object))
    (own : borrowing.step (state.lent object) happening = some (later.lent object))
    (others : ∀ other, object ≠ other → later.lent other = state.lent other) (other : Nat) :
    borrowing.run 0 (deeds (log ++ [.did object happening]) other) = some (later.lent other) := by
  by_cases same : object = other
  · subst same
    rw [deeds_snoc_did]
    exact borrowing_snoc (books object) own
  · rw [deeds_snoc_other log same, others other same]
    exact books other

/-- An operation on no node, in a sparing turn. -/
theorem borrowing_sparing {op : Op} {response : op.Res} (sparing : Sparing outcomes state
    (.did object ⟨op, response⟩)) (take : op ≠ .getDbConnect)
    (give : ∀ node, op ≠ .releaseNode node) :
    borrowing.step held ⟨op, response⟩ = some held := by
  cases op with
  | getDbConnect => exact absurd rfl take
  | releaseNode node => exact absurd rfl (give node)
  | registedHead kind =>
    cases kind with
    | user => rfl
    | iot => exact if_pos sparing
  | _ => rfl

/-- The pool and the books after an operation of a task. -/
theorem Lending.did (lending : Lending config number ((server, log), state)) (positive : 0 < number)
    {op : Op} {response : op.Res} (sparing : Sparing outcomes state (.did object ⟨op, response⟩))
    (leased : ∀ node, op.node = some node → (object, node) ∈ state.leases)
    (answered : leasedAfter outcomes state (.did object ⟨op, response⟩) = some later) :
    Sound number later ∧ ∀ other,
      borrowing.run 0 (deeds (log ++ [.did object ⟨op, response⟩]) other) =
        some (later.lent other) := by
  by_cases take : op = .getDbConnect
  · subst take
    obtain ⟨same, stepped⟩ := Option.ite_none_right_eq_some.mp answered
    have sound := Sound.step positive state (.get object outcomes) later sparing lending.sound
      stepped
    refine ⟨sound, books_snoc lending.books ?_ fun other apart => ?_⟩
    all_goals
      simp only [leaseSystem] at stepped
      generalize getDbConnect state.pool outcomes = got at same stepped
      obtain ⟨_ | index, pool⟩ := got
      all_goals
        obtain rfl := Option.some.inj stepped
        subst same
    · rfl
    · rw [lent_cons, if_pos rfl]
      rfl
    · rfl
    · rw [lent_cons, if_neg apart]
      rfl
  · by_cases give : ∃ node, op = .releaseNode node
    · obtain ⟨node, rfl⟩ := give
      obtain rfl := Option.some.inj answered
      have held := leased node rfl
      refine ⟨lending.sound.giveBack held, books_snoc lending.books ?_ fun other apart => ?_⟩
      · rw [lent_erase _ held, if_pos rfl]
        rfl
      · rw [lent_erase _ held, if_neg apart]
        rfl
    · have quiet : borrowing.step (state.lent object) ⟨op, response⟩ = some (state.lent object) :=
        borrowing_sparing sparing take fun node same => give ⟨node, same⟩
      obtain rfl : later = state := by
        cases op with
        | getDbConnect => exact absurd rfl take
        | releaseNode node => exact absurd ⟨node, rfl⟩ give
        | _ => exact (Option.some.inj answered).symm
      exact ⟨lending.sound, books_snoc lending.books quiet fun _ _ => rfl⟩

/-- A turn of the server, with the pool. -/
theorem pooled_step {now next : PooledServer} {turn : Turn × SqlPool.Outcomes}
    (turned : (pooled config).step now turn = some next) :
    (chronicled config).step now.1 turn.1 = some next.1 ∧
      (now.1.1.notes turn.1).foldlM (leasedAfter turn.2) now.2 = some next.2 := by
  obtain ⟨following, stepped, rest⟩ := Option.bind_eq_some_iff.mp turned
  obtain ⟨leases, answered, same⟩ := Option.bind_eq_some_iff.mp rest
  obtain rfl := Option.some.inj same
  exact ⟨stepped, answered⟩

/-- A sparing turn keeps the account of the leases. -/
theorem lending_turn (config : Config) (positive : 0 < number) (now : PooledServer)
    (turn : Turn × SqlPool.Outcomes) (next : PooledServer) (sparing : now.sparing turn)
    (lending : Lending config number now) (turned : (pooled config).step now turn = some next) :
    Lending config number next := by
  obtain ⟨stepped, answers⟩ := pooled_step turned
  have told := told_turn config now.1 turn.1 next.1 lending.told stepped
  obtain ⟨⟨server, log⟩, state⟩ := now
  obtain ⟨⟨after, history⟩, later⟩ := next
  have shown : history = log ++ server.notes turn.1 := (observed_step.mp stepped).2
  dsimp only at answers
  have silent (same : history = log) (none : server.notes turn.1 = []) :
      Lending config number ((after, history), later) := by
    rw [none] at answers
    obtain rfl : state = later := Option.some.inj answers
    exact ⟨told, lending.sound, fun object => same ▸ lending.books object⟩
  obtain ⟨conn, record, packet, allocated, -, known, received, rfl⟩ |
    ⟨index, answer, task, op, rest, response, memory, -, found, program, -, -, rfl, rfl⟩ |
    ⟨index, task, -, found, returned, rfl, rfl⟩ | ⟨passes, rfl⟩ := chronicled_cases stepped
  · rw [← List.append_cancel_left shown] at answers
    obtain rfl : state = later := Option.some.inj answers
    refine ⟨told, lending.sound, fun object => ?_⟩
    rw [deeds_snoc_of_none (by rfl)]
    exact lending.books object
  · have notes := List.append_cancel_left shown
    rw [← notes, List.foldlM_cons] at answers
    obtain ⟨middle, answered, rest⟩ := Option.bind_eq_some_iff.mp answers
    obtain rfl : middle = later := Option.some.inj rest
    have spares : Sparing turn.2 state (.did task.object ⟨op, response⟩) :=
      sparing _ (notes ▸ List.mem_cons_self)
    have present : task ∈ server.tasks := List.mem_of_getElem? found
    have owns (node : Nat) (works : op.node = some node) : (task.object, node) ∈ state.leases :=
      lending.holds present program works
    obtain ⟨sound, books⟩ := lending.did positive spares owns answered
    exact ⟨told, sound, books⟩
  · exact silent rfl (List.append_right_eq_self.mp shown.symm)
  · exact silent rfl (List.append_right_eq_self.mp shown.symm)

/-- In every run whose scans meet no dropped connection and whose reloads meet no device, tasks use
only nodes that are leased to them, and no node is leased to two tasks. -/
theorem nodes_owned (config : Config) (number : Nat) (positive : 0 < number)
    (turns : List (Turn × SqlPool.Outcomes))
    (meets : (pooled config).Meets PooledServer.sparing
      ((.initial, []), ⟨freshPool number, []⟩) turns) :
    (pooled config).Always NodesOwned ((.initial, []), ⟨freshPool number, []⟩) turns := by
  have owned (now : PooledServer) (lending : Lending config number now) : NodesOwned now :=
    ⟨lending.sound.once, fun task member op next program node works =>
      lending.holds member program works⟩
  exact always_of_meets owned (lending_turn config positive) (lending_initial config number) meets

/-- A user who has signed in stores two devices at once. -/
def storesTwice : List (Turn × SqlPool.Outcomes) :=
  let stores (index node : Nat) : List Turn :=
    [.found (some (keyedNode "dev0000001" 7)), .node (some node)].map (.step index)
  let asks : Turn := .event (.receive 0 iocPacket true)
  (greets ++ userSignsIn ++ [asks, asks] ++ stores 2 0 ++ stores 3 1).map
    fun turn => (turn, ⟨0, fun _ => true, fun _ => true⟩)

/-- Two tasks are about to use the two nodes of the pool. -/
theorem nodes_owned_two : ∃ now : PooledServer,
    (pooled ⟨id, []⟩).run ((.initial, []), ⟨freshPool 2, []⟩) storesTwice = some now ∧
      now.2.leases = [(3, 1), (2, 0)] ∧ NodesOwned now := by
  have leased : ((pooled ⟨id, []⟩).run ((.initial, []), ⟨freshPool 2, []⟩) storesTwice).map
      (fun now => now.2.leases) = some [(3, 1), (2, 0)] := by
    decide +kernel
  obtain ⟨now, ran, leases⟩ := Option.map_eq_some_iff.mp leased
  have meets : (pooled ⟨id, []⟩).Meets PooledServer.sparing
      ((.initial, []), ⟨freshPool 2, []⟩) storesTwice := by
    decide +kernel
  exact ⟨now, ran, leases, nodes_owned ⟨id, []⟩ 2 (by decide) _ meets 17 now ran⟩

end UubangIot
