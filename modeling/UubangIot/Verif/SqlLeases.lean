import UubangIot.Lib.Transition
import UubangIot.Server.SqlPool
import Mathlib.Data.List.Perm.Basic

/-!
# Leases of the connection pool

Holders take nodes with `get_db_connect` and give back exactly what they took. A lease is
exclusive because the node's lock is held for its whole length. One scan that meets a dropped
connection ends this: the node is counted back although nobody had it, and its reconnect resets
a lock that is held. The pool keeps its leases exclusive along a run exactly when no scan meets
one.
-/

namespace UubangIot.SqlPool

/-- A pool with the leases its holders have. -/
structure LeaseState (Holder : Type) where
  /-- The pool. -/
  pool : SqlConnPool
  /-- Which holder has which node. -/
  leases : List (Holder × Nat)

/-- One call. -/
inductive LeaseCall (Holder : Type)
  | get (holder : Holder) (outcomes : Outcomes)
  | release (holder : Holder) (index : Nat)

variable {Holder : Type}

/-- The pool under calls: a node got is leased, and a holder releases only what it has. -/
def leaseSystem [DecidableEq Holder] :
    Transition.System (LeaseState Holder) (LeaseCall Holder) where
  step
    | ⟨pool, leases⟩, .get holder outcomes =>
      match getDbConnect pool outcomes with
      | (some index, pool) => some ⟨pool, (holder, index) :: leases⟩
      | (none, pool) => some ⟨pool, leases⟩
    | ⟨pool, leases⟩, .release holder index =>
      if (holder, index) ∈ leases then
        some ⟨releaseNode pool index, leases.erase (holder, index)⟩
      else none

/-- The nodes leased to anybody. -/
def LeaseState.nodes (state : LeaseState Holder) : List Nat := state.leases.map Prod.snd

/-- No node has two leases, the use flags mark the leased nodes and the counter counts them. -/
structure Exclusive (state : LeaseState Holder) : Prop where
  once : state.nodes.Nodup
  used : ∀ index < state.pool.poolNumber,
    (state.pool.sqlPool index).used = 1 ↔ index ∈ state.nodes
  busy : state.pool.busyNumber = state.leases.length

/-- The pool `sql_pool_create` leaves: every node connected, free and unused. -/
def freshPool (number : Nat) : SqlConnPool :=
  ⟨0, fun index => if index < number then ⟨true, false, 0, index, .dbConn⟩
    else ⟨false, false, 0, 0, .dbDisconn⟩, number, 0⟩

/-- The scan order of one call. -/
def scanned (pool : SqlConnPool) (outcomes : Outcomes) (i : Nat) : Nat :=
  (outcomes.rand % pool.poolNumber + i) % pool.poolNumber

/-- The first free node the call scans, if there is one, answers its ping. -/
def Answered (state : LeaseState Holder) : LeaseCall Holder → Prop
  | .get _ outcomes => ∀ i < state.pool.poolNumber,
    (state.pool.sqlPool (scanned state.pool outcomes i)).lock = false →
    (∀ j < i, (state.pool.sqlPool (scanned state.pool outcomes j)).lock = true) →
    outcomes.pings i = true
  | .release _ _ => True

/-- The invariant behind exclusive leases: leased nodes are the locked ones and every node is
connected. -/
structure Sound (number : Nat) (state : LeaseState Holder) : Prop extends Exclusive state where
  size : state.pool.poolNumber = number
  running : state.pool.shutdown = 0
  inside : ∀ index ∈ state.nodes, index < number
  locked : ∀ index, (state.pool.sqlPool index).lock = true ↔ index ∈ state.nodes
  connected : ∀ index < number, (state.pool.sqlPool index).sqlState = .dbConn

section Scan

variable (outcomes : Outcomes) (start : Nat)

/-- A node that is given back is counted down. -/
@[simp]
theorem releaseNode_busyNumber (sp : SqlConnPool) (index : Nat) :
    (releaseNode sp index).busyNumber = sp.busyNumber - 1 := rfl

/-- A node that is written is not counted. -/
@[simp]
theorem setNode_busyNumber (sp : SqlConnPool) (index : Nat) (node : SqlNode) :
    (sp.setNode index node).busyNumber = sp.busyNumber := rfl

/-- A node that is connected again is not counted. -/
@[simp]
theorem reconnect_busyNumber (sp : SqlConnPool) (index : Nat) (connected : Bool) :
    (reconnect sp index connected).2.busyNumber = sp.busyNumber := by
  unfold reconnect createDbConnect
  split
  · split
    · rfl
    · split <;> rfl
  · rfl

/-- A connected node needs no reconnect. -/
theorem reconnect_connected {sp : SqlConnPool} {index : Nat}
    (connected : (sp.sqlPool index).sqlState = .dbConn) (outcome : Bool) :
    reconnect sp index outcome = (1, sp) := by
  simp [reconnect, connected]

/-- A locked node is passed over. -/
theorem getDbConnectLoop_locked (rounds : Nat) {i : Nat} {sp : SqlConnPool}
    (locked : (sp.sqlPool ((start + i) % sp.poolNumber)).lock = true) :
    getDbConnectLoop outcomes start (rounds + 1) i sp =
      getDbConnectLoop outcomes start rounds (i + 1) sp := by
  rw [getDbConnectLoop]
  simp only [locked, if_true]

/-- A free node that cannot be reconnected or does not answer is counted back and left. -/
theorem getDbConnectLoop_left (rounds : Nat) {i : Nat} {sp : SqlConnPool}
    (free : (sp.sqlPool ((start + i) % sp.poolNumber)).lock = false)
    (unanswered : outcomes.pings i = false) :
    ∃ sp', sp'.busyNumber = sp.busyNumber - 1 ∧
      getDbConnectLoop outcomes start (rounds + 1) i sp =
        getDbConnectLoop outcomes start rounds (i + 1) sp' := by
  rw [getDbConnectLoop]
  simp only [free, unanswered, Bool.false_eq_true, if_false]
  split
  · exact ⟨_, by simp, rfl⟩
  · exact ⟨_, by simp, rfl⟩

/-- A free node that answers is got, or counted back when its reconnect fails. -/
theorem getDbConnectLoop_free (rounds : Nat) {i : Nat} {sp : SqlConnPool}
    (free : (sp.sqlPool ((start + i) % sp.poolNumber)).lock = false)
    (answered : outcomes.pings i = true) :
    (∃ sp', sp'.busyNumber = sp.busyNumber - 1 ∧
      getDbConnectLoop outcomes start (rounds + 1) i sp =
        getDbConnectLoop outcomes start rounds (i + 1) sp') ∨
    (∃ index sp', sp'.busyNumber = sp.busyNumber + 1 ∧
      getDbConnectLoop outcomes start (rounds + 1) i sp = (some index, sp')) := by
  rw [getDbConnectLoop]
  simp only [free, answered, Bool.false_eq_true, if_false, if_true]
  split
  · exact Or.inl ⟨_, by simp, rfl⟩
  · exact Or.inr ⟨_, _, by simp, rfl⟩

/-- The pool after a connected node was got. -/
def lent (sp : SqlConnPool) (index : Nat) : SqlConnPool :=
  { sp.setNode index { sp.sqlPool index with lock := true, used := 1 } with
    busyNumber := sp.busyNumber + 1 }

/-- A connected free node that answers is got. -/
theorem getDbConnectLoop_answered (rounds : Nat) {i : Nat} {sp : SqlConnPool}
    (free : (sp.sqlPool ((start + i) % sp.poolNumber)).lock = false)
    (connected : (sp.sqlPool ((start + i) % sp.poolNumber)).sqlState = .dbConn)
    (answered : outcomes.pings i = true) :
    getDbConnectLoop outcomes start (rounds + 1) i sp =
      (some ((start + i) % sp.poolNumber), lent sp ((start + i) % sp.poolNumber)) := by
  rw [getDbConnectLoop]
  dsimp only
  rw [free, reconnect_connected (by simpa [SqlConnPool.setNode] using connected)]
  simp [answered, SqlConnPool.setNode, lent]

/-- The counter grows only with a node got. -/
theorem getDbConnectLoop_busy (rounds i : Nat) (sp : SqlConnPool) :
    (getDbConnectLoop outcomes start rounds i sp).2.busyNumber ≤ sp.busyNumber +
      (getDbConnectLoop outcomes start rounds i sp).1.toList.length := by
  induction rounds generalizing i sp with
  | zero => simp [getDbConnectLoop]
  | succ rounds ih =>
    cases lock : (sp.sqlPool ((start + i) % sp.poolNumber)).lock with
    | true =>
      rw [getDbConnectLoop_locked outcomes start rounds lock]
      exact ih (i + 1) sp
    | false =>
      have counted : ∀ sp' : SqlConnPool, sp'.busyNumber = sp.busyNumber - 1 →
          (getDbConnectLoop outcomes start rounds (i + 1) sp').2.busyNumber ≤ sp.busyNumber +
            (getDbConnectLoop outcomes start rounds (i + 1) sp').1.toList.length := by
        intro sp' counter
        have later := ih (i + 1) sp'
        omega
      cases ping : outcomes.pings i with
      | false =>
        obtain ⟨sp', counter, left⟩ := getDbConnectLoop_left outcomes start rounds lock ping
        rw [left]
        exact counted sp' counter
      | true =>
        obtain ⟨sp', counter, left⟩ | ⟨index, sp', counter, got⟩ :=
          getDbConnectLoop_free outcomes start rounds lock ping
        · rw [left]
          exact counted sp' counter
        · rw [got]
          simp [counter]

/-- A scan whose first free node does not answer counts back a node that nobody had. -/
theorem getDbConnectLoop_unanswered (rounds i : Nat) (sp : SqlConnPool)
    (first : Nat) (later : i ≤ first) (inside : first < i + rounds)
    (free : (sp.sqlPool ((start + first) % sp.poolNumber)).lock = false)
    (before : ∀ j, i ≤ j → j < first → (sp.sqlPool ((start + j) % sp.poolNumber)).lock = true)
    (dropped : outcomes.pings first = false) :
    (getDbConnectLoop outcomes start rounds i sp).2.busyNumber < sp.busyNumber +
      (getDbConnectLoop outcomes start rounds i sp).1.toList.length := by
  induction rounds generalizing i with
  | zero => omega
  | succ rounds ih =>
    by_cases here : i = first
    · subst here
      obtain ⟨sp', counter, left⟩ := getDbConnectLoop_left outcomes start rounds free dropped
      have rest := getDbConnectLoop_busy outcomes start rounds (i + 1) sp'
      rw [left]
      omega
    · rw [getDbConnectLoop_locked outcomes start rounds (before i (Nat.le_refl i) (by omega))]
      exact ih (i + 1) (by omega) (by omega) fun j low high => before j (by omega) high

/-- A scan whose first free node answers gets it, and one without a free node changes
nothing. -/
theorem getDbConnectLoop_first (rounds i : Nat) (sp : SqlConnPool)
    (connected : ∀ j, (sp.sqlPool ((start + j) % sp.poolNumber)).sqlState = .dbConn)
    (answered : ∀ first, i ≤ first → first < i + rounds →
      (sp.sqlPool ((start + first) % sp.poolNumber)).lock = false →
      (∀ j, i ≤ j → j < first → (sp.sqlPool ((start + j) % sp.poolNumber)).lock = true) →
      outcomes.pings first = true) :
    getDbConnectLoop outcomes start rounds i sp = (none, sp) ∨
      ∃ first, (sp.sqlPool ((start + first) % sp.poolNumber)).lock = false ∧
        getDbConnectLoop outcomes start rounds i sp =
          (some ((start + first) % sp.poolNumber), lent sp ((start + first) % sp.poolNumber)) := by
  induction rounds generalizing i with
  | zero => exact Or.inl rfl
  | succ rounds ih =>
    cases lock : (sp.sqlPool ((start + i) % sp.poolNumber)).lock with
    | true =>
      rw [getDbConnectLoop_locked outcomes start rounds lock]
      refine ih (i + 1) fun first low high free before => ?_
      refine answered first (by omega) (by omega) free fun j lower upper => ?_
      by_cases here : j = i
      · rw [here, lock]
      · exact before j (by omega) upper
    | false =>
      have ping := answered i (Nat.le_refl i) (by omega) lock fun j low high => by omega
      exact Or.inr ⟨i, lock, getDbConnectLoop_answered outcomes start rounds lock (connected _) ping⟩

end Scan

/-- A sound pool scans from its random start. -/
theorem Sound.getDbConnect {number : Nat} {state : LeaseState Holder} (sound : Sound number state)
    (outcomes : Outcomes) :
    getDbConnect state.pool outcomes = getDbConnectLoop outcomes
      (outcomes.rand % state.pool.poolNumber) state.pool.poolNumber 0 state.pool := by
  rw [SqlPool.getDbConnect, sound.running]
  rfl

/-- Leasing a free node keeps the pool sound. -/
theorem Sound.lend {number : Nat} {state : LeaseState Holder} (sound : Sound number state)
    (holder : Holder) {index : Nat} (inside : index < number)
    (free : (state.pool.sqlPool index).lock = false) :
    Sound number ⟨lent state.pool index, (holder, index) :: state.leases⟩ := by
  have absent : index ∉ state.nodes := by
    intro member
    rw [(sound.locked index).mpr member] at free
    contradiction
  have nodes : LeaseState.nodes ⟨lent state.pool index, (holder, index) :: state.leases⟩ =
      index :: state.nodes := rfl
  refine ⟨⟨?_, ?_, ?_⟩, sound.size, sound.running, ?_, ?_, ?_⟩
  · rw [nodes]
    exact List.nodup_cons.mpr ⟨absent, sound.once⟩
  · intro other bound
    rw [nodes, List.mem_cons]
    by_cases same : other = index
    · simp [same, lent, SqlConnPool.setNode]
    · simpa [same, lent, SqlConnPool.setNode] using sound.used other bound
  · simp [lent, sound.busy]
  · rw [nodes]
    intro other member
    rcases List.mem_cons.mp member with rfl | old
    · exact inside
    · exact sound.inside other old
  · intro other
    rw [nodes, List.mem_cons]
    by_cases same : other = index
    · simp [same, lent, SqlConnPool.setNode]
    · simpa [same, lent, SqlConnPool.setNode] using sound.locked other
  · intro other bound
    have before := sound.connected other bound
    by_cases same : other = index
    · subst same
      simpa [lent, SqlConnPool.setNode] using before
    · simpa [same, lent, SqlConnPool.setNode] using before

/-- Giving back a leased node keeps the pool sound. -/
theorem Sound.giveBack [DecidableEq Holder] {number : Nat} {state : LeaseState Holder}
    (sound : Sound number state) {holder : Holder} {index : Nat}
    (held : (holder, index) ∈ state.leases) :
    Sound number ⟨releaseNode state.pool index, state.leases.erase (holder, index)⟩ := by
  have order : state.leases.Perm ((holder, index) :: state.leases.erase (holder, index)) :=
    List.perm_cons_erase held
  have nodes : state.nodes.Perm
      (index :: LeaseState.nodes ⟨releaseNode state.pool index,
        state.leases.erase (holder, index)⟩) := order.map Prod.snd
  obtain ⟨absent, once⟩ := List.nodup_cons.mp (nodes.nodup_iff.mp sound.once)
  have others : ∀ other, other ≠ index → (other ∈ state.nodes ↔ other ∈ LeaseState.nodes
      ⟨releaseNode state.pool index, state.leases.erase (holder, index)⟩) := by
    intro other distinct
    rw [nodes.mem_iff, List.mem_cons, or_iff_right distinct]
  refine ⟨⟨once, ?_, ?_⟩, sound.size, sound.running, ?_, ?_, ?_⟩
  · intro other bound
    by_cases same : other = index
    · subst same
      simpa [releaseNode, SqlConnPool.setNode] using absent
    · rw [← others other same, ← sound.used other bound]
      simp [same, releaseNode, SqlConnPool.setNode]
  · have length := order.length_eq
    rw [List.length_cons] at length
    rw [releaseNode_busyNumber, sound.busy, length]
    push_cast
    omega
  · intro other member
    exact sound.inside other (nodes.mem_iff.mpr (List.mem_cons_of_mem _ member))
  · intro other
    by_cases same : other = index
    · subst same
      simpa [releaseNode, SqlConnPool.setNode] using absent
    · rw [← others other same, ← sound.locked other]
      simp [same, releaseNode, SqlConnPool.setNode]
  · intro other bound
    have before := sound.connected other bound
    by_cases same : other = index
    · subst same
      simpa [releaseNode, SqlConnPool.setNode] using before
    · simpa [same, releaseNode, SqlConnPool.setNode] using before

/-- A call whose first free node answers keeps the pool sound. -/
theorem Sound.step [DecidableEq Holder] {number : Nat} (positive : 0 < number)
    (state : LeaseState Holder) (call : LeaseCall Holder) (next : LeaseState Holder)
    (answered : Answered state call) (sound : Sound number state)
    (stepped : leaseSystem.step state call = some next) :
    Sound number next := by
  cases call with
  | get holder outcomes =>
    simp only [leaseSystem, sound.getDbConnect] at stepped
    have inside : ∀ index, index % state.pool.poolNumber < number := by
      intro index
      rw [sound.size]
      exact Nat.mod_lt _ positive
    have scan := getDbConnectLoop_first outcomes
      (outcomes.rand % state.pool.poolNumber) state.pool.poolNumber 0 state.pool
      (fun j => sound.connected _ (inside _)) fun first _ inside free before =>
        answered first (by omega) free fun j earlier => before j (Nat.zero_le j) earlier
    obtain none | ⟨first, free, got⟩ := scan
    · rw [none] at stepped
      obtain rfl := Option.some.inj stepped
      exact sound
    · rw [got] at stepped
      obtain rfl := Option.some.inj stepped
      exact sound.lend holder (inside _) free
  | release holder index =>
    by_cases held : (holder, index) ∈ state.leases
    · have released : some (LeaseState.mk (releaseNode state.pool index)
          (state.leases.erase (holder, index))) = some next := by
        simpa [leaseSystem, held] using stepped
      obtain rfl := Option.some.inj released
      exact sound.giveBack held
    · simp [leaseSystem, held] at stepped

/-- A scan that meets a dropped connection first leaves the counter below the number of leases. -/
theorem Sound.broken [DecidableEq Holder] {number : Nat} (state : LeaseState Holder)
    (call : LeaseCall Holder) (sound : Sound number state) (unanswered : ¬Answered state call) :
    ∃ next, leaseSystem.step state call = some next ∧ ¬Exclusive next := by
  cases call with
  | release holder index => exact absurd trivial unanswered
  | get holder outcomes =>
    simp only [Answered, not_forall, Bool.not_eq_true] at unanswered
    obtain ⟨first, inside, free, before, dropped⟩ := unanswered
    have counter := getDbConnectLoop_unanswered outcomes
      (outcomes.rand % state.pool.poolNumber) state.pool.poolNumber 0 state.pool
      first (Nat.zero_le first) (by omega) free (fun j _ earlier => before j earlier) dropped
    have busy := sound.busy
    simp only [leaseSystem, sound.getDbConnect]
    generalize getDbConnectLoop outcomes _ _ 0 state.pool = result at counter
    obtain ⟨_ | index, pool⟩ := result
    · refine ⟨_, rfl, fun exclusive => ?_⟩
      have := exclusive.busy
      simp only [Option.toList_none, List.length_nil] at counter
      dsimp only at this
      omega
    · refine ⟨_, rfl, fun exclusive => ?_⟩
      have := exclusive.busy
      simp only [Option.toList_some, List.length_singleton] at counter
      rw [List.length_cons] at this
      dsimp only at this
      omega

/-- One round of `sql_pool_create` extends the fresh pool by a node. -/
theorem sqlPoolCreateLoop_fresh (connects : Nat → Bool) (rounds index : Nat)
    (accepted : ∀ i < index + rounds, connects i = true) :
    sqlPoolCreateLoop connects rounds index (freshPool index) =
      some (freshPool (index + rounds)) := by
  induction rounds generalizing index with
  | zero => rfl
  | succ rounds ih =>
    have extended : ∀ other, Function.update (Function.update (freshPool index).sqlPool index
        ⟨true, false, 0, 0, .dbConn⟩) index ⟨true, false, 0, index, .dbConn⟩ other =
          (freshPool (index + 1)).sqlPool other := by
      intro other
      by_cases same : other = index
      · simp [same, freshPool]
      · have bound : other < index + 1 ↔ other < index := by omega
        rw [Function.update_of_ne same, Function.update_of_ne same]
        simp only [freshPool, bound]
    have next := ih (index + 1) fun i bound => accepted i (by omega)
    rw [Nat.add_right_comm] at next
    rw [sqlPoolCreateLoop, accepted index (by omega), ← Nat.add_assoc, ← next]
    simp only [createDbConnect, freshPool, SqlConnPool.setNode] at extended ⊢
    simp [funext extended]

/-- `sql_pool_create` returns the fresh pool of the requested size, capped by the array. -/
theorem sqlPoolCreate_fresh (requested : Nat) (positive : 0 < requested) (connects : Nat → Bool)
    (accepted : ∀ i, connects i = true) :
    sqlPoolCreate requested connects = some (freshPool (min requested poolMaxNumber)) := by
  have created := sqlPoolCreateLoop_fresh connects (min requested poolMaxNumber) 0
    fun i _ => accepted i
  rw [Nat.zero_add] at created
  rw [sqlPoolCreate, if_neg (by omega), Int.toNat_natCast, ← created]
  simp [freshPool]

/-- The created pool without holders is sound. -/
theorem freshPool_sound (number : Nat) :
    Sound number (⟨freshPool number, []⟩ : LeaseState Holder) where
  once := List.nodup_nil
  used := by
    intro index bound
    simp [freshPool, LeaseState.nodes, show index < number from bound]
  busy := rfl
  size := rfl
  running := rfl
  inside := by simp [LeaseState.nodes]
  locked := by
    intro index
    by_cases bound : index < number <;> simp [freshPool, LeaseState.nodes, bound]
  connected index bound := by simp [freshPool, bound]

/-- Along every run of calls on a created pool, leases stay exclusive, use flags exact and the
counter right in every state reached exactly when no scan first meets a dropped connection. -/
theorem leases_exclusive_iff [DecidableEq Holder] (number : Nat) (positive : 0 < number)
    (calls : List (LeaseCall Holder)) :
    leaseSystem.Always Exclusive ⟨freshPool number, []⟩ calls ↔
      leaseSystem.Meets Answered ⟨freshPool number, []⟩ calls :=
  Transition.System.always_iff_meets (fun _ sound => sound.toExclusive)
    (Sound.step positive) Sound.broken (freshPool_sound number)

/-- Two holders of a pool of one node that always answers. -/
theorem leases_exclusive_answering :
    leaseSystem.Always Exclusive (⟨freshPool 1, []⟩ : LeaseState Nat)
        [.get 0 ⟨0, fun _ => true, fun _ => true⟩, .get 1 ⟨0, fun _ => true, fun _ => true⟩] ↔
      leaseSystem.Meets Answered (⟨freshPool 1, []⟩ : LeaseState Nat)
        [.get 0 ⟨0, fun _ => true, fun _ => true⟩, .get 1 ⟨0, fun _ => true, fun _ => true⟩] :=
  leases_exclusive_iff 1 (by decide) _

/-- After one failed ping the only node of a pool is leased to two holders: its reconnect
released the lock that the first of them relies on. -/
theorem dropped_connection_leased_twice :
    ∃ state, leaseSystem.run (⟨freshPool 1, []⟩ : LeaseState Nat)
        [.get 0 ⟨0, fun _ => true, fun _ => false⟩, .get 0 ⟨0, fun _ => true, fun _ => true⟩,
          .get 1 ⟨0, fun _ => true, fun _ => true⟩] = some state ∧
      state.leases = [(1, 0), (0, 0)] ∧ ¬Exclusive state := by
  refine ⟨_, rfl, by decide, fun exclusive => ?_⟩
  have once := exclusive.once
  revert once
  decide

end UubangIot.SqlPool
