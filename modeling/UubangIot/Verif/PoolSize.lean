import UubangIot.Verif.ConnectionScan

/-!
# The size of the connection pool

A pool is created, grown and shrunk by five nodes at a time, asked for connections and at last
destroyed. Growing does not look at the array's limit, shrinking may empty the pool, and the loop of
`sql_pool_destroy` lowers the bound it runs to, so it closes only the first half of the nodes. A
reconnect after a failed ping opens a second connection in a node whose first is never closed.

What a call does to MySQL and to the array is written down as a list of events, in the order of the
source, for pools whose connections succeed.
-/

namespace UubangIot.SqlPool

variable {sp later : SqlConnPool} {outcomes : Outcomes} {i index rounds fuel : Nat}

/-! ## Events -/

/-- An access of the pool. -/
inductive PoolEvent
  /-- `sql_pool[index]` is used. -/
  | node (index : Nat)
  /-- `MySqlInit` opens a connection in a node. -/
  | opened (index : Nat)
  /-- `mysql_close` of the connection of a node. -/
  | closed (index : Nat)
  /-- `pool_number` becomes a value. -/
  | size (number : Int)
  /-- A remainder by `pool_number`. -/
  | remainder (divisor : Nat)
  deriving DecidableEq, Repr

/-- An event that keeps to the array, to `POOL_MAX_NUMBER` and to the division. -/
def PoolEvent.Within : PoolEvent → Prop
  | .node index => index < poolMaxNumber
  | .opened _ => True
  | .closed _ => True
  | .size number => 0 ≤ number ∧ number ≤ poolMaxNumber
  | .remainder divisor => divisor ≠ 0

/-- The rounds of `sql_pool_create` and of `changeNodeNum(sp, 1)` from a node on, in an open pool of
a size. -/
def createEvents : Nat → Nat → Nat → List PoolEvent
  | 0, _, _ => []
  | rounds + 1, index, number =>
    .node index :: .opened index :: .size (number + 1) ::
      createEvents rounds (index + 1) (number + 1)

/-- A node is closed. -/
def closeEvents (sp : SqlConnPool) (index : Nat) : List PoolEvent :=
  .node index :: (if (sp.sqlPool index).mysqlSock then [.closed index] else []) ++
    [.size (sp.poolNumber - 1)]

/-- The loop of `changeNodeNum(sp, 0)`. -/
def shrinkEvents (endIndex : Int) : Nat → SqlConnPool → List PoolEvent
  | 0, _ => []
  | index + 1, sp =>
    if (index : Int) > endIndex then
      closeEvents sp index ++ shrinkEvents endIndex index (closeNode sp index)
    else []

/-- The loop of `sql_pool_destroy`. -/
def destroyEvents : Nat → Nat → SqlConnPool → List PoolEvent
  | 0, _, _ => []
  | fuel + 1, index, sp =>
    if index < sp.poolNumber then
      closeEvents sp index ++ destroyEvents fuel (index + 1) (closeNode sp index)
    else []

/-- A round of the scan: the node, and its reconnect when it was free and disconnected. -/
def roundEvents (outcomes : Outcomes) (i index : Nat) (sp : SqlConnPool) : List PoolEvent :=
  .node index :: if (sp.sqlPool index).lock = false ∧ (sp.sqlPool index).sqlState = .dbDisconn ∧
    outcomes.connects i = true then [.opened index] else []

/-- The scan of `get_db_connect`. -/
def scanEvents (outcomes : Outcomes) (start : Nat) : Nat → Nat → SqlConnPool → List PoolEvent
  | 0, _, _ => []
  | rounds + 1, i, sp =>
    let index := (start + i) % sp.poolNumber
    roundEvents outcomes i index sp ++
      if (scanRound outcomes i index sp).1 then []
      else scanEvents outcomes start rounds (i + 1) (scanRound outcomes i index sp).2

/-! ## Calls -/

/-- A call on a pool whose connections succeed. -/
inductive PoolCall
  /-- `changeNodeNum(sp, 1)`. -/
  | grow
  /-- `changeNodeNum(sp, 0)`. -/
  | shrink
  /-- `get_db_connect`, with what `rand()` and the pings answer. -/
  | get (rand : Nat) (pings : Nat → Bool)

/-- Every connect succeeds. -/
def succeeding (rand : Nat) (pings : Nat → Bool) : Outcomes := ⟨rand, fun _ => true, pings⟩

/-- The pool after a call. -/
def SqlConnPool.after (sp : SqlConnPool) : PoolCall → SqlConnPool
  | .grow => (changeNodeNum sp 1 fun _ => true).getD sp
  | .shrink => (changeNodeNum sp 0 fun _ => true).getD sp
  | .get rand pings => (getDbConnect sp (succeeding rand pings)).2

/-- The events of a call. -/
def SqlConnPool.events (sp : SqlConnPool) : PoolCall → List PoolEvent
  | .grow => createEvents 5 sp.poolNumber sp.poolNumber
  | .shrink => shrinkEvents ((sp.poolNumber : Int) - 5 - 1) sp.poolNumber sp
  | .get rand pings => .remainder sp.poolNumber ::
    scanEvents (succeeding rand pings) (rand % sp.poolNumber) sp.poolNumber 0 sp

/-- The events of a sequence of calls that `sql_pool_destroy` ends, and the pool it leaves. -/
def SqlConnPool.destroyedAfter (sp : SqlConnPool) : List PoolCall → List PoolEvent × SqlConnPool
  | [] => (destroyEvents sp.poolNumber 0 { sp with shutdown := 1 }, sqlPoolDestroy sp)
  | call :: calls =>
    let (events, last) := (sp.after call).destroyedAfter calls
    (sp.events call ++ events, last)

/-- The nodes that `sql_pool_create` makes. -/
def createdSize (requested : Int) : Nat :=
  min (if requested < 1 then 1 else requested.toNat) poolMaxNumber

/-- A created pool goes through a sequence of calls and is destroyed: the sizes, the indices and the
divisors are in their bounds, what was opened is closed and nothing is left. -/
structure SizeDiscipline (requested : Int) (sp : SqlConnPool) (calls : List PoolCall) : Prop where
  /-- The sizes, the indices and the divisors. -/
  within : ∀ event ∈ createEvents (createdSize requested) 0 0 ++ (sp.destroyedAfter calls).1,
    event.Within
  /-- Every connection that was opened is closed. -/
  closed : ∀ index,
    (createEvents (createdSize requested) 0 0 ++ (sp.destroyedAfter calls).1).count (.opened index) =
    (createEvents (createdSize requested) 0 0 ++ (sp.destroyedAfter calls).1).count (.closed index)
  /-- No node is left. -/
  empty : (sp.destroyedAfter calls).2.poolNumber = 0

/-- A call finds the pool in a state it can work on. -/
def SqlConnPool.Fit (sp : SqlConnPool) : PoolCall → Prop
  -- five more nodes fit the array
  | .grow => sp.poolNumber + 5 ≤ poolMaxNumber
  | .shrink => True
  -- there is a node, and no free one up to the first usable has failed an earlier ping
  | .get rand pings => 0 < sp.poolNumber ∧ ∀ i < sp.poolNumber,
    (∀ j < i, usable sp (succeeding rand pings) j = false) →
    (sp.sqlPool (scanned sp (succeeding rand pings) i)).lock = false →
    (sp.sqlPool (scanned sp (succeeding rand pings) i)).sqlState = .dbConn

/-- Every call of a sequence finds the pool fit, and at most one node is left at its end. -/
def SqlConnPool.FitAll (sp : SqlConnPool) : List PoolCall → Prop
  | [] => sp.poolNumber ≤ 1
  | call :: calls => sp.Fit call ∧ (sp.after call).FitAll calls

/-! ## Open pools -/

/-- A running pool in which exactly the nodes below `pool_number` have a connection. -/
structure OpenPool (sp : SqlConnPool) : Prop where
  /-- It is not shut down. -/
  running : sp.shutdown ≠ 1
  /-- The nodes with a connection. -/
  handles : ∀ index, (sp.sqlPool index).mysqlSock = decide (index < sp.poolNumber)

/-- One for the nodes of a pool of a size. -/
def held (number index : Nat) : Nat := if index < number then 1 else 0

/-- The events between two sizes of a pool account for the connections, up to those that were left
open in a node which was connected again. -/
def Balanced (events : List PoolEvent) (before after : Nat) (leaked : Nat → Nat) : Prop :=
  ∀ index, events.count (.opened index) + held before index =
    events.count (.closed index) + held after index + leaked index

/-- The pool that was created is open. -/
theorem freshPool_open (number : Nat) : OpenPool (freshPool number) := by
  constructor
  · exact Int.zero_ne_one
  · intro index
    by_cases inside : index < number
    · simp [freshPool, inside]
    · simp [freshPool, inside]

/-! ## Growing -/

/-- The rounds that add nodes at the end of an open pool. -/
theorem OpenPool.create (opened : OpenPool sp) (rounds : Nat) :
    ∃ later, sqlPoolCreateLoop (fun _ => true) rounds sp.poolNumber sp = some later ∧
      OpenPool later ∧ later.poolNumber = sp.poolNumber + rounds := by
  induction rounds generalizing sp with
  | zero => exact ⟨sp, rfl, opened, rfl⟩
  | succ rounds ih =>
    have added : OpenPool ⟨sp.shutdown, Function.update sp.sqlPool sp.poolNumber
        ⟨true, false, 0, sp.poolNumber, .dbConn⟩, sp.poolNumber + 1, sp.busyNumber⟩ := by
      refine ⟨opened.running, fun index => ?_⟩
      by_cases here : index = sp.poolNumber
      · simp [here]
      · have bound : index < sp.poolNumber + 1 ↔ index < sp.poolNumber := by omega
        dsimp only
        rw [Function.update_of_ne here, opened.handles index]
        simp only [bound]
    obtain ⟨later, created, open', number⟩ := ih added
    refine ⟨later, ?_, open', by rw [number]; dsimp only; omega⟩
    rw [sqlPoolCreateLoop, createDbConnect, if_neg opened.running]
    simpa [SqlConnPool.setNode] using created

/-- A round opens its node. -/
theorem createEvents_opened (rounds start number index : Nat) :
    (createEvents rounds start number).count (.opened index) + held start index =
      held (start + rounds) index := by
  induction rounds generalizing start number with
  | zero => simp [createEvents]
  | succ rounds ih =>
    have rest := ih (start + 1) (number + 1)
    have one : held start index + (if start = index then 1 else 0) = held (start + 1) index := by
      unfold held
      split_ifs
      all_goals omega
    rw [createEvents]
    simp only [List.count_cons, beq_iff_eq, PoolEvent.opened.injEq, reduceCtorEq, if_false]
    rw [show start + (rounds + 1) = start + 1 + rounds by omega]
    omega

/-- A creation closes nothing. -/
theorem createEvents_closed (rounds start number index : Nat) :
    (createEvents rounds start number).count (.closed index) = 0 := by
  induction rounds generalizing start number with
  | zero => rfl
  | succ rounds ih => simp [createEvents, ih]

/-- The rounds up to the limit keep to it. -/
theorem createEvents_within (room : start + rounds ≤ poolMaxNumber) :
    ∀ event ∈ createEvents rounds start start, event.Within := by
  induction rounds generalizing start with
  | zero => simp [createEvents]
  | succ rounds ih =>
    intro event member
    simp only [createEvents, List.mem_cons] at member
    rcases member with rfl | rfl | rfl | rest
    · show start < poolMaxNumber
      omega
    · trivial
    · show 0 ≤ (start : Int) + 1 ∧ (start : Int) + 1 ≤ poolMaxNumber
      omega
    · exact ih (by omega) event rest

/-! ## Shrinking and destroying -/

/-- A node is closed once, when it has a connection. -/
theorem closeEvents_closed (sp : SqlConnPool) (index other : Nat) :
    (closeEvents sp index).count (.closed other) =
      if index = other ∧ (sp.sqlPool index).mysqlSock = true then 1 else 0 := by
  cases handle : (sp.sqlPool index).mysqlSock with
  | true => simp [closeEvents, handle, List.count_cons]
  | false => simp [closeEvents, handle]

/-- A node that is closed is not opened. -/
theorem closeEvents_opened (sp : SqlConnPool) (index other : Nat) :
    (closeEvents sp index).count (.opened other) = 0 := by
  cases handle : (sp.sqlPool index).mysqlSock with
  | true => simp [closeEvents, handle]
  | false => simp [closeEvents, handle]

/-- A node of the pool is closed within the limits. -/
theorem closeEvents_within (inside : index < sp.poolNumber) (room : sp.poolNumber ≤ poolMaxNumber) :
    ∀ event ∈ closeEvents sp index, event.Within := by
  intro event member
  simp only [closeEvents, List.cons_append, List.mem_cons, List.mem_append, List.not_mem_nil,
    or_false] at member
  rcases member with rfl | closes | rfl
  · show index < poolMaxNumber
    omega
  · split_ifs at closes with handle
    · rw [List.mem_singleton] at closes
      rw [closes]
      trivial
    · contradiction
  · show 0 ≤ (sp.poolNumber : Int) - 1 ∧ (sp.poolNumber : Int) - 1 ≤ poolMaxNumber
    omega

/-- A pool with a node closed is smaller by one. -/
@[simp]
theorem closeNode_poolNumber (sp : SqlConnPool) (index : Nat) :
    (closeNode sp index).poolNumber = sp.poolNumber - 1 := rfl

/-- The node has no connection any more, and the others keep theirs. -/
theorem closeNode_handle (sp : SqlConnPool) (index other : Nat) :
    ((closeNode sp index).sqlPool other).mysqlSock =
      (decide (other ≠ index) && (sp.sqlPool other).mysqlSock) := by
  by_cases here : other = index
  · simp [closeNode, SqlConnPool.setNode, here]
  · simp [closeNode, SqlConnPool.setNode, here]

/-- The last node of an open pool is closed. -/
theorem OpenPool.close (opened : OpenPool sp) (last : sp.poolNumber = index + 1) :
    OpenPool (closeNode sp index) := by
  refine ⟨opened.running, fun other => ?_⟩
  have bound : other < index ↔ other ≠ index ∧ other < index + 1 := by omega
  rw [closeNode_handle, opened.handles, closeNode_poolNumber, last, Nat.add_sub_cancel,
    ← Bool.decide_and]
  exact decide_eq_decide.mpr bound.symm

/-- What `changeNodeNum(sp, 0)` makes of an open pool. -/
structure Shrunk (sp later : SqlConnPool) (events : List PoolEvent) : Prop where
  /-- The pool is open. -/
  opened : OpenPool later
  /-- It is not larger. -/
  smaller : later.poolNumber ≤ sp.poolNumber
  /-- The connections are accounted for. -/
  balanced : Balanced events sp.poolNumber later.poolNumber fun _ => 0
  /-- Its sizes and indices stay below those of the pool. -/
  within : sp.poolNumber ≤ poolMaxNumber → ∀ event ∈ events, event.Within

/-- An open pool shrinks by nothing. -/
theorem Shrunk.refl (opened : OpenPool sp) : Shrunk sp sp [] := by
  refine ⟨opened, le_rfl, fun index => ?_, fun _ event member => ?_⟩
  · simp
  · contradiction

/-- The loop of `changeNodeNum(sp, 0)`. -/
theorem OpenPool.shrink (opened : OpenPool sp) (endIndex : Int) (number : Nat)
    (size : sp.poolNumber = number) :
    Shrunk sp (changeNodeNumLoop endIndex number sp) (shrinkEvents endIndex number sp) := by
  induction number generalizing sp with
  | zero => exact .refl opened
  | succ index ih =>
    rw [changeNodeNumLoop, shrinkEvents]
    by_cases inside : (index : Int) > endIndex
    · rw [if_pos inside, if_pos inside]
      have size' : (closeNode sp index).poolNumber = index := by
        rw [closeNode_poolNumber, size, Nat.add_sub_cancel]
      obtain ⟨opened', smaller, balanced, within⟩ := ih (opened.close size) size'
      refine ⟨opened', by omega, fun other => ?_, fun room event member => ?_⟩
      · have handle : (sp.sqlPool index).mysqlSock = true := by
          rw [opened.handles, size]
          exact decide_eq_true (Nat.lt_succ_self index)
        have one : held sp.poolNumber other =
            (if index = other then 1 else 0) + held (closeNode sp index).poolNumber other := by
          rw [size, size']
          unfold held
          split_ifs
          all_goals omega
        have rest := balanced other
        dsimp only at rest
        rw [List.count_append, List.count_append, closeEvents_opened, closeEvents_closed, handle]
        simp only [and_true]
        omega
      · rcases List.mem_append.mp member with here | rest
        · exact closeEvents_within (by omega) room event here
        · exact within (by omega) event rest
    · rw [if_neg inside, if_neg inside]
      exact .refl opened

/-- A round of `sql_pool_destroy` closes the node at its index while the index is below the bound.
-/
theorem sqlPoolDestroyLoop_round (fuel index : Nat) (sp : SqlConnPool) :
    sqlPoolDestroyLoop (fuel + 1) index sp =
      if index < sp.poolNumber then sqlPoolDestroyLoop fuel (index + 1) (closeNode sp index)
      else sp := rfl

/-- A pool of two nodes or more is not emptied: the loop's index comes up to the size it lowers. -/
theorem sqlPoolDestroyLoop_left (some : 1 ≤ sp.poolNumber) (more : 2 ≤ index + sp.poolNumber) :
    1 ≤ (sqlPoolDestroyLoop fuel index sp).poolNumber := by
  induction fuel generalizing index sp with
  | zero => exact some
  | succ fuel ih =>
    rw [sqlPoolDestroyLoop_round]
    by_cases inside : index < sp.poolNumber
    · rw [if_pos inside]
      apply ih
      · rw [closeNode_poolNumber]
        omega
      · rw [closeNode_poolNumber]
        omega
    · rw [if_neg inside]
      exact some

/-- `sql_pool_destroy` closes each node with a connection at most once and opens none. -/
theorem destroyEvents_closed (fuel index other : Nat) (sp : SqlConnPool) :
    (destroyEvents fuel index sp).count (.closed other) ≤
        (if index ≤ other ∧ (sp.sqlPool other).mysqlSock = true then 1 else 0) ∧
      (destroyEvents fuel index sp).count (.opened other) = 0 := by
  induction fuel generalizing index sp with
  | zero => simp [destroyEvents]
  | succ fuel ih =>
    rw [destroyEvents]
    by_cases inside : index < sp.poolNumber
    · obtain ⟨closes, opens⟩ := ih (index + 1) (closeNode sp index)
      rw [if_pos inside, List.count_append, List.count_append, closeEvents_closed,
        closeEvents_opened, opens]
      refine ⟨?_, rfl⟩
      rw [closeNode_handle] at closes
      by_cases here : index = other
      · subst here
        simp only [Nat.not_succ_le_self, false_and, if_false, Nat.le_zero_eq] at closes
        simp [closes]
      · have bound : index + 1 ≤ other ↔ index ≤ other := by omega
        simpa [here, Ne.symm here, bound] using closes
    · rw [if_neg inside]
      simp

/-- `sql_pool_destroy` keeps to the limits. -/
theorem destroyEvents_within (fuel index : Nat) (room : sp.poolNumber ≤ poolMaxNumber) :
    ∀ event ∈ destroyEvents fuel index sp, event.Within := by
  induction fuel generalizing index sp with
  | zero => simp [destroyEvents]
  | succ fuel ih =>
    intro event member
    rw [destroyEvents] at member
    split_ifs at member with inside
    · rcases List.mem_append.mp member with here | rest
      · exact closeEvents_within inside room event here
      · refine ih (index + 1) ?_ event rest
        rw [closeNode_poolNumber]
        omega
    · contradiction

/-! ## Scanning -/

/-- A round changes its own node only. -/
theorem scanRound_elsewhere (running : sp.shutdown ≠ 1) :
    Elsewhere sp (scanRound outcomes i index sp).2 index := by
  cases lock : (sp.sqlPool index).lock with
  | true =>
    rw [scanRound_locked lock]
    exact .refl sp index
  | false => exact (scanRound_free running lock).elsewhere

/-- A round stops at a free node that answers. -/
theorem scanRound_stops (running : sp.shutdown ≠ 1) :
    (scanRound outcomes i index sp).1 =
      decide ((sp.sqlPool index).lock = false ∧ answers outcomes sp i index = true) := by
  cases lock : (sp.sqlPool index).lock with
  | true =>
    rw [scanRound_locked lock]
    simp
  | false =>
    rw [(scanRound_free running lock).stops]
    simp

/-- A reconnect that succeeds leaves its node a connection. -/
theorem reconnect_handle (handle : (sp.sqlPool index).mysqlSock = true) :
    ((reconnect sp index true).2.sqlPool index).mysqlSock = true := by
  rw [reconnect, createDbConnect, if_pos rfl]
  split_ifs
  · exact handle
  · simp [SqlConnPool.setNode]
  · exact handle

/-- A round that may connect leaves its node a connection. -/
theorem scanRound_handle (connects : outcomes.connects i = true)
    (handle : (sp.sqlPool index).mysqlSock = true) :
    ((scanRound outcomes i index sp).2.sqlPool index).mysqlSock = true := by
  have locks : ((sp.setNode index { sp.sqlPool index with lock := true }).sqlPool index).mysqlSock =
      true := by
    simp [SqlConnPool.setNode, handle]
  have connected := reconnect_handle locks
  rw [scanRound, connects]
  dsimp only
  generalize reconnect _ _ _ = result at connected ⊢
  split_ifs
  · exact handle
  · simp [releaseNode, SqlConnPool.setNode, connected]
  · simp [SqlConnPool.setNode, connected]
  · simp [releaseNode, SqlConnPool.setNode, connected]

/-- A round at a node of an open pool. -/
theorem OpenPool.round (opened : OpenPool sp) (connects : outcomes.connects i = true)
    (inside : index < sp.poolNumber) : OpenPool (scanRound outcomes i index sp).2 := by
  have elsewhere : Elsewhere sp (scanRound outcomes i index sp).2 index :=
    scanRound_elsewhere opened.running
  refine ⟨elsewhere.shutdown ▸ opened.running, fun other => ?_⟩
  rw [elsewhere.number]
  by_cases here : other = index
  · rw [here, decide_eq_true inside]
    exact scanRound_handle connects ((opened.handles index).trans (decide_eq_true inside))
  · rw [elsewhere.others other here]
    exact opened.handles other

/-- The loop of `get_db_connect` by whether a round stops. -/
theorem getDbConnectLoop_pool (outcomes : Outcomes) (start rounds i : Nat) (sp : SqlConnPool) :
    (getDbConnectLoop outcomes start (rounds + 1) i sp).2 =
      if (scanRound outcomes i ((start + i) % sp.poolNumber) sp).1 then
        (scanRound outcomes i ((start + i) % sp.poolNumber) sp).2
      else (getDbConnectLoop outcomes start rounds (i + 1)
        (scanRound outcomes i ((start + i) % sp.poolNumber) sp).2).2 := by
  rw [getDbConnectLoop_round]
  cases scanRound outcomes i ((start + i) % sp.poolNumber) sp with
  | mk stops later =>
    cases stops with
    | true => rfl
    | false => rfl

/-- What `get_db_connect` makes of an open pool. -/
structure Scanned (sp later : SqlConnPool) (events : List PoolEvent) : Prop where
  /-- The pool is open. -/
  opened : OpenPool later
  /-- It has the same size. -/
  number : later.poolNumber = sp.poolNumber
  /-- Nothing is closed. -/
  closed : ∀ index, events.count (.closed index) = 0
  /-- Its indices are those of the pool. -/
  within : sp.poolNumber ≤ poolMaxNumber → ∀ event ∈ events, event.Within

/-- The scan of `get_db_connect`. -/
theorem OpenPool.scan (opened : OpenPool sp) (connects : ∀ i, outcomes.connects i = true)
    (inhabited : 0 < sp.poolNumber) (start rounds i : Nat) :
    Scanned sp (getDbConnectLoop outcomes start rounds i sp).2
      (scanEvents outcomes start rounds i sp) := by
  induction rounds generalizing i sp with
  | zero =>
    refine ⟨opened, rfl, fun index => rfl, fun _ event member => ?_⟩
    contradiction
  | succ rounds ih =>
    have inside : (start + i) % sp.poolNumber < sp.poolNumber := Nat.mod_lt _ inhabited
    have round := opened.round (connects i) inside
    have number : (scanRound outcomes i ((start + i) % sp.poolNumber) sp).2.poolNumber =
        sp.poolNumber := (scanRound_elsewhere opened.running).number
    have none (index : Nat) :
        (roundEvents outcomes i ((start + i) % sp.poolNumber) sp).count (.closed index) = 0 := by
      rw [roundEvents]
      split_ifs
      · simp
      · simp
    have here (room : sp.poolNumber ≤ poolMaxNumber) :
        ∀ event ∈ roundEvents outcomes i ((start + i) % sp.poolNumber) sp, event.Within := by
      intro event member
      rcases List.mem_cons.mp member with rfl | opens
      · exact lt_of_lt_of_le inside room
      · split_ifs at opens
        · rw [List.mem_singleton.mp opens]
          trivial
        · contradiction
    rw [getDbConnectLoop_pool, scanEvents]
    split_ifs with stops
    · rw [List.append_nil]
      exact ⟨round, number, none, here⟩
    · obtain ⟨opened', number', closed, within⟩ := ih round (by rw [number]; exact inhabited) (i + 1)
      rw [number] at number' within
      refine ⟨opened', number', fun index => ?_, fun room event member => ?_⟩
      · rw [List.count_append, none, closed]
      · rcases List.mem_append.mp member with now | rest
        · exact here room event now
        · exact within room event rest

/-- A scan opens nothing exactly when no free node up to the first usable is disconnected. -/
theorem scanEvents_opened (running : sp.shutdown ≠ 1) (connects : ∀ i, outcomes.connects i = true)
    {now : SqlConnPool} (ahead : Ahead sp outcomes i now) (left : rounds + i = sp.poolNumber) :
    (∀ index, .opened index ∉
        scanEvents outcomes (outcomes.rand % sp.poolNumber) rounds i now) ↔
      ∀ m, i ≤ m → m < sp.poolNumber → (∀ j, i ≤ j → j < m → usable sp outcomes j = false) →
        (sp.sqlPool (scanned sp outcomes m)).lock = false →
        (sp.sqlPool (scanned sp outcomes m)).sqlState = .dbConn := by
  induction rounds generalizing i now with
  | zero =>
    refine iff_of_true (fun index => List.not_mem_nil) fun m after bound => ?_
    omega
  | succ rounds ih =>
    have inside : i < sp.poolNumber := by omega
    have rest : rounds + (i + 1) = sp.poolNumber := by omega
    have index : (outcomes.rand % sp.poolNumber + i) % now.poolNumber = scanned sp outcomes i := by
      rw [ahead.number]
      rfl
    have same := ahead.same i le_rfl inside
    have running' : now.shutdown ≠ 1 := ahead.shutdown ▸ running
    have stops : (scanRound outcomes i (scanned sp outcomes i) now).1 = usable sp outcomes i := by
      rw [scanRound_stops running', usable, answers, answers, same]
    have here : (∀ other, PoolEvent.opened other ∉
        roundEvents outcomes i (scanned sp outcomes i) now) ↔
        ((sp.sqlPool (scanned sp outcomes i)).lock = false →
          (sp.sqlPool (scanned sp outcomes i)).sqlState = .dbConn) := by
      rw [roundEvents, same, connects i]
      cases lock : (sp.sqlPool (scanned sp outcomes i)).lock with
      | true => simp
      | false =>
        cases state : (sp.sqlPool (scanned sp outcomes i)).sqlState with
        | dbConn => simp
        | dbDisconn => simp
    rw [scanEvents, index, stops]
    cases right : usable sp outcomes i with
    | true =>
      rw [if_pos rfl, List.append_nil, here]
      constructor
      · intro fresh m after bound before free
        by_cases first : m = i
        · rw [first] at free ⊢
          exact fresh free
        · have wrong := before i le_rfl (by omega)
          rw [right] at wrong
          contradiction
      · intro all
        exact all i le_rfl inside fun j after bound => by omega
    | false =>
      have elsewhere : Elsewhere now (scanRound outcomes i (scanned sp outcomes i) now).2
          (scanned sp outcomes i) := scanRound_elsewhere running'
      have next := ih (ahead.next inside elsewhere) rest
      rw [if_neg Bool.false_ne_true]
      simp only [List.mem_append, not_or, forall_and]
      rw [here, next]
      constructor
      · rintro ⟨fresh, later⟩ m after bound before free
        by_cases first : m = i
        · rw [first] at free ⊢
          exact fresh free
        · exact later m (by omega) bound (fun j after => before j (by omega)) free
      · intro all
        refine ⟨all i le_rfl inside fun j after bound => by omega, ?_⟩
        intro m after bound before free
        refine all m (by omega) bound (fun j begins ends => ?_) free
        by_cases first : j = i
        · rw [first]
          exact right
        · exact before j (by omega) ends

/-! ## Sequences of calls -/

/-- The connections that a call leaves open in nodes that it connects again. -/
def SqlConnPool.leaks (sp : SqlConnPool) : PoolCall → Nat → Nat
  | .grow, _ => 0
  | .shrink, _ => 0
  | .get rand pings, index => (sp.events (.get rand pings)).count (.opened index)

/-- What a call makes of an open pool. -/
structure CallEffect (sp : SqlConnPool) (call : PoolCall) : Prop where
  /-- The pool is open. -/
  opened : OpenPool (sp.after call)
  /-- The connections are accounted for. -/
  balanced : Balanced (sp.events call) sp.poolNumber (sp.after call).poolNumber (sp.leaks call)
  /-- The call keeps to the limits and leaves nothing open when the pool is fit, and only then. -/
  fit : sp.poolNumber ≤ poolMaxNumber → ((∀ event ∈ sp.events call, event.Within) ∧
    (∀ index, sp.leaks call index = 0) ↔ sp.Fit call)
  /-- A fit pool stays within its limit. -/
  room : sp.poolNumber ≤ poolMaxNumber → sp.Fit call → (sp.after call).poolNumber ≤ poolMaxNumber

/-- `changeNodeNum(sp, 1)`. -/
theorem OpenPool.grown (opened : OpenPool sp) : CallEffect sp .grow := by
  obtain ⟨later, created, opened', number⟩ := opened.create 5
  have after : sp.after .grow = later := by
    rw [SqlConnPool.after, changeNodeNum, if_pos rfl, created, Option.getD_some]
  constructor
  · rw [after]
    exact opened'
  · intro index
    rw [after, number, SqlConnPool.events, createEvents_closed]
    have opens := createEvents_opened 5 sp.poolNumber sp.poolNumber index
    show _ + _ = 0 + _ + 0
    omega
  · intro _
    constructor
    · intro within
      -- the last of the five nodes
      have last := within.1 (.node (sp.poolNumber + 1 + 1 + 1 + 1)) (by
        simp [SqlConnPool.events, createEvents])
      exact last
    · intro room
      exact ⟨createEvents_within room, fun _ => rfl⟩
  · intro _ room
    rw [after, number]
    exact room

/-- `changeNodeNum(sp, 0)` makes of an open pool what its events say. -/
theorem OpenPool.shrunk (opened : OpenPool sp) : CallEffect sp .shrink := by
  have shrunk := opened.shrink ((sp.poolNumber : Int) - 5 - 1) sp.poolNumber rfl
  constructor
  · exact shrunk.opened
  · exact shrunk.balanced
  · intro limit
    exact iff_of_true ⟨shrunk.within limit, fun _ => rfl⟩ trivial
  · intro limit _
    exact shrunk.smaller.trans limit

/-- `get_db_connect` makes of an open pool what its events say. -/
theorem OpenPool.got (opened : OpenPool sp) (rand : Nat) (pings : Nat → Bool) :
    CallEffect sp (.get rand pings) := by
  have after : sp.after (.get rand pings) = (getDbConnectLoop (succeeding rand pings)
      (rand % sp.poolNumber) sp.poolNumber 0 sp).2 := by
    rw [SqlConnPool.after, getDbConnect, if_neg opened.running]
    rfl
  by_cases empty : sp.poolNumber = 0
  · -- the remainder by zero; the loop does not run
    have none : sp.events (.get rand pings) = [.remainder 0] := by
      rw [SqlConnPool.events, empty]
      rfl
    have same : sp.after (.get rand pings) = sp := by
      rw [after, empty]
      rfl
    have unfit : ¬ sp.Fit (.get rand pings) := fun fit => by
      have := fit.1
      omega
    constructor
    · rw [same]
      exact opened
    · intro index
      rw [same, SqlConnPool.leaks, none]
      rfl
    · intro _
      refine iff_of_false (fun within => ?_) unfit
      rw [none] at within
      exact within.1 (.remainder 0) (List.mem_singleton_self _) rfl
    · exact fun _ fit => absurd fit unfit
  · have inhabited : 0 < sp.poolNumber := Nat.pos_of_ne_zero empty
    have connects : ∀ i, (succeeding rand pings).connects i = true := fun _ => rfl
    have scan := opened.scan connects inhabited (rand % sp.poolNumber) sp.poolNumber 0
    have opens := scanEvents_opened opened.running connects ⟨rfl, rfl, fun _ _ _ => rfl⟩
      (Nat.add_zero sp.poolNumber)
    have number : (sp.after (.get rand pings)).poolNumber = sp.poolNumber := by
      rw [after]
      exact scan.number
    have within (limit : sp.poolNumber ≤ poolMaxNumber) :
        ∀ event ∈ sp.events (.get rand pings), event.Within := by
      intro event member
      rcases List.mem_cons.mp member with rfl | rest
      · exact empty
      · exact scan.within limit event rest
    constructor
    · rw [after]
      exact scan.opened
    · intro index
      have closed : (sp.events (.get rand pings)).count (.closed index) = 0 := by
        rw [SqlConnPool.events, List.count_cons_of_ne PoolEvent.noConfusion]
        exact scan.closed index
      rw [number, closed, SqlConnPool.leaks]
      omega
    · have none : (∀ index, sp.leaks (.get rand pings) index = 0) ↔ ∀ index, .opened index ∉
          scanEvents (succeeding rand pings) (rand % sp.poolNumber) sp.poolNumber 0 sp := by
        refine forall_congr' fun index => ?_
        rw [SqlConnPool.leaks, SqlConnPool.events, List.count_cons_of_ne PoolEvent.noConfusion]
        exact List.count_eq_zero
      intro limit
      rw [none]
      constructor
      · intro both
        refine ⟨inhabited, fun i bound before => ?_⟩
        exact opens.mp both.2 i (Nat.zero_le i) bound fun j _ => before j
      · intro fit
        refine ⟨within limit, opens.mpr fun m _ bound before => ?_⟩
        exact fit.2 m bound fun j => before j (Nat.zero_le j)
    · intro limit _
      rw [number]
      exact limit

/-- Every call makes of an open pool what its events say. -/
theorem OpenPool.called (opened : OpenPool sp) (call : PoolCall) : CallEffect sp call := by
  cases call with
  | grow => exact opened.grown
  | shrink => exact opened.shrunk
  | get rand pings => exact opened.got rand pings

/-- No more is closed than was open or opened. -/
theorem OpenPool.closed_le (opened : OpenPool sp) (calls : List PoolCall) (index : Nat) :
    (sp.destroyedAfter calls).1.count (.closed index) ≤
      (sp.destroyedAfter calls).1.count (.opened index) + held sp.poolNumber index := by
  induction calls generalizing sp with
  | nil =>
    have closed := destroyEvents_closed sp.poolNumber 0 index { sp with shutdown := 1 }
    have handles := opened.handles index
    simp only [handles, Nat.zero_le, true_and, decide_eq_true_eq] at closed
    rw [SqlConnPool.destroyedAfter, held]
    dsimp only
    omega
  | cons call calls ih =>
    have rest := ih (opened.called call).opened
    have now := (opened.called call).balanced index
    rw [SqlConnPool.destroyedAfter, List.count_append, List.count_append]
    omega

/-- `sql_pool_destroy` closes what is open and leaves no node exactly when there is at most one. -/
theorem OpenPool.destroyed (opened : OpenPool sp) :
    ((∀ index, (destroyEvents sp.poolNumber 0 { sp with shutdown := 1 }).count (.closed index) =
        (destroyEvents sp.poolNumber 0 { sp with shutdown := 1 }).count (.opened index) +
          held sp.poolNumber index) ∧
      (sqlPoolDestroy sp).poolNumber = 0) ↔ sp.poolNumber ≤ 1 := by
  constructor
  · intro both
    by_contra more
    have left : 1 ≤ (sqlPoolDestroy sp).poolNumber :=
      sqlPoolDestroyLoop_left (by dsimp only; omega) (by dsimp only; omega)
    omega
  · intro few
    have handles := opened.handles 0
    rw [sqlPoolDestroy]
    rcases Nat.le_one_iff_eq_zero_or_eq_one.mp few with none | one
    · rw [none]
      exact ⟨fun index => rfl, rfl⟩
    · rw [one] at handles ⊢
      have closes : destroyEvents 1 0 { sp with shutdown := 1, poolNumber := 1 } =
          [.node 0, .closed 0, .size 0] := by
        simp [destroyEvents, closeEvents, handles]
      refine ⟨fun index => ?_, ?_⟩
      · rw [closes]
        cases index with
        | zero => rfl
        | succ index => simp [held]
      · simp [sqlPoolDestroyLoop, SqlConnPool.setNode]

/-- The sequences after which everything is closed, from an open pool within its limit on. -/
theorem OpenPool.fitAll_iff (opened : OpenPool sp) (limit : sp.poolNumber ≤ poolMaxNumber)
    (calls : List PoolCall) :
    ((∀ event ∈ (sp.destroyedAfter calls).1, event.Within) ∧
      (∀ index, (sp.destroyedAfter calls).1.count (.closed index) =
        (sp.destroyedAfter calls).1.count (.opened index) + held sp.poolNumber index) ∧
      (sp.destroyedAfter calls).2.poolNumber = 0) ↔ sp.FitAll calls := by
  induction calls generalizing sp with
  | nil =>
    rw [SqlConnPool.FitAll, ← opened.destroyed]
    exact and_iff_right (destroyEvents_within sp.poolNumber 0 limit)
  | cons call calls ih =>
    have effect := opened.called call
    have fit := effect.fit limit
    rw [SqlConnPool.FitAll, SqlConnPool.destroyedAfter]
    simp only [List.forall_mem_append, List.count_append]
    constructor
    · rintro ⟨⟨now, rest⟩, closed, last⟩
      have tight (index : Nat) : sp.leaks call index = 0 := by
        have balance := effect.balanced index
        have most := effect.opened.closed_le calls index
        have all := closed index
        omega
      have right := fit.mp ⟨now, tight⟩
      refine ⟨right, (ih effect.opened (effect.room limit right)).mp ⟨rest, fun index => ?_, last⟩⟩
      have balance := effect.balanced index
      have all := closed index
      have none := tight index
      omega
    · rintro ⟨right, rest⟩
      obtain ⟨within, closed, last⟩ := (ih effect.opened (effect.room limit right)).mpr rest
      obtain ⟨now, tight⟩ := fit.mpr right
      refine ⟨⟨now, within⟩, fun index => ?_, last⟩
      have balance := effect.balanced index
      have all := closed index
      have none := tight index
      omega

/-- `sql_pool_create` with connections that succeed. -/
theorem sqlPoolCreate_size (requested : Int) :
    sqlPoolCreate requested (fun _ => true) = some (freshPool (createdSize requested)) := by
  by_cases few : requested < 1
  · have one : sqlPoolCreate requested (fun _ => true) = sqlPoolCreate (1 : Nat) (fun _ => true) := by
      rw [sqlPoolCreate, sqlPoolCreate, if_pos few]
      rfl
    rw [one, sqlPoolCreate_fresh 1 Nat.one_pos _ fun _ => rfl, createdSize, if_pos few]
  · obtain ⟨number, rfl⟩ := Int.eq_ofNat_of_zero_le (show 0 ≤ requested by omega)
    rw [sqlPoolCreate_fresh number (by omega) _ fun _ => rfl, createdSize, if_neg few,
      Int.toNat_natCast]

/-- In a sequence of calls on a created pool whose connections succeed, the size, the indices and the
divisors keep to their bounds and everything that was opened is closed at the end, exactly when
the pool is fit for every call and has at most one node when it is destroyed. -/
theorem sizeDiscipline_iff (requested : Int) (calls : List PoolCall) :
    ∃ sp, sqlPoolCreate requested (fun _ => true) = some sp ∧
      (SizeDiscipline requested sp calls ↔ sp.FitAll calls) := by
  have limit : createdSize requested ≤ poolMaxNumber := Nat.min_le_right _ _
  refine ⟨freshPool (createdSize requested), sqlPoolCreate_size requested, ?_⟩
  rw [← (freshPool_open (createdSize requested)).fitAll_iff limit calls]
  have created (index : Nat) := createEvents_opened (createdSize requested) 0 0 index
  have none (index : Nat) := createEvents_closed (createdSize requested) 0 0 index
  have within : ∀ event ∈ createEvents (createdSize requested) 0 0, event.Within :=
    createEvents_within (by omega)
  constructor
  · rintro ⟨all, closed, last⟩
    refine ⟨fun event member => all event (List.mem_append_right _ member), fun index => ?_, last⟩
    have here := closed index
    have first := created index
    have zero := none index
    rw [List.count_append, List.count_append] at here
    simp only [Nat.zero_add, held, Nat.not_lt_zero, if_false] at first
    show _ = _ + held (createdSize requested) index
    rw [held]
    omega
  · rintro ⟨rest, closed, last⟩
    refine ⟨fun event member => ?_, fun index => ?_, last⟩
    · rcases List.mem_append.mp member with now | later
      · exact within event now
      · exact rest event later
    · have here : _ = _ + held (createdSize requested) index := closed index
      have first := created index
      have zero := none index
      rw [List.count_append, List.count_append]
      simp only [Nat.zero_add, held, Nat.not_lt_zero, if_false] at first here
      omega

/-- The pool of the server: 36 nodes are asked for, 30 are made, and when it is destroyed fifteen are
left open. -/
theorem destroy_leaves_half : ∃ sp, sqlPoolCreate 36 (fun _ => true) = some sp ∧
    (sp.destroyedAfter []).2.poolNumber = 15 ∧ ¬ SizeDiscipline 36 sp [] := by
  have left : ((freshPool 30).destroyedAfter []).2.poolNumber = 15 := by decide +kernel
  refine ⟨freshPool 30, sqlPoolCreate_size 36, left, fun discipline => ?_⟩
  have none := discipline.empty
  omega

end UubangIot.SqlPool
