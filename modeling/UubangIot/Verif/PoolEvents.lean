import UubangIot.Verif.PoolSize

/-!
# What the events of the pool stand for

The events of a call are written beside the loops of the source. They are those of the loops: what
they open, close and count makes of a pool's connections and size what the loop makes of them, and a
node that they do not name is left as it was.
-/

namespace UubangIot.SqlPool

variable {sp middle later : SqlConnPool} {outcomes : Outcomes} {events more : List PoolEvent}
  {i index start rounds number fuel : Nat}

/-- What the events of a pool move: its connections and its size. -/
structure Extent where
  /-- A node has a connection. -/
  handle : Nat → Bool
  /-- `pool_number`. -/
  number : Int

/-- The connections and the size after an event. -/
def Extent.after (extent : Extent) : PoolEvent → Extent
  | .opened index => { extent with handle := Function.update extent.handle index true }
  | .closed index => { extent with handle := Function.update extent.handle index false }
  | .size number => { extent with number := number }
  | .node _ | .remainder _ => extent

/-- The connections and the size of a pool. -/
def SqlConnPool.extent (sp : SqlConnPool) : Extent :=
  ⟨fun index => (sp.sqlPool index).mysqlSock, sp.poolNumber⟩

/-- The events lead from one pool to the other, and name every node that changes. -/
structure Account (events : List PoolEvent) (sp later : SqlConnPool) : Prop where
  /-- The connections and the size. -/
  extent : events.foldl Extent.after sp.extent = later.extent
  /-- The nodes that are not named. -/
  untouched : ∀ index, .node index ∉ events → later.sqlPool index = sp.sqlPool index

/-- Nothing happens. -/
theorem Account.refl (sp : SqlConnPool) : Account [] sp sp := ⟨rfl, fun _ _ => rfl⟩

/-- One part after the other. -/
theorem Account.append (first : Account events sp middle) (second : Account more middle later) :
    Account (events ++ more) sp later := by
  constructor
  · rw [List.foldl_append, first.extent, second.extent]
  · intro index absent
    rw [List.mem_append, not_or] at absent
    exact (second.untouched index absent.2).trans (first.untouched index absent.1)

/-- The events of one node, whose connection they set. -/
theorem Account.of_node (rest : List PoolEvent)
    (extent : (PoolEvent.node index :: rest).foldl Extent.after sp.extent =
      ⟨Function.update sp.extent.handle index (later.sqlPool index).mysqlSock, later.poolNumber⟩)
    (others : ∀ other, other ≠ index → later.sqlPool other = sp.sqlPool other) :
    Account (.node index :: rest) sp later := by
  constructor
  · rw [extent, SqlConnPool.extent]
    congr 1
    funext other
    by_cases here : other = index
    · rw [here, Function.update_self]
    · rw [Function.update_of_ne here, others other here]
  · intro other absent
    refine others other fun here => absent ?_
    rw [here]
    exact List.mem_cons_self

/-! ## Loops -/

/-- A node of a pool that is not empty is closed. -/
theorem closeNode_account (inhabited : 0 < sp.poolNumber) :
    Account (closeEvents sp index) sp (closeNode sp index) := by
  have handle : ((closeNode sp index).sqlPool index).mysqlSock = false := by
    rw [closeNode_handle]
    simp
  have size : ((closeNode sp index).poolNumber : Int) = (sp.poolNumber : Int) - 1 := by
    rw [closeNode_poolNumber]
    omega
  apply Account.of_node
  · rw [handle, size]
    cases connected : (sp.sqlPool index).mysqlSock with
    | true => rfl
    | false =>
      -- a node without a connection is left without one
      have same : Function.update sp.extent.handle index false = sp.extent.handle :=
        Function.update_eq_self_iff.mpr connected.symm
      rw [same]
      rfl
  · intro other apart
    exact Function.update_of_ne apart _ _

/-- The rounds of `sql_pool_create` and `changeNodeNum(sp, 1)` in a running pool. -/
theorem sqlPoolCreateLoop_account
    (created : sqlPoolCreateLoop (fun _ => true) rounds index sp = some later)
    (running : sp.shutdown ≠ 1) :
    Account (createEvents rounds index sp.poolNumber) sp later := by
  induction rounds generalizing index sp with
  | zero =>
    obtain rfl := Option.some.inj created
    exact .refl sp
  | succ rounds ih =>
    rw [sqlPoolCreateLoop, createDbConnect, if_neg running] at created
    have next : sqlPoolCreateLoop (fun _ => true) rounds (index + 1)
        { sp.setNode index ⟨true, false, 0, index, .dbConn⟩ with
          poolNumber := sp.poolNumber + 1 } = some later := by
      simpa [SqlConnPool.setNode] using created
    have rest := ih next running
    have here : Account [.node index, .opened index, .size (sp.poolNumber + 1)] sp
        { sp.setNode index ⟨true, false, 0, index, .dbConn⟩ with
          poolNumber := sp.poolNumber + 1 } := by
      apply Account.of_node
      · simp [SqlConnPool.setNode, Extent.after, SqlConnPool.extent]
      · intro other apart
        exact Function.update_of_ne apart _ _
    exact here.append rest

/-- The loop of `changeNodeNum(sp, 0)`. -/
theorem changeNodeNumLoop_account (endIndex : Int) (number : Nat) (room : number ≤ sp.poolNumber) :
    Account (shrinkEvents endIndex number sp) sp (changeNodeNumLoop endIndex number sp) := by
  induction number generalizing sp with
  | zero => exact .refl sp
  | succ index ih =>
    rw [shrinkEvents, changeNodeNumLoop]
    split_ifs
    · refine (closeNode_account (by omega)).append (ih ?_)
      rw [closeNode_poolNumber]
      omega
    · exact .refl sp

/-- The events of the loop of `sql_pool_destroy` account for what it does to the pool. -/
theorem sqlPoolDestroyLoop_account (fuel index : Nat) (sp : SqlConnPool) :
    Account (destroyEvents fuel index sp) sp (sqlPoolDestroyLoop fuel index sp) := by
  induction fuel generalizing index sp with
  | zero => exact .refl sp
  | succ fuel ih =>
    rw [destroyEvents, sqlPoolDestroyLoop_round]
    split_ifs with inside
    · exact (closeNode_account (by omega)).append (ih _ _)
    · exact .refl sp

/-- The connection of the node of a round. -/
theorem scanRound_connection (running : sp.shutdown ≠ 1) (connects : outcomes.connects i = true) :
    ((scanRound outcomes i index sp).2.sqlPool index).mysqlSock =
      if (sp.sqlPool index).lock = false ∧ (sp.sqlPool index).sqlState = .dbDisconn then true
      else (sp.sqlPool index).mysqlSock := by
  rw [scanRound, connects]
  cases lock : (sp.sqlPool index).lock with
  | true => simp
  | false =>
    cases state : (sp.sqlPool index).sqlState with
    | dbConn =>
      cases ping : outcomes.pings i with
      | true => simp [reconnect, SqlConnPool.setNode, state]
      | false => simp [reconnect, SqlConnPool.setNode, releaseNode, state]
    | dbDisconn =>
      cases ping : outcomes.pings i with
      | true => simp [reconnect, createDbConnect, SqlConnPool.setNode, state, running]
      | false => simp [reconnect, createDbConnect, SqlConnPool.setNode, releaseNode, state, running]

/-- A round of the scan. -/
theorem scanRound_account (running : sp.shutdown ≠ 1) (connects : outcomes.connects i = true) :
    Account (roundEvents outcomes i index sp) sp (scanRound outcomes i index sp).2 := by
  have elsewhere : Elsewhere sp (scanRound outcomes i index sp).2 index :=
    scanRound_elsewhere running
  apply Account.of_node
  · rw [scanRound_connection running connects, elsewhere.number]
    by_cases opens : (sp.sqlPool index).lock = false ∧ (sp.sqlPool index).sqlState = .dbDisconn
    · rw [if_pos opens, if_pos ⟨opens.1, opens.2, connects⟩]
      rfl
    · have same : Function.update sp.extent.handle index (sp.sqlPool index).mysqlSock =
          sp.extent.handle := Function.update_eq_self index _
      rw [if_neg opens, if_neg fun all => opens ⟨all.1, all.2.1⟩, same]
      rfl
  · exact elsewhere.others

/-- The events of the scan of `get_db_connect` account for what it does to the pool. -/
theorem getDbConnectLoop_account (running : sp.shutdown ≠ 1)
    (connects : ∀ i, outcomes.connects i = true) (start rounds i : Nat) :
    Account (scanEvents outcomes start rounds i sp) sp
      (getDbConnectLoop outcomes start rounds i sp).2 := by
  induction rounds generalizing i sp with
  | zero => exact .refl sp
  | succ rounds ih =>
    have elsewhere : Elsewhere sp (scanRound outcomes i ((start + i) % sp.poolNumber) sp).2
        ((start + i) % sp.poolNumber) := scanRound_elsewhere running
    have round : Account (roundEvents outcomes i ((start + i) % sp.poolNumber) sp) sp
        (scanRound outcomes i ((start + i) % sp.poolNumber) sp).2 :=
      scanRound_account running (connects i)
    rw [scanEvents, getDbConnectLoop_pool]
    split_ifs
    · exact round.append (.refl _)
    · exact round.append (ih (elsewhere.shutdown ▸ running) (i + 1))

/-! ## Calls -/

/-- The events of a call are those of its loop. -/
theorem OpenPool.account (opened : OpenPool sp) (call : PoolCall) :
    Account (sp.events call) sp (sp.after call) := by
  cases call with
  | grow =>
    obtain ⟨later, created, -, -⟩ := opened.create 5
    have after : sp.after .grow = later := by
      rw [SqlConnPool.after, changeNodeNum, if_pos rfl, created, Option.getD_some]
    rw [after]
    exact sqlPoolCreateLoop_account created opened.running
  | shrink => exact changeNodeNumLoop_account _ _ le_rfl
  | get rand pings =>
    have after : sp.after (.get rand pings) = (getDbConnectLoop (succeeding rand pings)
        (rand % sp.poolNumber) sp.poolNumber 0 sp).2 := by
      rw [SqlConnPool.after, getDbConnect, if_neg opened.running]
      rfl
    have divides : Account [.remainder sp.poolNumber] sp sp := ⟨rfl, fun _ _ => rfl⟩
    rw [after]
    exact divides.append (getDbConnectLoop_account opened.running (fun _ => rfl) _ _ _)

/-- The events of a sequence of calls that `sql_pool_destroy` ends are those of the loops. -/
theorem OpenPool.destroyedAfter_account (opened : OpenPool sp) (calls : List PoolCall) :
    Account (sp.destroyedAfter calls).1 sp (sp.destroyedAfter calls).2 := by
  induction calls generalizing sp with
  | nil =>
    have loop := sqlPoolDestroyLoop_account sp.poolNumber 0 { sp with shutdown := 1 }
    exact ⟨loop.extent, loop.untouched⟩
  | cons call calls ih => exact (opened.account call).append (ih (opened.called call).opened)

/-- The events of `sql_pool_create` and of the calls on the pool that it makes are those of the
loops. -/
theorem poolEvents_account (requested : Int) (calls : List PoolCall) :
    Account (createEvents (createdSize requested) 0 0 ++
        ((freshPool (createdSize requested)).destroyedAfter calls).1)
      ⟨0, fun _ => ⟨false, false, 0, 0, .dbDisconn⟩, 0, 0⟩
      ((freshPool (createdSize requested)).destroyedAfter calls).2 := by
  have created : sqlPoolCreateLoop (fun _ => true) (createdSize requested) 0
      ⟨0, fun _ => ⟨false, false, 0, 0, .dbDisconn⟩, 0, 0⟩ =
        some (freshPool (createdSize requested)) := sqlPoolCreate_size requested
  have making := sqlPoolCreateLoop_account created (by decide)
  exact making.append ((freshPool_open _).destroyedAfter_account calls)

end UubangIot.SqlPool
