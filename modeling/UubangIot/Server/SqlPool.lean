import Mathlib.Logic.Function.Basic

/-!
# The MySQL connection pool

`sqlpool.c`: an array of nodes, each with a lock, a use flag and a connection state. A lock is
held or free: `pthread_mutex_trylock` takes a free one, `pthread_mutex_unlock` and
`pthread_mutex_init` leave it free. What MySQL answers to a connect or a ping is an argument of
the call, indexed by the round of the scan that asks.
-/

namespace UubangIot.SqlPool

/-- `SQL_NODE.sql_state`. -/
inductive SqlState
  | dbDisconn
  | dbConn
  deriving DecidableEq, Repr

/-- `SQL_NODE`; the handle itself is only ever tested for NULL. -/
structure SqlNode where
  /-- `mysql_sock` is not NULL. -/
  mysqlSock : Bool
  /-- The mutex is held. -/
  lock : Bool
  /-- `used`. -/
  used : Int
  /-- `index`. -/
  index : Nat
  /-- `sql_state`. -/
  sqlState : SqlState
  deriving DecidableEq, Repr

/-- `SQL_CONN_POOL`. -/
structure SqlConnPool where
  /-- `shutdown`. -/
  shutdown : Int
  /-- `sql_pool`. -/
  sqlPool : Nat → SqlNode
  /-- `pool_number`. -/
  poolNumber : Nat
  /-- `busy_number`. -/
  busyNumber : Int

/-- `POOL_MAX_NUMBER`. -/
def poolMaxNumber : Nat := 30

/-- Replace one node of the array. -/
def SqlConnPool.setNode (sp : SqlConnPool) (index : Nat) (node : SqlNode) : SqlConnPool :=
  { sp with sqlPool := Function.update sp.sqlPool index node }

/-- `create_db_connect` — reset the node's lock and connect it; -1 in a pool that is shut down,
0 when MySQL refuses, else 1. -/
def createDbConnect (sp : SqlConnPool) (index : Nat) (connected : Bool) : Int × SqlConnPool :=
  if sp.shutdown = 1 then (-1, sp)
  else
    let node := { sp.sqlPool index with lock := false }
    if connected then
      (1, sp.setNode index { node with mysqlSock := true, used := 0, sqlState := .dbConn })
    else (0, sp.setNode index { node with mysqlSock := false, sqlState := .dbDisconn })

/-- Loop of `sql_pool_destroy`; it shrinks the bound it runs to. -/
def sqlPoolDestroyLoop : Nat → Nat → SqlConnPool → SqlConnPool
  | 0, _, sp => sp
  | fuel + 1, index, sp =>
    if index < sp.poolNumber then
      let sp := sp.setNode index
        { sp.sqlPool index with mysqlSock := false, sqlState := .dbDisconn }
      sqlPoolDestroyLoop fuel (index + 1) { sp with poolNumber := sp.poolNumber - 1 }
    else sp

/-- `sql_pool_destroy` — mark the pool shut down and close its nodes. -/
def sqlPoolDestroy (sp : SqlConnPool) : SqlConnPool :=
  sqlPoolDestroyLoop sp.poolNumber 0 { sp with shutdown := 1 }

/-- Loop of `sql_pool_create`, none when a connection fails and the pool is destroyed. -/
def sqlPoolCreateLoop (connects : Nat → Bool) : Nat → Nat → SqlConnPool → Option SqlConnPool
  | 0, _, sp => some sp
  | rounds + 1, index, sp =>
    let (res, sp) := createDbConnect sp index (connects index)
    if res = 0 then none
    else
      let sp := sp.setNode index { sp.sqlPool index with index := index }
      sqlPoolCreateLoop connects rounds (index + 1) { sp with poolNumber := sp.poolNumber + 1 }

/-- `sql_pool_create` on zeroed memory: at least one node, at most `POOL_MAX_NUMBER`. -/
def sqlPoolCreate (connectPoolNumber : Int) (connects : Nat → Bool) : Option SqlConnPool :=
  let number := if connectPoolNumber < 1 then 1 else connectPoolNumber.toNat
  sqlPoolCreateLoop connects (min number poolMaxNumber) 0
    ⟨0, fun _ => ⟨false, false, 0, 0, .dbDisconn⟩, 0, 0⟩

/-- `release_node` — clear the use flag, count the node back and unlock it. -/
def releaseNode (sp : SqlConnPool) (index : Nat) : SqlConnPool :=
  { sp.setNode index { sp.sqlPool index with used := 0, lock := false } with
    busyNumber := sp.busyNumber - 1 }

/-- What `rand()` and MySQL answer during one `get_db_connect`. -/
structure Outcomes where
  /-- `rand()`. -/
  rand : Nat
  /-- The reconnect of a round succeeds. -/
  connects : Nat → Bool
  /-- The ping of a round returns 0. -/
  pings : Nat → Bool

/-- `if (DB_DISCONN == sql_state) create_db_connect(…)`, 1 when the node is connected. -/
def reconnect (sp : SqlConnPool) (index : Nat) (connected : Bool) : Int × SqlConnPool :=
  if (sp.sqlPool index).sqlState = .dbDisconn then createDbConnect sp index connected
  else (1, sp)

/-- Scan loop of `get_db_connect`, from round `i` with the given number of rounds left: the
index of the node it stops at, and the pool. -/
def getDbConnectLoop (outcomes : Outcomes) (startIndex : Nat) :
    Nat → Nat → SqlConnPool → Option Nat × SqlConnPool
  | 0, _, sp => (none, sp)
  | rounds + 1, i, sp =>
    let index := (startIndex + i) % sp.poolNumber
    if (sp.sqlPool index).lock then getDbConnectLoop outcomes startIndex rounds (i + 1) sp
    else
      let sp := sp.setNode index { sp.sqlPool index with lock := true }
      let (res, sp) := reconnect sp index (outcomes.connects i)
      if res = 0 then
        getDbConnectLoop outcomes startIndex rounds (i + 1) (releaseNode sp index)
      else if outcomes.pings i then
        (some index, { sp.setNode index { sp.sqlPool index with used := 1 } with
          busyNumber := sp.busyNumber + 1 })
      else
        let sp := sp.setNode index { sp.sqlPool index with sqlState := .dbDisconn }
        getDbConnectLoop outcomes startIndex rounds (i + 1) (releaseNode sp index)

/-- `get_db_connect` — the first free node from a random start that answers a ping. The remainder by
the size of an empty pool, undefined in C, has no round to start; the first event of the call is what
it divides by. -/
def getDbConnect (sp : SqlConnPool) (outcomes : Outcomes) : Option Nat × SqlConnPool :=
  if sp.shutdown = 1 then (none, sp)
  else getDbConnectLoop outcomes (outcomes.rand % sp.poolNumber) sp.poolNumber 0 sp

/-- Close a node at the end of the pool: `mysql_close` when it has a handle, `DB_DISCONN` and
`pool_number--`. -/
def closeNode (sp : SqlConnPool) (index : Nat) : SqlConnPool :=
  { sp.setNode index { sp.sqlPool index with mysqlSock := false, sqlState := .dbDisconn } with
    poolNumber := sp.poolNumber - 1 }

/-- Loop of `changeNodeNum(sp, 0)`: the nodes below an index, down to the one after `endindex`. -/
def changeNodeNumLoop (endIndex : Int) : Nat → SqlConnPool → SqlConnPool
  | 0, sp => sp
  | index + 1, sp =>
    if (index : Int) > endIndex then changeNodeNumLoop endIndex index (closeNode sp index) else sp

/-- `changeNodeNum` — five connections more (1) or fewer (0); none when a new one fails and the pool
is destroyed. The loop that adds them is that of `sql_pool_create`, from `pool_number` on. -/
def changeNodeNum (sp : SqlConnPool) (op : Int) (connects : Nat → Bool) : Option SqlConnPool :=
  let num := 5
  if op = 1 then sqlPoolCreateLoop connects num sp.poolNumber sp
  else if op = 0 then
    some (changeNodeNumLoop ((sp.poolNumber : Int) - num - 1) sp.poolNumber sp)
  else some sp

end UubangIot.SqlPool
