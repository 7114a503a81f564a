import UubangIot.Lib.RingBuffer
import UubangIot.Lib.Transition

/-!
# The thread pool

`libThreadPool.c` as a system of threads: the workers, the callers of `libThreadPool_TaskAdd`, the
admin thread and the caller of `libThreadPool_destroy`. A region under `pool->lock` or
`pool->thread_counter` is one step. The scheduler's choices are part of the step: which thread
moves, which waiter `pthread_cond_signal` wakes, and which of the threads that have ended
`pthread_kill` reports as gone.
-/

namespace UubangIot.LibThreadPool

open RingBuffer Transition

/-! ## The pool -/

/-- `DEFAULT_THREAD_NUM`. -/
def defaultThreadNum : Nat := 5
/-- `MIN_WAIT_TASK_NUM`. -/
def minWaitTaskNum : Nat := 5

/-- `TaskData_t`: a function and its argument. -/
structure TaskData where
  /-- `task_func`. -/
  taskFunc : Nat
  /-- `arg`. -/
  arg : Nat
  deriving DecidableEq, Repr

/-- `threadPool_t`. Threads are numbered in the order they are created. -/
structure ThreadPool where
  /-- `threads`. -/
  threads : List (Option Nat)
  /-- `task_queue`, `queue_front`, `queue_rear`, `queue_size` and `queue_max_size`. -/
  taskQueue : Buffer TaskData
  /-- `min_thr_num`. -/
  minThrNum : Nat
  /-- `max_thr_num`. -/
  maxThrNum : Nat
  /-- `live_thr_num`. -/
  liveThrNum : Nat
  /-- `busy_thr_num`. -/
  busyThrNum : Nat
  /-- `wait_exit_thr_num`. -/
  waitExitThrNum : Nat
  /-- `shutdown`. -/
  shutdown : Bool

/-! ## Threads -/

/-- Where a worker is. -/
inductive WorkerPc
  /-- Before `pthread_mutex_lock`. -/
  | ready
  /-- In `pthread_cond_wait` on `queue_not_empty`. -/
  | waiting
  /-- Woken in `pthread_cond_wait`, before it has the lock again. -/
  | woken
  /-- With a task, before it counts as busy. -/
  | taken (task : TaskData)
  /-- Executing a task. -/
  | running (task : TaskData)
  /-- After a task, before it stops counting as busy. -/
  | finished
  /-- Before `pthread_exit`. -/
  | exiting
  /-- Terminated. -/
  | exited
  deriving DecidableEq, Repr

/-- Where a caller of `libThreadPool_TaskAdd` is. -/
inductive ProducerPc
  /-- In `pthread_cond_wait` on `queue_not_full`. -/
  | waiting (task : TaskData)
  /-- Woken in `pthread_cond_wait`, before it has the lock again. -/
  | woken (task : TaskData)
  /-- Returned. -/
  | returned (code : Int)
  deriving DecidableEq, Repr

/-- Where the admin thread is. -/
inductive AdminPc
  /-- At `while (!pool->shutdown)`. -/
  | top
  /-- In `sleep`. -/
  | asleep
  /-- With `g_queue_size` and `g_live_thr_num`. -/
  | sized
  /-- With `g_busy_thr_num` too. -/
  | measured
  /-- After new threads may have been created. -/
  | grown
  /-- Before some more signals. -/
  | signalling (left : Nat)
  /-- Terminated. -/
  | done
  deriving DecidableEq, Repr

/-- Where the caller of `libThreadPool_destroy` is. -/
inductive DestroyPc
  /-- Not called. -/
  | absent
  /-- At `pthread_join(pool->admin_tid)`. -/
  | joiningAdmin
  /-- In the loop of `pthread_cond_broadcast`. -/
  | broadcasting (i : Nat)
  /-- In the loop of `pthread_join`. -/
  | joining (i : Nat)
  /-- After `threadpool_free`. -/
  | freed
  deriving DecidableEq, Repr

/-- The pool and its threads. -/
structure PoolThreads where
  /-- The pool. -/
  pool : ThreadPool
  /-- The workers that were ever created. -/
  workers : List WorkerPc
  /-- The calls of `libThreadPool_TaskAdd`. -/
  producers : List ProducerPc
  /-- The admin thread. -/
  admin : AdminPc
  /-- `g_queue_size`. -/
  gQueueSize : Nat
  /-- `g_live_thr_num`. -/
  gLiveThrNum : Nat
  /-- `g_busy_thr_num`. -/
  gBusyThrNum : Nat
  /-- The caller of `libThreadPool_destroy`. -/
  destroyer : DestroyPc
  /-- The tasks that were accepted, in order. -/
  accepted : List TaskData
  /-- The tasks that were taken by workers, in order. -/
  taken : List TaskData

/-- `libThreadPool_Init`; more workers than `threads` has room for are written past its end. -/
def libThreadPoolInit (minThrNum maxThrNum queueMaxSize : Nat) : Option PoolThreads :=
  if maxThrNum < minThrNum then none
  else some {
    pool := {
      threads := (List.range minThrNum).map some ++ List.replicate (maxThrNum - minThrNum) none
      taskQueue := .empty ⟨0, 0⟩ queueMaxSize
      minThrNum, maxThrNum, liveThrNum := minThrNum, busyThrNum := 0, waitExitThrNum := 0
      shutdown := false }
    workers := List.replicate minThrNum .ready
    producers := [], admin := .top, gQueueSize := 0, gLiveThrNum := 0, gBusyThrNum := 0
    destroyer := .absent, accepted := [], taken := [] }

/-! ## Condition variables -/

/-- `pthread_cond_signal(&pool->queue_not_empty)`: one waiting worker is woken, if there is one. -/
def signalNotEmpty (workers : List WorkerPc) : Option Nat → Option (List WorkerPc)
  | some w => if workers[w]? = some .waiting then some (workers.set w .woken) else none
  | none => if .waiting ∈ workers then none else some workers

/-- `pthread_cond_broadcast(&pool->queue_not_empty)`: all waiting workers are woken. -/
def broadcastNotEmpty (workers : List WorkerPc) : List WorkerPc :=
  workers.map fun pc => if pc = .waiting then .woken else pc

/-- A caller that waits. -/
def ProducerPc.waits : ProducerPc → Bool
  | .waiting _ => true
  | .woken _ => false
  | .returned _ => false

/-- A caller that has been woken. -/
def ProducerPc.wake : ProducerPc → ProducerPc
  | .waiting task => .woken task
  | .woken task => .woken task
  | .returned code => .returned code

/-- `pthread_cond_signal(&pool->queue_not_full)`: one waiting caller is woken, if there is one. -/
def signalNotFull (producers : List ProducerPc) : Option Nat → Option (List ProducerPc)
  | some i =>
    if (producers[i]?).any ProducerPc.waits then some (producers.modify i ProducerPc.wake) else none
  | none => if producers.any ProducerPc.waits then none else some producers

namespace PoolThreads

variable (state : PoolThreads)

/-- The state with a worker somewhere else. -/
def setWorker (w : Nat) (pc : WorkerPc) : PoolThreads :=
  { state with workers := state.workers.set w pc }

/-! ## Adding tasks -/

/-- `libThreadPool_TaskAdd` from where it has the lock: the state, and where the caller is. -/
def addTask (task : TaskData) (signal : Option Nat) : Option (PoolThreads × ProducerPc) :=
  if state.pool.taskQueue.capacity ≤ state.pool.taskQueue.size ∧ state.pool.shutdown = false then
    some (state, .waiting task)
  else if state.pool.shutdown then some (state, .returned (-1))
  else do
    let workers ← signalNotEmpty state.workers signal
    return ({ state with
      pool := { state.pool with taskQueue := state.pool.taskQueue.push task }
      workers, accepted := state.accepted ++ [task] }, .returned 0)

/-- A call of `libThreadPool_TaskAdd`. -/
def libThreadPoolTaskAdd (task : TaskData) (signal : Option Nat) : Option PoolThreads := do
  let (state, pc) ← state.addTask task signal
  return { state with producers := state.producers ++ [pc] }

/-- A caller goes on after `pthread_cond_wait`. -/
def resumeTaskAdd (i : Nat) (signal : Option Nat) : Option PoolThreads :=
  match state.producers[i]? with
  | some (.woken task) => do
    let (state, pc) ← state.addTask task signal
    return { state with producers := state.producers.set i pc }
  | _ => none

/-! ## Workers -/

/-- A worker at `while ((pool->queue_size == 0) && (!pool->shutdown))`, with the lock: it waits,
exits or takes a task. -/
def takeTask (w : Nat) (signal : Option Nat) : Option PoolThreads :=
  if state.pool.taskQueue.size = 0 ∧ state.pool.shutdown = false then
    some (state.setWorker w .waiting)
  else if state.pool.shutdown then some (state.setWorker w .exiting)
  else do
    let task := state.pool.taskQueue.first
    let producers ← signalNotFull state.producers signal
    return { state.setWorker w (.taken task) with
      pool := { state.pool with taskQueue := state.pool.taskQueue.pop }
      producers, taken := state.taken ++ [task] }

/-- A worker after `pthread_cond_wait`, with the lock: it may have to exit. -/
def wakeUp (w : Nat) (signal : Option Nat) : Option PoolThreads :=
  if 0 < state.pool.waitExitThrNum then
    let pool := { state.pool with waitExitThrNum := state.pool.waitExitThrNum - 1 }
    if pool.minThrNum < pool.liveThrNum then
      some { state.setWorker w .exiting with
        pool := { pool with liveThrNum := pool.liveThrNum - 1 } }
    else takeTask { state with pool } w signal
  else state.takeTask w signal

/-- The next step of `work_thread`. -/
def workThread (w : Nat) (signal : Option Nat) : Option PoolThreads :=
  match state.workers[w]? with
  | some .ready => state.takeTask w signal
  | some .woken => state.wakeUp w signal
  | some (.taken task) => some { state.setWorker w (.running task) with
      pool := { state.pool with busyThrNum := state.pool.busyThrNum + 1 } }
  | some (.running _) => some (state.setWorker w .finished)
  | some .finished => some { state.setWorker w .ready with
      pool := { state.pool with busyThrNum := state.pool.busyThrNum - 1 } }
  | some .exiting => some (state.setWorker w .exited)
  | some .waiting => none
  | some .exited => none
  | none => none

/-! ## The admin thread -/

/-- The loop that creates threads, over `threads` from some index on: the entries, and how many
threads are created. An entry is free when it is zero or its thread is reported as gone. -/
def createLoop (maxThrNum : Nat) (gone : List Nat) :
    (threads : List (Option Nat)) → (add live tid : Nat) → List (Option Nat) × Nat
  | [], _, _, _ => ([], 0)
  | entry :: threads, add, live, tid =>
    if add < defaultThreadNum ∧ live < maxThrNum then
      if entry.all (· ∈ gone) then
        let (threads, created) := createLoop maxThrNum gone threads (add + 1) (live + 1) (tid + 1)
        (some tid :: threads, created + 1)
      else
        let (threads, created) := createLoop maxThrNum gone threads add live tid
        (entry :: threads, created)
    else (entry :: threads, 0)

/-- New threads are created when tasks are waiting. -/
def createThreads (gone : List Nat) : Option PoolThreads :=
  if minWaitTaskNum ≤ state.gQueueSize ∧ state.gLiveThrNum ≤ state.pool.maxThrNum then
    if ∀ tid ∈ gone, state.workers[tid]? = some .exited then
      let (threads, created) := createLoop state.pool.maxThrNum gone state.pool.threads 0
        state.pool.liveThrNum state.workers.length
      some { state with
        pool := { state.pool with threads, liveThrNum := state.pool.liveThrNum + created }
        workers := state.workers ++ List.replicate created .ready, admin := .grown }
    else none
  else some { state with admin := .grown }

/-- The next step of `admin_thread`. -/
def adminThread (signal : Option Nat) (gone : List Nat) : Option PoolThreads :=
  match state.admin with
  | .top => some { state with admin := if state.pool.shutdown then .done else .asleep }
  | .asleep => some { state with
      gQueueSize := state.pool.taskQueue.size, gLiveThrNum := state.pool.liveThrNum
      admin := .sized }
  | .sized => some { state with gBusyThrNum := state.pool.busyThrNum, admin := .measured }
  | .measured => state.createThreads gone
  | .grown =>
    if state.gBusyThrNum * 2 < state.gLiveThrNum ∧ state.pool.minThrNum < state.gLiveThrNum then
      some { state with
        pool := { state.pool with waitExitThrNum := defaultThreadNum }
        admin := .signalling defaultThreadNum }
    else some { state with admin := .top }
  | .signalling 0 => some { state with admin := .top }
  | .signalling (left + 1) => do
    let workers ← signalNotEmpty state.workers signal
    return { state with workers, admin := .signalling left }
  | .done => none

/-! ## Destruction -/

/-- The next step of `libThreadPool_destroy` after `pool->shutdown = 1`. -/
def libThreadPoolDestroy : Option PoolThreads :=
  match state.destroyer with
  | .joiningAdmin =>
    if state.admin = .done then some { state with destroyer := .broadcasting 0 } else none
  | .broadcasting i =>
    if i < state.pool.liveThrNum then some { state with
      workers := broadcastNotEmpty state.workers, destroyer := .broadcasting (i + 1) }
    else some { state with destroyer := .joining 0 }
  | .joining i =>
    if i < state.pool.liveThrNum then
      if (state.pool.threads[i]?.join).all fun tid => state.workers[tid]? = some .exited then
        some { state with destroyer := .joining (i + 1) }
      else none
    else some { state with destroyer := .freed }
  | .absent => none
  | .freed => none

end PoolThreads

/-! ## Runs -/

/-- A step of one of the threads, with what the scheduler chooses. -/
inductive Move
  /-- A call of `libThreadPool_TaskAdd`. -/
  | taskAdd (task : TaskData) (signal : Option Nat)
  /-- A caller of `libThreadPool_TaskAdd` that was woken goes on. -/
  | resume (i : Nat) (signal : Option Nat)
  /-- A worker. -/
  | work (w : Nat) (signal : Option Nat)
  /-- The admin thread. -/
  | admin (signal : Option Nat) (gone : List Nat)
  /-- A call of `libThreadPool_destroy`. -/
  | destroy
  /-- The caller of `libThreadPool_destroy` goes on. -/
  | destroying
  deriving DecidableEq, Repr

/-- The state after a step; no thread can use a pool that is freed. -/
def PoolThreads.move (state : PoolThreads) (label : Move) : Option PoolThreads :=
  if state.destroyer = .freed then none
  else
    match label with
    | .taskAdd task signal => state.libThreadPoolTaskAdd task signal
    | .resume i signal => state.resumeTaskAdd i signal
    | .work w signal => state.workThread w signal
    | .admin signal gone => state.adminThread signal gone
    | .destroy =>
      if state.destroyer = .absent then some { state with
        pool := { state.pool with shutdown := true }, destroyer := .joiningAdmin }
      else none
    | .destroying => state.libThreadPoolDestroy

/-- The threads of a pool. -/
def poolThreads : System PoolThreads Move := ⟨PoolThreads.move⟩

end UubangIot.LibThreadPool
