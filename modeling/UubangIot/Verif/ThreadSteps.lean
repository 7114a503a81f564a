import UubangIot.Server.LibThreadPool

/-!
# What the pool's threads can do

Every step of the system of `libThreadPool.c` is one of the steps of `Stepped`, guards included. The
results about the pool split a step into these and do not unfold the threads again.
-/

namespace UubangIot.LibThreadPool

open RingBuffer Transition

/-- A caller of `libThreadPool_TaskAdd` has the lock: a new one, or one that was woken. -/
def PoolThreads.Adds (state : PoolThreads) (label : Move) (task : TaskData)
    (signal : Option Nat) : Prop :=
  label = .taskAdd task signal ∨
    ∃ i, label = .resume i signal ∧ state.producers[i]? = some (.woken task)

/-- The steps of a worker around a task, which need no lock of the queue. -/
inductive WorkerPc.Works : WorkerPc → WorkerPc → Prop
  /-- It counts as busy. -/
  | begins (task : TaskData) : Works (.taken task) (.running task)
  /-- The task returns. -/
  | returns (task : TaskData) : Works (.running task) .finished
  /-- It stops counting as busy. -/
  | ends : Works .finished .ready

/-- The steps of the threads. -/
inductive Stepped (state : PoolThreads) : Move → PoolThreads → Prop
  /-- A caller of `libThreadPool_TaskAdd` waits, or returns because of `shutdown`. -/
  | called (label : Move) (task : TaskData) (signal : Option Nat) (producers : List ProducerPc)
      (adds : state.Adds label task signal) : Stepped state label { state with producers }
  /-- A task is added to a queue with room, and a worker is signalled. -/
  | accepted (label : Move) (task : TaskData) (signal : Option Nat)
      (producers : List ProducerPc) (workers : List WorkerPc)
      (adds : state.Adds label task signal)
      (room : state.pool.taskQueue.size < state.pool.taskQueue.capacity)
      (opened : state.pool.shutdown = false)
      (signalled : signalNotEmpty state.workers signal = some workers) :
      Stepped state label { state with
        pool := { state.pool with taskQueue := state.pool.taskQueue.push task }
        workers, producers, accepted := state.accepted ++ [task] }
  /-- A worker finds no task and waits. -/
  | waited (w : Nat) (signal : Option Nat) (quota : Nat)
      (ready : state.workers[w]? = some .ready ∨ state.workers[w]? = some .woken)
      (empty : state.pool.taskQueue.size = 0) (opened : state.pool.shutdown = false) :
      Stepped state (.work w signal) { state.setWorker w .waiting with
        pool := { state.pool with waitExitThrNum := quota } }
  /-- A worker finds `shutdown` and exits. -/
  | stopped (w : Nat) (signal : Option Nat) (quota : Nat)
      (ready : state.workers[w]? = some .ready ∨ state.workers[w]? = some .woken)
      (less : quota ≤ state.pool.waitExitThrNum) (closed : state.pool.shutdown = true) :
      Stepped state (.work w signal) { state.setWorker w .exiting with
        pool := { state.pool with waitExitThrNum := quota } }
  /-- A worker takes the first task. -/
  | took (w : Nat) (signal : Option Nat) (quota : Nat) (producers : List ProducerPc)
      (filled : 0 < state.pool.taskQueue.size) (opened : state.pool.shutdown = false)
      (ready : state.workers[w]? = some .ready ∨ state.workers[w]? = some .woken) :
      Stepped state (.work w signal) { state.setWorker w (.taken state.pool.taskQueue.first) with
        pool := { state.pool with
          taskQueue := state.pool.taskQueue.pop, waitExitThrNum := quota }
        producers, taken := state.taken ++ [state.pool.taskQueue.first] }
  /-- A worker that has been woken exits on the quota. -/
  | quit (w : Nat) (signal : Option Nat) (woken : state.workers[w]? = some .woken)
      (quota : 0 < state.pool.waitExitThrNum)
      (many : state.pool.minThrNum < state.pool.liveThrNum) :
      Stepped state (.work w signal) { state.setWorker w .exiting with
        pool := { state.pool with
          waitExitThrNum := state.pool.waitExitThrNum - 1
          liveThrNum := state.pool.liveThrNum - 1 } }
  /-- A worker goes on with its task. -/
  | worked (w : Nat) (signal : Option Nat) (before after : WorkerPc) (busy : Nat)
      (here : state.workers[w]? = some before) (works : before.Works after) :
      Stepped state (.work w signal) { state.setWorker w after with
        pool := { state.pool with busyThrNum := busy } }
  /-- A worker terminates. -/
  | exited (w : Nat) (signal : Option Nat) (here : state.workers[w]? = some .exiting) :
      Stepped state (.work w signal) (state.setWorker w .exited)
  /-- The admin thread measures, sets the quota, starts a round or ends. -/
  | managed (signal : Option Nat) (gone : List Nat) (quota queue live busy : Nat) (admin : AdminPc)
      (runs : state.admin ≠ .done) (ends : admin = .done → state.pool.shutdown = true) :
      Stepped state (.admin signal gone) { state with
        pool := { state.pool with waitExitThrNum := quota }
        gQueueSize := queue, gLiveThrNum := live, gBusyThrNum := busy, admin }
  /-- The admin thread creates threads. -/
  | created (signal : Option Nat) (gone : List Nat) (threads : List (Option Nat)) (count : Nat)
      (runs : state.admin = .measured) (ended : ∀ tid ∈ gone, state.workers[tid]? = some .exited)
      (looped : PoolThreads.createLoop state.pool.maxThrNum gone state.pool.threads 0
        state.pool.liveThrNum state.workers.length = (threads, count)) :
      Stepped state (.admin signal gone) { state with
        pool := { state.pool with threads, liveThrNum := state.pool.liveThrNum + count }
        workers := state.workers ++ List.replicate count .ready, admin := .grown }
  /-- The admin thread signals. -/
  | signalled (signal : Option Nat) (gone : List Nat) (left : Nat) (workers : List WorkerPc)
      (runs : state.admin = .signalling (left + 1))
      (signals : signalNotEmpty state.workers signal = some workers) :
      Stepped state (.admin signal gone) { state with workers, admin := .signalling left }
  /-- `libThreadPool_destroy` sets `shutdown`. -/
  | destroyed (absent : state.destroyer = .absent) :
      Stepped state .destroy { state with
        pool := { state.pool with shutdown := true }, destroyer := .joiningAdmin }
  /-- The admin thread is joined. -/
  | joinedAdmin (here : state.destroyer = .joiningAdmin) (done : state.admin = .done) :
      Stepped state .destroying { state with destroyer := .broadcasting 0 }
  /-- All waiting workers are woken. -/
  | broadcast (i : Nat) (here : state.destroyer = .broadcasting i)
      (inside : i < state.pool.liveThrNum) :
      Stepped state .destroying { state with
        workers := broadcastNotEmpty state.workers, destroyer := .broadcasting (i + 1) }
  /-- The last broadcast has been made. -/
  | toldAll (i : Nat) (here : state.destroyer = .broadcasting i)
      (past : state.pool.liveThrNum ≤ i) :
      Stepped state .destroying { state with destroyer := .joining 0 }
  /-- The thread in a slot is joined. -/
  | joined (i : Nat) (here : state.destroyer = .joining i) (inside : i < state.pool.liveThrNum)
      (ended : ∀ tid, state.pool.threads[i]? = some (some tid) →
        state.workers[tid]? = some .exited) :
      Stepped state .destroying { state with destroyer := .joining (i + 1) }
  /-- The pool is freed. -/
  | freed (i : Nat) (here : state.destroyer = .joining i) (past : state.pool.liveThrNum ≤ i) :
      Stepped state .destroying { state with destroyer := .freed }

section

variable {state next : PoolThreads} {task : TaskData} {pc : ProducerPc} {signal : Option Nat}
  {gone : List Nat} {w i : Nat} {label : Move}

/-- Adding a task, wherever the caller is then. -/
theorem stepped_addTask {producers : List ProducerPc} (adds : state.Adds label task signal)
    (added : state.addTask task signal = some (next, pc)) :
    Stepped state label { next with producers } := by
  rw [PoolThreads.addTask] at added
  split at added
  · simp only [Option.some.injEq, Prod.mk.injEq] at added
    obtain ⟨rfl, -⟩ := added
    exact .called label task signal producers adds
  · rename_i room
    split at added
    · simp only [Option.some.injEq, Prod.mk.injEq] at added
      obtain ⟨rfl, -⟩ := added
      exact .called label task signal producers adds
    · rename_i opened
      obtain ⟨workers, signalled, added⟩ := Option.bind_eq_some_iff.mp added
      simp only [Option.pure_def, Option.some.injEq, Prod.mk.injEq] at added
      obtain ⟨rfl, -⟩ := added
      rw [Bool.not_eq_true] at opened
      rw [not_and_or, not_le] at room
      have free := room.resolve_right fun closed => closed opened
      exact .accepted label task signal producers workers adds free opened signalled

/-- A worker at the head of its loop, with any smaller quota. -/
theorem stepped_takeTask {quota : Nat} (less : quota ≤ state.pool.waitExitThrNum)
    (ready : state.workers[w]? = some .ready ∨ state.workers[w]? = some .woken)
    (took : PoolThreads.takeTask { state with
      pool := { state.pool with waitExitThrNum := quota } } w signal = some next) :
    Stepped state (.work w signal) next := by
  rw [PoolThreads.takeTask] at took
  split at took
  · rename_i empty
    obtain rfl := Option.some.inj took
    exact .waited w signal quota ready empty.1 empty.2
  · rename_i filled
    split at took
    · rename_i closed
      obtain rfl := Option.some.inj took
      exact .stopped w signal quota ready less closed
    · rename_i opened
      obtain ⟨producers, -, took⟩ := Option.bind_eq_some_iff.mp took
      obtain rfl := Option.some.inj took
      rw [Bool.not_eq_true] at opened
      rw [not_and_or] at filled
      have some := Nat.pos_of_ne_zero (filled.resolve_right fun closed => closed opened)
      exact .took w signal quota producers some opened ready

/-- A step of a worker. -/
theorem stepped_workThread (worked : state.workThread w signal = some next) :
    Stepped state (.work w signal) next := by
  rw [PoolThreads.workThread] at worked
  split at worked
  · rename_i ready
    exact stepped_takeTask le_rfl (.inl ready) worked
  · rename_i woken
    rw [PoolThreads.wakeUp] at worked
    split at worked
    · rename_i quota
      dsimp only at worked
      split at worked
      · rename_i many
        obtain rfl := Option.some.inj worked
        exact .quit w signal woken quota many
      · exact stepped_takeTask (Nat.sub_le _ _) (.inr woken) worked
    · exact stepped_takeTask le_rfl (.inr woken) worked
  · rename_i task here
    obtain rfl := Option.some.inj worked
    exact .worked w signal _ _ _ here (.begins task)
  · rename_i task here
    obtain rfl := Option.some.inj worked
    exact .worked w signal _ _ _ here (.returns task)
  · rename_i here
    obtain rfl := Option.some.inj worked
    exact .worked w signal _ _ _ here .ends
  · rename_i here
    obtain rfl := Option.some.inj worked
    exact .exited w signal here
  · simp at worked
  · simp at worked
  · simp at worked

/-- A step of the admin thread. -/
theorem stepped_adminThread (managed : state.adminThread signal gone = some next) :
    Stepped state (.admin signal gone) next := by
  rw [PoolThreads.adminThread] at managed
  split at managed
  · rename_i here
    obtain rfl := Option.some.inj managed
    refine .managed signal gone _ _ _ _ _ (by simp [here]) fun done => ?_
    by_contra opened
    simp [opened] at done
  · rename_i here
    obtain rfl := Option.some.inj managed
    exact .managed signal gone _ _ _ _ _ (by simp [here]) (by simp)
  · rename_i here
    obtain rfl := Option.some.inj managed
    exact .managed signal gone _ _ _ _ _ (by simp [here]) (by simp)
  · rename_i here
    rw [PoolThreads.createThreads] at managed
    split at managed
    · split at managed
      · rename_i ended
        obtain rfl := Option.some.inj managed
        exact .created signal gone _ _ here ended rfl
      · simp at managed
    · obtain rfl := Option.some.inj managed
      exact .managed signal gone _ _ _ _ _ (by simp [here]) (by simp)
  · rename_i here
    split at managed
    · obtain rfl := Option.some.inj managed
      exact .managed signal gone _ _ _ _ _ (by simp [here]) (by simp)
    · obtain rfl := Option.some.inj managed
      exact .managed signal gone _ _ _ _ _ (by simp [here]) (by simp)
  · rename_i here
    obtain rfl := Option.some.inj managed
    exact .managed signal gone _ _ _ _ _ (by simp [here]) (by simp)
  · rename_i left here
    obtain ⟨workers, signals, managed⟩ := Option.bind_eq_some_iff.mp managed
    obtain rfl := Option.some.inj managed
    exact .signalled signal gone left workers here signals
  · simp at managed

/-- A step of the caller of `libThreadPool_destroy`. -/
theorem stepped_libThreadPoolDestroy (destroyed : state.libThreadPoolDestroy = some next) :
    Stepped state .destroying next := by
  rw [PoolThreads.libThreadPoolDestroy] at destroyed
  split at destroyed
  · rename_i here
    split at destroyed
    · rename_i done
      obtain rfl := Option.some.inj destroyed
      exact .joinedAdmin here done
    · simp at destroyed
  · rename_i i here
    split at destroyed
    · rename_i inside
      obtain rfl := Option.some.inj destroyed
      exact .broadcast i here inside
    · rename_i past
      obtain rfl := Option.some.inj destroyed
      exact .toldAll i here (Nat.not_lt.mp past)
  · rename_i i here
    split at destroyed
    · rename_i inside
      split at destroyed
      · rename_i ended
        obtain rfl := Option.some.inj destroyed
        refine .joined i here inside fun tid slot => ?_
        simpa [slot] using ended
      · simp at destroyed
    · rename_i past
      obtain rfl := Option.some.inj destroyed
      exact .freed i here (Nat.not_lt.mp past)
  · simp at destroyed
  · simp at destroyed

/-- Every step of the system is one of the steps above, and the pool is not freed before it. -/
theorem stepped_move (moved : state.move label = some next) :
    state.destroyer ≠ .freed ∧ Stepped state label next := by
  unfold PoolThreads.move at moved
  split at moved
  · simp at moved
  · rename_i present
    refine ⟨present, ?_⟩
    cases label with
    | taskAdd task signal =>
      obtain ⟨⟨added, pc⟩, adds, moved⟩ := Option.bind_eq_some_iff.mp moved
      obtain rfl := Option.some.inj moved
      exact stepped_addTask (.inl rfl) adds
    | resume i signal =>
      dsimp only [PoolThreads.resumeTaskAdd] at moved
      split at moved
      · rename_i task woken
        obtain ⟨⟨added, pc⟩, adds, moved⟩ := Option.bind_eq_some_iff.mp moved
        obtain rfl := Option.some.inj moved
        exact stepped_addTask (.inr ⟨i, rfl, woken⟩) adds
      · simp at moved
    | work w signal => exact stepped_workThread moved
    | admin signal gone => exact stepped_adminThread moved
    | destroy =>
      dsimp only at moved
      split at moved
      · rename_i absent
        obtain rfl := Option.some.inj moved
        exact .destroyed absent
      · simp at moved
    | destroying => exact stepped_libThreadPoolDestroy moved

/-- A signal wakes a worker that waits, and does nothing when none does. -/
theorem signalNotEmpty_cases {workers after : List WorkerPc}
    (signalled : signalNotEmpty workers signal = some after) :
    (∃ w, signal = some w ∧ workers[w]? = some .waiting ∧ after = workers.set w .woken) ∨
    (signal = none ∧ .waiting ∉ workers ∧ after = workers) := by
  cases signal with
  | some w =>
    rw [signalNotEmpty] at signalled
    split at signalled
    · rename_i waiting
      exact .inl ⟨w, rfl, waiting, (Option.some.inj signalled).symm⟩
    · simp at signalled
  | none =>
    rw [signalNotEmpty] at signalled
    split at signalled
    · simp at signalled
    · rename_i absent
      exact .inr ⟨rfl, absent, (Option.some.inj signalled).symm⟩

end

end UubangIot.LibThreadPool
