import UubangIot.Verif.ThreadSteps

/-!
# Stranded tasks

A task is stranded when the workers that have not exited all wait and none has been woken. New
tasks and requests to exit use the same condition variable, and the quota of exits outlives the
signals that announced it: a worker that is woken for a task may exit on the quota instead. These
are the steps that strand tasks.
-/

namespace UubangIot.LibThreadPool

open RingBuffer Transition

/-- A worker that is neither exiting nor terminated. -/
def WorkerPc.lives : WorkerPc → Bool
  | .exiting => false
  | .exited => false
  | _ => true

/-- A worker that lives and does not wait. -/
def WorkerPc.active : WorkerPc → Bool
  | .waiting => false
  | .exiting => false
  | .exited => false
  | _ => true

/-- Tasks are queued while every live worker is blocked on `queue_not_empty` and none of them has
been woken. -/
def PoolThreads.Stranded (state : PoolThreads) : Prop :=
  0 < state.pool.taskQueue.size ∧ ∀ pc ∈ state.workers, pc.lives = true → pc = .waiting

instance (state : PoolThreads) : Decidable state.Stranded := by
  unfold PoolThreads.Stranded
  infer_instance

/-- A worker that exits on the quota while tasks are queued leaves another worker active, and a task
that wakes no worker is accepted only while a worker lives. -/
def PoolThreads.LeavesWorker (state : PoolThreads) : Move → Prop
  | .work w _ =>
    state.workers[w]? = some .woken → 0 < state.pool.waitExitThrNum →
      state.pool.minThrNum < state.pool.liveThrNum → 0 < state.pool.taskQueue.size →
      ∃ other < state.workers.length, other ≠ w ∧
        (state.workers[other]?).any WorkerPc.active = true
  | .taskAdd _ none =>
    state.pool.taskQueue.size < state.pool.taskQueue.capacity →
      ∃ pc ∈ state.workers, pc.lives = true
  | .resume i none =>
    (∃ task, state.producers[i]? = some (.woken task)) →
      state.pool.taskQueue.size < state.pool.taskQueue.capacity →
      ∃ pc ∈ state.workers, pc.lives = true
  | _ => True

instance (state : PoolThreads) (label : Move) : Decidable (state.LeavesWorker label) :=
  match label with
  | .work _ _ => inferInstanceAs (Decidable (_ → _))
  | .taskAdd _ none => inferInstanceAs (Decidable (_ → _))
  | .taskAdd _ (some _) => .isTrue trivial
  | .resume i none =>
    match woken : state.producers[i]? with
    | some (.woken task) =>
      decidable_of_iff (state.pool.taskQueue.size < state.pool.taskQueue.capacity →
        ∃ pc ∈ state.workers, pc.lives = true)
        ⟨fun living _ => living, fun leaves => leaves ⟨task, woken⟩⟩
    | some (.waiting _) => .isTrue fun ⟨_, other⟩ => by simp [woken] at other
    | some (.returned _) => .isTrue fun ⟨_, other⟩ => by simp [woken] at other
    | none => .isTrue fun ⟨_, other⟩ => by simp [woken] at other
  | .resume _ (some _) => .isTrue trivial
  | .admin _ _ => .isTrue trivial
  | .destroy => .isTrue trivial
  | .destroying => .isTrue trivial

variable {state next start : PoolThreads} {label : Move}

/-- Some worker lives and does not wait. -/
def PoolThreads.Attended (state : PoolThreads) : Prop :=
  ∃ (w : Nat) (pc : WorkerPc), state.workers[w]? = some pc ∧ pc.active = true

/-- The active workers are the live ones that do not wait. -/
theorem WorkerPc.active_iff {pc : WorkerPc} :
    pc.active = true ↔ pc.lives = true ∧ pc ≠ .waiting := by
  cases pc <;> simp [lives, active]

/-- Tasks are not stranded when a worker is active. -/
theorem not_stranded_iff :
    ¬state.Stranded ↔ (0 < state.pool.taskQueue.size → state.Attended) := by
  constructor
  · intro fine filled
    by_contra idle
    refine fine ⟨filled, fun pc member lives => ?_⟩
    obtain ⟨w, here⟩ := List.mem_iff_getElem?.mp member
    by_contra moves
    exact idle ⟨w, pc, here, WorkerPc.active_iff.mpr ⟨lives, moves⟩⟩
  · rintro attended ⟨filled, blocked⟩
    obtain ⟨w, pc, here, active⟩ := attended filled
    obtain ⟨lives, moves⟩ := WorkerPc.active_iff.mp active
    exact moves (blocked pc (List.mem_of_getElem? here) lives)

/-- A worker that has become active attends to the tasks. -/
theorem attended_set {w : Nat} {before after : WorkerPc}
    (here : state.workers[w]? = some before) (workers : next.workers = state.workers.set w after)
    (active : after.active = true) : next.Attended := by
  refine ⟨w, after, ?_, active⟩
  rw [workers, List.getElem?_set_self]
  exact (List.getElem?_eq_some_iff.mp here).1

/-- Active workers stay active when another worker moves. -/
theorem PoolThreads.Attended.set {w : Nat} {before after : WorkerPc} (attended : state.Attended)
    (here : state.workers[w]? = some before) (workers : next.workers = state.workers.set w after)
    (idle : before.active = false) : next.Attended := by
  obtain ⟨other, pc, there, active⟩ := attended
  refine ⟨other, pc, ?_, active⟩
  have apart : w ≠ other := by
    rintro rfl
    obtain rfl := Option.some.inj (here.symm.trans there)
    simp [idle] at active
  rw [workers, List.getElem?_set_ne apart]
  exact there

/-- A signal leaves a worker active when one was, or when one lives. -/
theorem attended_signal {signal : Option Nat}
    (signalled : signalNotEmpty state.workers signal = some next.workers)
    (living : state.Attended ∨ (signal = none → ∃ pc ∈ state.workers, pc.lives = true)) :
    next.Attended := by
  obtain ⟨w, rfl, waiting, woken⟩ | ⟨rfl, absent, same⟩ := signalNotEmpty_cases signalled
  · exact attended_set waiting woken rfl
  · obtain ⟨w, pc, here, active⟩ | lives := living
    · exact ⟨w, pc, by rw [same, here], active⟩
    · obtain ⟨pc, member, lives⟩ := lives rfl
      obtain ⟨w, here⟩ := List.mem_iff_getElem?.mp member
      have moves : pc ≠ .waiting := fun waits => absent (waits ▸ member)
      exact ⟨w, pc, by rw [same, here], WorkerPc.active_iff.mpr ⟨lives, moves⟩⟩

/-- A pool that is open and whose queued tasks are attended to. -/
structure Served (state : PoolThreads) : Prop where
  /-- `shutdown` is not set. -/
  opened : state.pool.shutdown = false
  /-- `libThreadPool_destroy` was not called. -/
  absent : state.destroyer = .absent
  /-- Queued tasks have an active worker. -/
  attended : 0 < state.pool.taskQueue.size → state.Attended

/-- A new pool has no tasks. -/
theorem served_libThreadPoolInit {minThrNum maxThrNum queueMaxSize : Nat}
    (created : libThreadPoolInit minThrNum maxThrNum queueMaxSize = some start) :
    Served start := by
  rw [libThreadPoolInit] at created
  split at created
  · simp at created
  · obtain rfl := Option.some.inj created
    exact ⟨rfl, rfl, fun filled => absurd filled (Nat.lt_irrefl 0)⟩

/-- A task that wakes nobody is accepted only while a worker lives. -/
theorem lives_of_adds {task : TaskData} {signal : Option Nat}
    (leaves : state.LeavesWorker label) (adds : state.Adds label task signal)
    (room : state.pool.taskQueue.size < state.pool.taskQueue.capacity) :
    signal = none → ∃ pc ∈ state.workers, pc.lives = true := by
  rintro rfl
  obtain rfl | ⟨i, rfl, woken⟩ := adds
  · exact leaves room
  · exact leaves ⟨task, woken⟩ room

/-- Steps that leave a worker keep the tasks attended to. -/
theorem Served.step (served : Served state) (stepped : Stepped state label next)
    (open_ : label ≠ .destroy) (leaves : state.LeavesWorker label) : Served next := by
  have opened := served.opened
  have absent := served.absent
  have attended := served.attended
  cases stepped with
  | called => exact ⟨opened, absent, attended⟩
  | accepted label task signal producers workers adds room _ signalled =>
    exact ⟨opened, absent, fun _ =>
      attended_signal signalled (.inr (lives_of_adds leaves adds room))⟩
  | waited w signal quota ready empty _ =>
    exact ⟨opened, absent, fun filled => absurd empty filled.ne'⟩
  | stopped w signal quota ready less closed => simp [opened] at closed
  | took w signal quota producers filled _ ready =>
    refine ⟨opened, absent, fun _ => ?_⟩
    obtain here | here := ready
    · exact attended_set here rfl rfl
    · exact attended_set here rfl rfl
  | quit w signal woken quota many =>
    refine ⟨opened, absent, fun filled => ?_⟩
    obtain ⟨other, -, apart, active⟩ := leaves woken quota many filled
    obtain ⟨pc, there, active⟩ := (Option.any_eq_true _ _).mp active
    exact ⟨other, pc, (List.getElem?_set_ne apart.symm).trans there, active⟩
  | worked w signal before after busy here works =>
    refine ⟨opened, absent, fun _ => attended_set here rfl ?_⟩
    cases works <;> rfl
  | exited w signal here =>
    exact ⟨opened, absent, fun filled => (attended filled).set here rfl rfl⟩
  | managed => exact ⟨opened, absent, attended⟩
  | created signal gone threads count runs ended looped =>
    refine ⟨opened, absent, fun filled => ?_⟩
    obtain ⟨w, pc, here, active⟩ := attended filled
    have inside := (List.getElem?_eq_some_iff.mp here).1
    exact ⟨w, pc, (List.getElem?_append_left inside).trans here, active⟩
  | signalled signal gone left workers runs signals =>
    exact ⟨opened, absent, fun filled => attended_signal signals (.inl (attended filled))⟩
  | destroyed => exact absurd rfl open_
  | joinedAdmin here => simp [absent] at here
  | broadcast i here => simp [absent] at here
  | toldAll i here => simp [absent] at here
  | joined i here => simp [absent] at here
  | freed i here => simp [absent] at here

/-- A worker that exits on the quota as the last active one strands the queued tasks. -/
theorem stranded_quit {w : Nat} {signal : Option Nat} (absent : state.destroyer = .absent)
    (alone : ¬state.LeavesWorker (.work w signal)) :
    ∃ next, poolThreads.step state (.work w signal) = some next ∧ next.Stranded := by
  simp only [PoolThreads.LeavesWorker, Classical.not_imp, not_exists, not_and] at alone
  obtain ⟨woken, quota, many, filled, alone⟩ := alone
  refine ⟨{ state.setWorker w .exiting with
    pool := { state.pool with
      waitExitThrNum := state.pool.waitExitThrNum - 1
      liveThrNum := state.pool.liveThrNum - 1 } }, ?_, filled, fun pc member lives => ?_⟩
  · simp [poolThreads, PoolThreads.move, absent, PoolThreads.workThread, woken,
      PoolThreads.wakeUp, quota, many]
  · by_contra moves
    obtain ⟨other, there⟩ := List.mem_iff_getElem?.mp member
    have apart : other ≠ w := by
      rintro rfl
      have inside := (List.getElem?_eq_some_iff.mp woken).1
      obtain rfl := Option.some.inj ((List.getElem?_set_self inside).symm.trans there)
      simp [WorkerPc.lives] at lives
    have before := (List.getElem?_set_ne apart.symm).symm.trans there
    have inside := (List.getElem?_eq_some_iff.mp before).1
    refine alone other inside apart ?_
    rw [before]
    exact WorkerPc.active_iff.mpr ⟨lives, moves⟩

/-- A task that is accepted while no worker lives is stranded. -/
theorem stranded_add {task : TaskData} (served : Served state)
    (adds : state.Adds label task none)
    (room : state.pool.taskQueue.size < state.pool.taskQueue.capacity)
    (alone : ∀ pc ∈ state.workers, pc.lives = false) :
    ∃ next, poolThreads.step state label = some next ∧ next.Stranded := by
  have awake : .waiting ∉ state.workers := fun member => by
    simpa [WorkerPc.lives] using alone _ member
  have added : state.addTask task none = some ({ state with
      pool := { state.pool with taskQueue := state.pool.taskQueue.push task }
      accepted := state.accepted ++ [task] }, .returned 0) := by
    rw [PoolThreads.addTask, if_neg (by omega), if_neg (by simp [served.opened])]
    simp [signalNotEmpty, awake]
  have stuck : ∀ producers, PoolThreads.Stranded { state with
      pool := { state.pool with taskQueue := state.pool.taskQueue.push task }
      producers, accepted := state.accepted ++ [task] } := by
    refine fun producers => ⟨Nat.succ_pos _, fun pc member lives => ?_⟩
    simp [alone pc member] at lives
  obtain rfl | ⟨i, rfl, woken⟩ := adds
  · refine ⟨_, ?_, stuck (state.producers ++ [.returned 0])⟩
    simp [poolThreads, PoolThreads.move, served.absent, PoolThreads.libThreadPoolTaskAdd, added]
  · refine ⟨_, ?_, stuck (state.producers.set i (.returned 0))⟩
    simp [poolThreads, PoolThreads.move, served.absent, PoolThreads.resumeTaskAdd, woken, added]

/-- Every step that does not leave a worker strands tasks. -/
theorem stranded_of_not_leaves (served : Served state) (alone : ¬state.LeavesWorker label) :
    ∃ next, poolThreads.step state label = some next ∧ next.Stranded := by
  cases label with
  | work w signal => exact stranded_quit served.absent alone
  | taskAdd task signal =>
    cases signal with
    | some w => exact absurd trivial alone
    | none =>
      simp only [PoolThreads.LeavesWorker, Classical.not_imp, not_exists, not_and,
        Bool.not_eq_true] at alone
      exact stranded_add served (.inl rfl) alone.1 alone.2
  | resume i signal =>
    cases signal with
    | some w => exact absurd trivial alone
    | none =>
      simp only [PoolThreads.LeavesWorker, Classical.not_imp, not_exists, not_and,
        Bool.not_eq_true] at alone
      obtain ⟨⟨task, woken⟩, room, alone⟩ := alone
      exact stranded_add served (.inr ⟨i, rfl, woken⟩) room alone
  | admin signal gone => exact absurd trivial alone
  | destroy => exact absurd trivial alone
  | destroying => exact absurd trivial alone

/-- In every run in which `shutdown` is never set, tasks are never stranded exactly when every step
leaves a worker. -/
theorem never_stranded_iff {minThrNum maxThrNum queueMaxSize : Nat}
    (created : libThreadPoolInit minThrNum maxThrNum queueMaxSize = some start)
    {labels : List Move} (opened : poolThreads.Meets (fun _ label => label ≠ .destroy) start labels) :
    poolThreads.Always (fun state => ¬state.Stranded) start labels ↔
      poolThreads.Meets PoolThreads.LeavesWorker start labels := by
  refine System.always_iff_meets_of ?_ ?_ ?_ (served_libThreadPoolInit created) opened
  · intro state served
    exact not_stranded_iff.mpr served.attended
  · intro state label next opened leaves served stepped
    exact served.step (stepped_move stepped).2 opened leaves
  · intro state label _ served alone
    obtain ⟨next, stepped, stranded⟩ := stranded_of_not_leaves served alone
    exact ⟨next, stepped, fun fine => fine stranded⟩

/-- A round of the admin thread in which nobody waits for its signals. -/
def adminRound (steps : Nat) : List Move := List.replicate steps (.admin none [])

/-- A worker takes a task, executes it and comes back. -/
def taskRound (w : Nat) : List Move := List.replicate 4 (.work w none)

/-- A pool of one to two workers grows while five tasks wait for its first worker. The second round
of the admin thread sets a quota of five exits, whose signals find nobody waiting. The workers
execute the tasks and wait, and then another task wakes the first of them. -/
def strandingRun : List Move :=
  List.replicate 5 (.taskAdd ⟨1, 1⟩ none) ++ adminRound 5 ++ adminRound 11 ++
    (List.replicate 5 (taskRound 0)).flatten ++
    [.work 0 none, .work 1 none, .taskAdd ⟨1, 2⟩ (some 0), .work 0 none]

/-- That worker exits on the quota, and the task stays in the queue with the other one waiting. -/
theorem quota_strands_task :
    ∃ start reached, libThreadPoolInit 1 2 10 = some start ∧
      poolThreads.Meets (fun _ label => label ≠ .destroy) start strandingRun ∧
      poolThreads.run start strandingRun = some reached ∧ reached.Stranded ∧
      reached.workers = [.exiting, .waiting] ∧ reached.admin = .top := by
  have stranded : (libThreadPoolInit 1 2 10).any (fun start =>
      decide (poolThreads.Meets (fun _ label => label ≠ .destroy) start strandingRun) &&
      (poolThreads.run start strandingRun).any fun reached => decide (reached.Stranded ∧
        reached.workers = [.exiting, .waiting] ∧ reached.admin = .top)) = true := by
    decide +kernel
  obtain ⟨start, created, both⟩ := (Option.any_eq_true _ _).mp stranded
  obtain ⟨opened, reached⟩ := Bool.and_eq_true_iff.mp both
  obtain ⟨reached, run, facts⟩ := (Option.any_eq_true _ _).mp reached
  exact ⟨start, reached, created, of_decide_eq_true opened, run, of_decide_eq_true facts⟩

/-- The same run without the last task strands nothing. -/
theorem never_stranded_iff_idle :
    ∃ start, libThreadPoolInit 1 2 10 = some start ∧
      poolThreads.Always (fun state => ¬state.Stranded) start (strandingRun.take 43) := by
  have met : (libThreadPoolInit 1 2 10).any (fun start =>
      decide (poolThreads.Meets (fun _ label => label ≠ .destroy) start (strandingRun.take 43) ∧
        poolThreads.Meets PoolThreads.LeavesWorker start (strandingRun.take 43))) = true := by
    decide +kernel
  obtain ⟨start, created, both⟩ := (Option.any_eq_true _ _).mp met
  obtain ⟨opened, leaves⟩ := of_decide_eq_true both
  exact ⟨start, created, (never_stranded_iff created opened).mpr leaves⟩

end UubangIot.LibThreadPool
