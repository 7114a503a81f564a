import UubangIot.Verif.StrandedTasks

/-!
# The number of workers

The admin thread decides on values it has sampled, but what it does under the lock reads
`live_thr_num` again: it creates threads while that is below the maximum. A worker exits on the quota
only while it is above the minimum. So the bounds hold however long the decisions wait, and the number
is that of the workers that were created and have not left.
-/

namespace UubangIot.LibThreadPool

open RingBuffer Transition

/-- The workers that have not taken the exit branch. -/
def PoolThreads.living (state : PoolThreads) : Nat := state.workers.countP WorkerPc.lives

/-- Before `shutdown` the number of workers is within its bounds and right. -/
structure Staffed (minThrNum maxThrNum : Nat) (state : PoolThreads) : Prop where
  /-- `min_thr_num` is what it was. -/
  least : state.pool.minThrNum = minThrNum
  /-- So is `max_thr_num`. -/
  most : state.pool.maxThrNum = maxThrNum
  /-- The bounds. -/
  bounded : minThrNum ≤ state.pool.liveThrNum ∧ state.pool.liveThrNum ≤ maxThrNum
  /-- The number. -/
  counted : state.pool.shutdown = false → state.pool.liveThrNum = state.living

variable {minThrNum maxThrNum queueMaxSize : Nat} {state next start : PoolThreads} {label : Move}

/-! ## Counts -/

/-- A worker moves on. -/
theorem countP_set_lives {workers : List WorkerPc} {w : Nat} {before : WorkerPc} (after : WorkerPc)
    (here : workers[w]? = some before) :
    (workers.set w after).countP WorkerPc.lives + (if before.lives then 1 else 0) =
      workers.countP WorkerPc.lives + if after.lives then 1 else 0 := by
  obtain ⟨inside, same⟩ := List.getElem?_eq_some_iff.mp here
  rw [List.countP_set inside, same]
  have member : before ∈ workers := List.mem_of_getElem? here
  split
  · rename_i lived
    have positive : 0 < workers.countP WorkerPc.lives := List.countP_pos_iff.mpr ⟨before, member, lived⟩
    omega
  · omega

/-- A worker moves on and lives as before. -/
theorem countP_set_same {workers : List WorkerPc} {w : Nat} {before after : WorkerPc}
    (here : workers[w]? = some before) (same : after.lives = before.lives) :
    (workers.set w after).countP WorkerPc.lives = workers.countP WorkerPc.lives := by
  have moved := countP_set_lives after here
  rw [same] at moved
  exact Nat.add_right_cancel moved

/-- A signal keeps the number. -/
theorem countP_signal {workers after : List WorkerPc} {signal : Option Nat}
    (signalled : signalNotEmpty workers signal = some after) :
    after.countP WorkerPc.lives = workers.countP WorkerPc.lives := by
  rcases signalNotEmpty_cases signalled with ⟨w, -, waiting, rfl⟩ | ⟨-, -, rfl⟩
  · exact countP_set_same waiting rfl
  · rfl

/-- Threads are created up to the maximum. -/
theorem createLoop_bounded {gone : List Nat} {threads after : List (Option Nat)}
    {add live tid count : Nat} (below : live ≤ maxThrNum)
    (looped : PoolThreads.createLoop maxThrNum gone threads add live tid = (after, count)) :
    live + count ≤ maxThrNum := by
  induction threads generalizing add live tid after count with
  | nil =>
    cases looped
    exact below
  | cons entry threads ih =>
    rw [PoolThreads.createLoop] at looped
    split at looped
    · rename_i room
      split at looped
      · generalize rest : PoolThreads.createLoop _ _ _ _ _ _ = later at looped
        obtain ⟨kept, created⟩ := later
        cases looped
        have := ih room.2 rest
        omega
      · generalize rest : PoolThreads.createLoop _ _ _ _ _ _ = later at looped
        obtain ⟨kept, created⟩ := later
        cases looped
        exact ih below rest
    · cases looped
      exact below

/-- A broadcast keeps the number. -/
theorem countP_broadcast (workers : List WorkerPc) :
    (broadcastNotEmpty workers).countP WorkerPc.lives = workers.countP WorkerPc.lives := by
  rw [broadcastNotEmpty, List.countP_map]
  congr 1
  funext pc
  cases pc <;> rfl

/-! ## Steps -/

/-- A step that keeps the number of workers. -/
theorem Staffed.frame (staffed : Staffed minThrNum maxThrNum state)
    (least : next.pool.minThrNum = state.pool.minThrNum)
    (most : next.pool.maxThrNum = state.pool.maxThrNum)
    (live : next.pool.liveThrNum = state.pool.liveThrNum)
    (opened : next.pool.shutdown = false → state.pool.shutdown = false)
    (living : next.pool.shutdown = false → next.living = state.living) :
    Staffed minThrNum maxThrNum next where
  least := least.trans staffed.least
  most := most.trans staffed.most
  bounded := live ▸ staffed.bounded
  counted open' := by
    rw [live, living open']
    exact staffed.counted (opened open')

/-- A worker at the head of its loop lives. -/
theorem living_set {w : Nat} {after : WorkerPc}
    (ready : state.workers[w]? = some .ready ∨ state.workers[w]? = some .woken)
    (lives : after.lives = true) :
    (state.workers.set w after).countP WorkerPc.lives = state.living := by
  rcases ready with here | here
  · exact countP_set_same here lives
  · exact countP_set_same here lives

/-- A step keeps the number of workers between the minimum and the maximum. -/
theorem Staffed.step (staffed : Staffed minThrNum maxThrNum state)
    (stepped : Stepped state label next) : Staffed minThrNum maxThrNum next := by
  cases stepped with
  | called label task signal producers adds =>
    exact staffed.frame rfl rfl rfl id fun _ => rfl
  | accepted label task signal producers workers adds room opened signalled =>
    exact staffed.frame rfl rfl rfl id fun _ => countP_signal signalled
  | waited w signal quota ready empty opened =>
    exact staffed.frame rfl rfl rfl id fun _ => living_set ready rfl
  | stopped w signal quota ready less closed =>
    refine staffed.frame rfl rfl rfl id fun opened => ?_
    rw [show state.pool.shutdown = false from opened] at closed
    contradiction
  | took w signal quota producers filled opened ready =>
    exact staffed.frame rfl rfl rfl id fun _ => living_set ready rfl
  | quit w signal woken quota many =>
    have bounded := staffed.bounded
    have least := staffed.least
    have leaves := countP_set_lives .exiting woken
    refine ⟨staffed.least, staffed.most, ?_, fun opened => ?_⟩
    · change minThrNum ≤ state.pool.liveThrNum - 1 ∧ state.pool.liveThrNum - 1 ≤ maxThrNum
      omega
    · have counted := staffed.counted opened
      change state.pool.liveThrNum - 1 = (state.workers.set w .exiting).countP WorkerPc.lives
      rw [PoolThreads.living] at counted
      change _ + 1 = _ + 0 at leaves
      omega
  | worked w signal before after busy here works =>
    refine staffed.frame rfl rfl rfl id fun _ => countP_set_same here ?_
    cases works with
    | begins task => rfl
    | returns task => rfl
    | ends => rfl
  | exited w signal here =>
    exact staffed.frame rfl rfl rfl id fun _ => countP_set_same here rfl
  | managed signal gone quota queue live busy admin runs ends =>
    exact staffed.frame rfl rfl rfl id fun _ => rfl
  | created signal gone threads count runs ended looped =>
    have bounded := staffed.bounded
    rw [staffed.most] at looped
    have room := createLoop_bounded bounded.2 looped
    refine ⟨staffed.least, staffed.most, ⟨?_, room⟩, fun opened => ?_⟩
    · exact bounded.1.trans (Nat.le_add_right _ _)
    · change state.pool.liveThrNum + count =
        (state.workers ++ List.replicate count WorkerPc.ready).countP WorkerPc.lives
      rw [List.countP_append, List.countP_replicate, staffed.counted opened]
      rfl
  | signalled signal gone left workers runs signals =>
    exact staffed.frame rfl rfl rfl id fun _ => countP_signal signals
  | destroyed absent =>
    exact staffed.frame rfl rfl rfl (fun closed => nomatch closed) fun closed => nomatch closed
  | joinedAdmin here done => exact staffed.frame rfl rfl rfl id fun _ => rfl
  | broadcast i here inside =>
    exact staffed.frame rfl rfl rfl id fun _ => countP_broadcast state.workers
  | toldAll i here past => exact staffed.frame rfl rfl rfl id fun _ => rfl
  | joined i here inside ended => exact staffed.frame rfl rfl rfl id fun _ => rfl
  | freed i here past => exact staffed.frame rfl rfl rfl id fun _ => rfl

/-- `libThreadPool_Init` creates as many workers as the minimum says. -/
theorem staffed_libThreadPoolInit
    (created : libThreadPoolInit minThrNum maxThrNum queueMaxSize = some start) :
    Staffed minThrNum maxThrNum start := by
  rw [libThreadPoolInit] at created
  split at created
  · contradiction
  · rename_i ordered
    obtain rfl := Option.some.inj created
    refine ⟨rfl, rfl, ⟨le_rfl, Nat.not_lt.mp ordered⟩, fun _ => ?_⟩
    rw [PoolThreads.living, List.countP_replicate]
    rfl

/-- In every interleaving, before `shutdown`, the number of workers is between its bounds and that of
the workers that were created and have not taken the exit branch. -/
theorem worker_count_bounds
    (created : libThreadPoolInit minThrNum maxThrNum queueMaxSize = some start)
    (labels : List Move) :
    poolThreads.Always (fun state => state.pool.shutdown = false →
      state.pool.minThrNum = minThrNum ∧ state.pool.maxThrNum = maxThrNum ∧
      minThrNum ≤ state.pool.liveThrNum ∧ state.pool.liveThrNum ≤ maxThrNum ∧
      state.pool.liveThrNum = state.workers.countP WorkerPc.lives) start labels := by
  refine System.always_of_preserved ?_ ?_ (staffed_libThreadPoolInit created)
  · intro state staffed opened
    exact ⟨staffed.least, staffed.most, staffed.bounded.1, staffed.bounded.2, staffed.counted opened⟩
  · intro state label next staffed stepped
    exact staffed.step (stepped_move stepped).2

/-- Five tasks wait while the only worker is not running, and the admin thread makes a round. -/
def growingRun : List Move :=
  List.replicate 5 (.taskAdd ⟨1, 10⟩ none) ++ List.replicate 4 (.admin none [])

/-- Two threads are created along that run, up to the maximum of three. -/
theorem worker_count_bounds_growing : ∃ start, libThreadPoolInit 1 3 10 = some start ∧
    (poolThreads.run start growingRun).any (fun state =>
      state.pool.liveThrNum = 3 ∧ state.workers.length = 3) = true ∧
    poolThreads.Always (fun state => state.pool.shutdown = false →
      state.pool.minThrNum = 1 ∧ state.pool.maxThrNum = 3 ∧
      1 ≤ state.pool.liveThrNum ∧ state.pool.liveThrNum ≤ 3 ∧
      state.pool.liveThrNum = state.workers.countP WorkerPc.lives) start growingRun :=
  ⟨_, rfl, by decide +kernel, @worker_count_bounds 1 3 10 _ rfl growingRun⟩

end UubangIot.LibThreadPool
