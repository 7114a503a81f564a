import UubangIot.Verif.ThreadSteps

/-!
# The task queue

The ring of the pool is a lossless queue in every interleaving: the accepted tasks are the tasks
that workers took so far followed by the contents of the ring.
-/

namespace UubangIot.LibThreadPool

open RingBuffer Transition

variable {state next start : PoolThreads} {label : Move}

/-- The state of a queue that loses nothing. -/
structure Lossless (queueMaxSize : Nat) (state : PoolThreads) : Prop where
  /-- The ring is a queue. -/
  sound : state.pool.taskQueue.Sound
  /-- The length of `task_queue`. -/
  capacity : state.pool.taskQueue.capacity = queueMaxSize
  /-- Every accepted task was taken or is in the ring, in order. -/
  order : state.accepted = state.taken ++ state.pool.taskQueue.contents

variable {queueMaxSize minThrNum maxThrNum : Nat}

/-- Only the queue and the two histories matter. -/
theorem Lossless.congr (lossless : Lossless queueMaxSize state)
    (queue : next.pool.taskQueue = state.pool.taskQueue)
    (accepted : next.accepted = state.accepted) (taken : next.taken = state.taken) :
    Lossless queueMaxSize next := by
  refine ⟨?_, ?_, ?_⟩
  · rw [queue]
    exact lossless.sound
  · rw [queue]
    exact lossless.capacity
  · rw [queue, accepted, taken]
    exact lossless.order

/-- An accepted task is put behind the others. -/
theorem Lossless.push {task : TaskData} (lossless : Lossless queueMaxSize state)
    (room : state.pool.taskQueue.size < state.pool.taskQueue.capacity)
    (queue : next.pool.taskQueue = state.pool.taskQueue.push task)
    (accepted : next.accepted = state.accepted ++ [task]) (taken : next.taken = state.taken) :
    Lossless queueMaxSize next := by
  refine ⟨?_, ?_, ?_⟩
  · rw [queue]
    exact lossless.sound.push room
  · rw [queue]
    exact lossless.capacity
  · rw [queue, accepted, taken, lossless.order, lossless.sound.contents_push room,
      List.append_assoc]

/-- A worker takes the task that was accepted first. -/
theorem Lossless.pop (lossless : Lossless queueMaxSize state)
    (filled : 0 < state.pool.taskQueue.size)
    (queue : next.pool.taskQueue = state.pool.taskQueue.pop)
    (accepted : next.accepted = state.accepted)
    (taken : next.taken = state.taken ++ [state.pool.taskQueue.first]) :
    Lossless queueMaxSize next := by
  refine ⟨?_, ?_, ?_⟩
  · rw [queue]
    exact lossless.sound.pop filled
  · rw [queue]
    exact lossless.capacity
  · rw [queue, accepted, taken, lossless.order, lossless.sound.contents_pop filled,
      List.append_assoc, List.singleton_append]

/-- No step loses a task. -/
theorem Lossless.step (lossless : Lossless queueMaxSize state)
    (stepped : Stepped state label next) : Lossless queueMaxSize next := by
  cases stepped with
  | accepted label task signal producers workers adds room opened signalled =>
    exact lossless.push room rfl rfl rfl
  | took w signal quota producers filled opened ready => exact lossless.pop filled rfl rfl rfl
  | called => exact lossless.congr rfl rfl rfl
  | waited => exact lossless.congr rfl rfl rfl
  | stopped => exact lossless.congr rfl rfl rfl
  | quit => exact lossless.congr rfl rfl rfl
  | worked => exact lossless.congr rfl rfl rfl
  | exited => exact lossless.congr rfl rfl rfl
  | managed => exact lossless.congr rfl rfl rfl
  | created => exact lossless.congr rfl rfl rfl
  | signalled => exact lossless.congr rfl rfl rfl
  | destroyed => exact lossless.congr rfl rfl rfl
  | joinedAdmin => exact lossless.congr rfl rfl rfl
  | broadcast => exact lossless.congr rfl rfl rfl
  | toldAll => exact lossless.congr rfl rfl rfl
  | joined => exact lossless.congr rfl rfl rfl
  | freed => exact lossless.congr rfl rfl rfl

/-- A new pool has an empty queue. -/
theorem lossless_libThreadPoolInit (positive : 1 ≤ queueMaxSize)
    (created : libThreadPoolInit minThrNum maxThrNum queueMaxSize = some start) :
    Lossless queueMaxSize start := by
  rw [libThreadPoolInit] at created
  split at created
  · simp at created
  · obtain rfl := Option.some.inj created
    exact ⟨Buffer.sound_empty positive, rfl, rfl⟩

/-- The task queue is a lossless queue: in every interleaving of callers of `libThreadPool_TaskAdd`,
workers, the admin thread and `libThreadPool_destroy` it keeps within `queue_max_size`, its rear is
`queue_size` places behind its front, and the tasks taken are a prefix of the tasks accepted, with
the rest in the ring. -/
theorem task_queue_lossless (positive : 1 ≤ queueMaxSize)
    (created : libThreadPoolInit minThrNum maxThrNum queueMaxSize = some start)
    (labels : List Move) :
    poolThreads.Always (fun state =>
      state.pool.taskQueue.size ≤ queueMaxSize ∧
      state.pool.taskQueue.rear =
        (state.pool.taskQueue.front + state.pool.taskQueue.size) % queueMaxSize ∧
      state.taken <+: state.accepted ∧
      state.accepted = state.taken ++ state.pool.taskQueue.contents) start labels := by
  refine System.always_of_preserved ?_ ?_ (lossless_libThreadPoolInit positive created)
  · intro state lossless
    have sound := lossless.sound
    have capacity := lossless.capacity
    refine ⟨?_, ?_, ?_, lossless.order⟩
    · rw [← capacity]
      exact sound.fits
    · rw [← capacity]
      exact sound.rear
    · rw [lossless.order]
      exact List.prefix_append _ _
  · intro state label next lossless stepped
    exact lossless.step (stepped_move stepped).2

/-- A run over a ring of two: a third task waits until a worker has taken the first, and the rear
wraps. -/
def wrappingRun : List Move :=
  [.taskAdd ⟨1, 10⟩ none, .taskAdd ⟨1, 11⟩ none, .taskAdd ⟨1, 12⟩ none, .work 0 (some 2),
    .resume 2 none]

/-- The queue along that run, whose last state has the third task in the slot of the first. -/
theorem task_queue_lossless_wrapping :
    ∃ start, libThreadPoolInit 1 1 2 = some start ∧
      poolThreads.Always (fun state =>
        state.pool.taskQueue.size ≤ 2 ∧
        state.pool.taskQueue.rear =
          (state.pool.taskQueue.front + state.pool.taskQueue.size) % 2 ∧
        state.taken <+: state.accepted ∧
        state.accepted = state.taken ++ state.pool.taskQueue.contents) start wrappingRun ∧
      (poolThreads.run start wrappingRun).any (fun state =>
        state.taken = [⟨1, 10⟩] ∧ state.pool.taskQueue.rear = 1 ∧
        state.pool.taskQueue.contents = [⟨1, 11⟩, ⟨1, 12⟩]) = true :=
  ⟨_, rfl, @task_queue_lossless _ 2 1 1 (by decide) rfl wrappingRun, by decide⟩

end UubangIot.LibThreadPool
