import UubangIot.Verif.StrandedTasks

/-!
# Destruction of the thread pool

`libThreadPool_destroy` joins the threads in the first `live_thr_num` slots of `threads` and frees
the pool. `live_thr_num` is a count, while exits leave the live threads in any slots: the joins are
enough when no thread that still runs is in a later slot and the count does not shrink on the way.
-/

namespace UubangIot.LibThreadPool

open RingBuffer Transition

/-! ## When the joins are enough -/

/-- The threads in the slots that are not joined have terminated. -/
def PoolThreads.Covered (state : PoolThreads) : Prop :=
  ∀ entry ∈ state.pool.threads.drop state.pool.liveThrNum, ∀ tid ∈ entry,
    state.workers[tid]? = some .exited

/-- No worker can exit on the quota: there is none, no worker is beyond the minimum, or no worker
is in `pthread_cond_wait`. -/
def PoolThreads.Settled (state : PoolThreads) : Prop :=
  state.pool.waitExitThrNum = 0 ∨ state.pool.liveThrNum ≤ state.pool.minThrNum ∨
    ∀ pc ∈ state.workers, pc ≠ .waiting ∧ pc ≠ .woken

/-- `libThreadPool_destroy` starts its loops only in a covered and settled pool. -/
def PoolThreads.Joinable (state : PoolThreads) : Move → Prop
  | .destroying =>
    state.destroyer = .joiningAdmin → state.admin = .done → state.Covered ∧ state.Settled
  | _ => True

instance (state : PoolThreads) : Decidable state.Covered := by
  unfold PoolThreads.Covered
  infer_instance

instance (state : PoolThreads) : Decidable state.Settled := by
  unfold PoolThreads.Settled
  infer_instance

instance (state : PoolThreads) (label : Move) : Decidable (state.Joinable label) :=
  match label with
  | .destroying => inferInstanceAs (Decidable (_ → _))
  | .taskAdd _ _ => .isTrue trivial
  | .resume _ _ => .isTrue trivial
  | .work _ _ => .isTrue trivial
  | .admin _ _ => .isTrue trivial
  | .destroy => .isTrue trivial

variable {state next start : PoolThreads} {label : Move}

/-! ## The slots -/

/-- Every worker that has not terminated is in a slot. -/
def PoolThreads.Slotted (state : PoolThreads) : Prop :=
  ∀ w < state.workers.length, state.workers[w]? ≠ some .exited →
    some w ∈ state.pool.threads

/-- Creating threads keeps the threads that are not gone in their slots. -/
theorem createLoop_kept {maxThrNum w : Nat} {gone : List Nat} {threads : List (Option Nat)}
    {add live tid : Nat} (member : some w ∈ threads) (runs : w ∉ gone) :
    some w ∈ (PoolThreads.createLoop maxThrNum gone threads add live tid).1 := by
  induction threads generalizing add live tid with
  | nil => simp at member
  | cons entry threads ih =>
    rw [PoolThreads.createLoop]
    split
    · split
      · rename_i free
        obtain here | later := List.mem_cons.mp member
        · subst here
          simp [runs] at free
        · exact List.mem_cons_of_mem _ (ih later)
      · obtain here | later := List.mem_cons.mp member
        · exact here ▸ List.mem_cons_self
        · exact List.mem_cons_of_mem _ (ih later)
    · exact member

/-- Every thread that is created has a slot. -/
theorem createLoop_new {maxThrNum : Nat} {gone : List Nat} {threads : List (Option Nat)}
    {add live tid w : Nat} (from_ : tid ≤ w)
    (below : w < tid + (PoolThreads.createLoop maxThrNum gone threads add live tid).2) :
    some w ∈ (PoolThreads.createLoop maxThrNum gone threads add live tid).1 := by
  induction threads generalizing add live tid with
  | nil =>
    simp only [PoolThreads.createLoop] at below
    omega
  | cons entry threads ih =>
    rw [PoolThreads.createLoop] at below ⊢
    split at below
    · rename_i needed
      rw [if_pos needed]
      split at below
      · rename_i free
        rw [if_pos free]
        obtain rfl | after := Nat.eq_or_lt_of_le from_
        · exact List.mem_cons_self
        · refine List.mem_cons_of_mem _ (ih after ?_)
          dsimp only at below
          omega
      · rename_i used
        rw [if_neg used]
        exact List.mem_cons_of_mem _ (ih from_ below)
    · dsimp only at below
      omega

/-! ## Terminated workers -/

/-- The workers after a step that creates none: those that had terminated still have. -/
structure Aged (before after : List WorkerPc) : Prop where
  /-- No worker is created. -/
  length : after.length = before.length
  /-- A terminated worker stays so. -/
  exited : ∀ w : Nat, before[w]? = some .exited → after[w]? = some .exited

/-- Workers nobody moved. -/
theorem Aged.refl (workers : List WorkerPc) : Aged workers workers := ⟨rfl, fun _ => id⟩

/-- A worker that has not terminated moves. -/
theorem Aged.set {workers : List WorkerPc} {w : Nat} {pc after : WorkerPc}
    (here : workers[w]? = some pc) (runs : pc ≠ .exited) : Aged workers (workers.set w after) := by
  refine ⟨List.length_set, fun other exited => ?_⟩
  have apart : w ≠ other := by
    rintro rfl
    exact runs (Option.some.inj (here.symm.trans exited))
  rw [List.getElem?_set_ne apart]
  exact exited

/-- A signal moves at most a worker that waits. -/
theorem Aged.signal {workers after : List WorkerPc} {signal : Option Nat}
    (signalled : signalNotEmpty workers signal = some after) : Aged workers after := by
  obtain ⟨w, -, waiting, rfl⟩ | ⟨-, -, rfl⟩ := signalNotEmpty_cases signalled
  · exact .set waiting (by simp)
  · exact .refl _

/-- A broadcast moves only workers that wait. -/
theorem Aged.broadcast (workers : List WorkerPc) : Aged workers (broadcastNotEmpty workers) := by
  refine ⟨List.length_map _, fun w exited => ?_⟩
  rw [broadcastNotEmpty, List.getElem?_map, exited]
  rfl

/-- Slots are kept when the threads are and the workers only age. -/
theorem PoolThreads.Slotted.aged (slotted : state.Slotted)
    (aged : Aged state.workers next.workers) (threads : next.pool.threads = state.pool.threads) :
    next.Slotted := by
  intro w inside runs
  rw [threads]
  rw [aged.length] at inside
  exact slotted w inside fun exited => runs (aged.exited w exited)

/-- Covered slots stay covered when the workers only age and the count does not shrink. -/
theorem PoolThreads.Covered.aged (covered : state.Covered)
    (aged : Aged state.workers next.workers) (threads : next.pool.threads = state.pool.threads)
    (live : next.pool.liveThrNum = state.pool.liveThrNum) : next.Covered := by
  intro entry member tid slot
  rw [threads, live] at member
  exact aged.exited tid (covered entry member tid slot)

/-- A pool stays settled when a worker moves on from `pthread_cond_wait`. -/
theorem PoolThreads.Settled.set {w : Nat} {after : WorkerPc} (settled : state.Settled)
    (workers : next.workers = state.workers.set w after)
    (moves : after ≠ .waiting ∧ after ≠ .woken)
    (quota : next.pool.waitExitThrNum ≤ state.pool.waitExitThrNum)
    (live : next.pool.liveThrNum = state.pool.liveThrNum)
    (least : next.pool.minThrNum = state.pool.minThrNum) : next.Settled := by
  obtain zero | few | awake := settled
  · exact .inl (by omega)
  · exact .inr (.inl (by omega))
  · refine .inr (.inr fun pc member => ?_)
    rw [workers] at member
    obtain before | rfl := List.mem_or_eq_of_mem_set member
    · exact awake pc before
    · exact moves

/-- A pool stays settled when all waiting workers are woken. -/
theorem PoolThreads.Settled.broadcast (settled : state.Settled)
    (workers : next.workers = broadcastNotEmpty state.workers) (pool : next.pool = state.pool) :
    next.Settled := by
  rw [PoolThreads.Settled, pool]
  obtain zero | few | awake := settled
  · exact .inl zero
  · exact .inr (.inl few)
  · refine .inr (.inr fun pc member => ?_)
    rw [workers] at member
    obtain ⟨before, there, same⟩ := List.mem_map.mp member
    rw [if_neg (awake before there).1] at same
    exact same ▸ awake before there

/-! ## Runs -/

/-- The number of slots that have been joined, from the join of the admin thread on. -/
def DestroyPc.slots : DestroyPc → Option Nat
  | .absent => none
  | .joiningAdmin => none
  | .broadcasting _ => some 0
  | .joining i => some i
  | .freed => none

/-- The pool while `libThreadPool_destroy` joins the workers. -/
structure Joining (state : PoolThreads) (count : Nat) : Prop where
  /-- The admin thread has ended. -/
  done : state.admin = .done
  /-- The slots that are not joined hold no thread that runs. -/
  covered : state.Covered
  /-- The number of slots that are joined does not change. -/
  settled : state.Settled
  /-- The threads in the slots before are joined. -/
  joined : ∀ i < count, ∀ tid, state.pool.threads[i]? = some (some tid) →
    state.workers[tid]? = some .exited

/-- What holds of the pool and its threads in every state. -/
structure Orderly (state : PoolThreads) : Prop where
  /-- `libThreadPool_destroy` sets `shutdown` first. -/
  closed : state.destroyer ≠ .absent → state.pool.shutdown = true
  /-- The threads that run have slots. -/
  slotted : state.Slotted
  /-- The progress of `libThreadPool_destroy`. -/
  joining : ∀ count, state.destroyer.slots = some count → Joining state count
  /-- A pool is freed after its workers. -/
  ended : state.destroyer = .freed → ∀ pc ∈ state.workers, pc = .exited

/-- The joins go on while the workers only age. -/
theorem Joining.aged {count : Nat} (joining : Joining state count)
    (aged : Aged state.workers next.workers) (threads : next.pool.threads = state.pool.threads)
    (live : next.pool.liveThrNum = state.pool.liveThrNum) (admin : next.admin = state.admin)
    (settled : next.Settled) : Joining next count := by
  refine ⟨admin.trans joining.done, joining.covered.aged aged threads live, settled, ?_⟩
  intro i before tid slot
  rw [threads] at slot
  exact aged.exited tid (joining.joined i before tid slot)

/-- No worker is joined before `shutdown`. -/
theorem Orderly.not_joining {count : Nat} (orderly : Orderly state)
    (opened : state.pool.shutdown = false) : state.destroyer.slots ≠ some count := by
  intro slots
  have called : state.destroyer ≠ .absent := by
    intro absent
    simp [absent, DestroyPc.slots] at slots
  simp [orderly.closed called] at opened

/-- A step that is not one of `libThreadPool_destroy`. -/
theorem Orderly.frame (orderly : Orderly state) (present : state.destroyer ≠ .freed)
    (destroyer : next.destroyer = state.destroyer)
    (shutdown : next.pool.shutdown = state.pool.shutdown) (slotted : next.Slotted)
    (joining : ∀ count, state.destroyer.slots = some count → Joining state count →
      Joining next count) : Orderly next := by
  refine ⟨?_, slotted, ?_, ?_⟩
  · rw [destroyer, shutdown]
    exact orderly.closed
  · intro count slots
    rw [destroyer] at slots
    exact joining count slots (orderly.joining count slots)
  · intro freed
    exact absurd (destroyer.symm.trans freed) present

/-- A worker that has not terminated moves without waiting. -/
theorem Orderly.set {w : Nat} {before after : WorkerPc} (orderly : Orderly state)
    (present : state.destroyer ≠ .freed) (here : state.workers[w]? = some before)
    (runs : before ≠ .exited) (moves : after ≠ .waiting ∧ after ≠ .woken)
    (workers : next.workers = state.workers.set w after)
    (rest : next.destroyer = state.destroyer ∧ next.admin = state.admin ∧
      next.pool.threads = state.pool.threads ∧ next.pool.shutdown = state.pool.shutdown ∧
      next.pool.liveThrNum = state.pool.liveThrNum ∧ next.pool.minThrNum = state.pool.minThrNum)
    (quota : next.pool.waitExitThrNum ≤ state.pool.waitExitThrNum) : Orderly next := by
  obtain ⟨destroyer, admin, threads, shutdown, live, least⟩ := rest
  have aged : Aged state.workers next.workers := workers ▸ Aged.set here runs
  refine orderly.frame present destroyer shutdown (orderly.slotted.aged aged threads) ?_
  intro count _ joining
  exact joining.aged aged threads live admin (joining.settled.set workers moves quota live least)

/-- Created threads have slots, and nobody else loses one. -/
theorem PoolThreads.Slotted.created {gone : List Nat} {threads : List (Option Nat)} {count : Nat}
    (slotted : state.Slotted) (ended : ∀ tid ∈ gone, state.workers[tid]? = some .exited)
    (looped : PoolThreads.createLoop state.pool.maxThrNum gone state.pool.threads 0
      state.pool.liveThrNum state.workers.length = (threads, count))
    (workers : next.workers = state.workers ++ List.replicate count .ready)
    (slots : next.pool.threads = threads) : next.Slotted := by
  intro w inside runs
  rw [workers, List.length_append, List.length_replicate] at inside
  rw [workers] at runs
  have first : threads = _ := (congrArg Prod.fst looped).symm
  have second : count = _ := (congrArg Prod.snd looped).symm
  rw [slots, first]
  obtain old | new := Nat.lt_or_ge w state.workers.length
  · rw [List.getElem?_append_left old] at runs
    exact createLoop_kept (slotted w old runs) fun member => runs (ended w member)
  · rw [second] at inside
    exact createLoop_new new inside

/-- When all slots have been joined, all workers have terminated. -/
theorem Joining.all_exited {count : Nat} (joining : Joining state count)
    (slotted : state.Slotted) (past : state.pool.liveThrNum ≤ count) :
    ∀ pc ∈ state.workers, pc = .exited := by
  intro pc member
  obtain ⟨w, here⟩ := List.mem_iff_getElem?.mp member
  have inside := (List.getElem?_eq_some_iff.mp here).1
  by_contra runs
  have alive : state.workers[w]? ≠ some .exited := by
    intro exited
    exact runs (Option.some.inj (here.symm.trans exited))
  obtain ⟨i, slot⟩ := List.mem_iff_getElem?.mp (slotted w inside alive)
  obtain before | after := Nat.lt_or_ge i state.pool.liveThrNum
  · exact alive (joining.joined i (by omega) w slot)
  · refine alive (joining.covered (some w) ?_ w rfl)
    refine List.mem_iff_getElem?.mpr ⟨i - state.pool.liveThrNum, ?_⟩
    rw [List.getElem?_drop, Nat.add_sub_cancel' after]
    exact slot

/-- The steps of workers, callers and the admin thread. -/
theorem Orderly.step (orderly : Orderly state) (present : state.destroyer ≠ .freed)
    (stepped : Stepped state label next) (joinable : state.Joinable label) : Orderly next := by
  have slotted := orderly.slotted
  cases stepped with
  | called =>
    refine orderly.frame present rfl rfl slotted fun count _ joining => ?_
    exact ⟨joining.done, joining.covered, joining.settled, joining.joined⟩
  | accepted label task signal producers workers adds room opened signalled =>
    refine orderly.frame present rfl rfl (slotted.aged (.signal signalled) rfl) ?_
    intro count slots _
    exact absurd slots (orderly.not_joining opened)
  | waited w signal quota ready empty opened =>
    have aged : Aged state.workers (state.workers.set w .waiting) := by
      obtain here | here := ready
      · exact .set here (by simp)
      · exact .set here (by simp)
    refine orderly.frame present rfl rfl (slotted.aged aged rfl) fun count slots _ => ?_
    exact absurd slots (orderly.not_joining opened)
  | stopped w signal quota ready less closed =>
    obtain here | here := ready
    · exact orderly.set present here (by simp) (by simp) rfl ⟨rfl, rfl, rfl, rfl, rfl, rfl⟩ less
    · exact orderly.set present here (by simp) (by simp) rfl ⟨rfl, rfl, rfl, rfl, rfl, rfl⟩ less
  | took w signal quota producers filled opened ready =>
    have aged : Aged state.workers (state.workers.set w (.taken state.pool.taskQueue.first)) := by
      obtain here | here := ready
      · exact .set here (by simp)
      · exact .set here (by simp)
    refine orderly.frame present rfl rfl (slotted.aged aged rfl) fun count slots _ => ?_
    exact absurd slots (orderly.not_joining opened)
  | quit w signal woken quota many =>
    have aged : Aged state.workers (state.workers.set w .exiting) := .set woken (by simp)
    refine orderly.frame present rfl rfl (slotted.aged aged rfl) fun count _ joining => ?_
    -- the pool is settled, so no worker exits on the quota any more
    obtain zero | few | awake := joining.settled
    · omega
    · omega
    · exact absurd rfl (awake _ (List.mem_of_getElem? woken)).2
  | worked w signal before after busy here works =>
    refine orderly.set present here ?_ ?_ rfl ⟨rfl, rfl, rfl, rfl, rfl, rfl⟩ le_rfl
    · cases works <;> simp
    · cases works <;> simp
  | exited w signal here =>
    exact orderly.set present here (by simp) (by simp) rfl ⟨rfl, rfl, rfl, rfl, rfl, rfl⟩ le_rfl
  | managed signal gone quota queue live busy admin runs ends =>
    refine orderly.frame present rfl rfl slotted fun count _ joining => ?_
    exact absurd joining.done runs
  | created signal gone threads count runs ended looped =>
    refine orderly.frame present rfl rfl (slotted.created ended looped rfl rfl) ?_
    intro count _ joining
    simp [joining.done] at runs
  | signalled signal gone left workers runs signals =>
    refine orderly.frame present rfl rfl (slotted.aged (.signal signals) rfl) ?_
    intro count _ joining
    simp [joining.done] at runs
  | destroyed absent =>
    exact ⟨fun _ => rfl, slotted, fun count slots => by simp [DestroyPc.slots] at slots,
      fun freed => by simp at freed⟩
  | joinedAdmin here done =>
    obtain ⟨covered, settled⟩ := joinable here done
    have closed := orderly.closed (by simp [here])
    refine ⟨fun _ => closed, slotted, fun count slots => ?_, fun freed => by simp at freed⟩
    obtain rfl : 0 = count := Option.some.inj slots
    exact ⟨done, covered, settled, fun i before => absurd before (Nat.not_lt_zero i)⟩
  | broadcast i here inside =>
    have closed := orderly.closed (by simp [here])
    have aged := Aged.broadcast state.workers
    refine ⟨fun _ => closed, slotted.aged aged rfl, ?_, fun freed => by simp at freed⟩
    intro count slots
    have joining := orderly.joining count (by simpa [here, DestroyPc.slots] using slots)
    exact joining.aged aged rfl rfl rfl (joining.settled.broadcast rfl rfl)
  | toldAll i here past =>
    have closed := orderly.closed (by simp [here])
    refine ⟨fun _ => closed, slotted, fun count slots => ?_, fun freed => by simp at freed⟩
    have joining := orderly.joining count (by simpa [here, DestroyPc.slots] using slots)
    exact ⟨joining.done, joining.covered, joining.settled, joining.joined⟩
  | joined i here inside ended =>
    have closed := orderly.closed (by simp [here])
    refine ⟨fun _ => closed, slotted, fun count slots => ?_, fun freed => by simp at freed⟩
    have joining := orderly.joining i (by simp [here, DestroyPc.slots])
    obtain rfl : i + 1 = count := Option.some.inj slots
    refine ⟨joining.done, joining.covered, joining.settled, fun j before tid slot => ?_⟩
    obtain earlier | rfl := Nat.lt_succ_iff_lt_or_eq.mp before
    · exact joining.joined j earlier tid slot
    · exact ended tid slot
  | freed i here past =>
    have closed := orderly.closed (by simp [here])
    have joining := orderly.joining i (by simp [here, DestroyPc.slots])
    exact ⟨fun _ => closed, slotted, fun count slots => by simp [DestroyPc.slots] at slots,
      fun _ => joining.all_exited slotted past⟩

/-- A new pool has its workers in the first slots. -/
theorem orderly_libThreadPoolInit {minThrNum maxThrNum queueMaxSize : Nat}
    (created : libThreadPoolInit minThrNum maxThrNum queueMaxSize = some start) :
    Orderly start := by
  rw [libThreadPoolInit] at created
  split at created
  · simp at created
  · obtain rfl := Option.some.inj created
    refine ⟨fun called => absurd rfl called, fun w inside _ => ?_, fun count slots => ?_,
      fun freed => by simp at freed⟩
    · rw [List.length_replicate] at inside
      refine List.mem_append_left _ (List.mem_map.mpr ⟨w, List.mem_range.mpr inside, rfl⟩)
    · simp [DestroyPc.slots] at slots

/-- When `libThreadPool_destroy` starts its loops only in a covered and settled pool, every worker
that was ever created has terminated before the pool is freed. -/
theorem destruction_clean {minThrNum maxThrNum queueMaxSize : Nat}
    (created : libThreadPoolInit minThrNum maxThrNum queueMaxSize = some start)
    {labels : List Move} (meets : poolThreads.Meets PoolThreads.Joinable start labels) :
    poolThreads.Always (fun state =>
      state.destroyer = .freed → ∀ pc ∈ state.workers, pc = .exited) start labels := by
  refine System.always_of_meets ?_ ?_ (orderly_libThreadPoolInit created) meets
  · exact fun state orderly => orderly.ended
  · intro state label next joinable orderly moved
    obtain ⟨present, stepped⟩ := stepped_move moved
    exact orderly.step present stepped joinable

/-- A pool of two workers is destroyed while one of them waits and the other executes a task. -/
def cleanDestruction : List Move :=
  [.work 0 none, .taskAdd ⟨1, 1⟩ (some 0), .work 0 none, .work 0 none, .work 1 none, .destroy,
    .admin none [], .destroying, .destroying, .destroying, .destroying, .work 0 none,
    .work 0 none, .work 0 none, .work 0 none, .work 1 none, .work 1 none, .destroying,
    .destroying, .destroying]

/-- It is freed after both have terminated. -/
theorem destruction_clean_idle :
    ∃ start, libThreadPoolInit 2 4 10 = some start ∧
      poolThreads.Always (fun state =>
        state.destroyer = .freed → ∀ pc ∈ state.workers, pc = .exited) start cleanDestruction ∧
      (poolThreads.run start cleanDestruction).any (fun state => state.destroyer = .freed) =
        true := by
  have met : (libThreadPoolInit 2 4 10).any (fun start =>
      decide (poolThreads.Meets PoolThreads.Joinable start cleanDestruction ∧
        (poolThreads.run start cleanDestruction).any
          (fun state => state.destroyer = .freed) = true)) = true := by
    decide +kernel
  obtain ⟨start, created, both⟩ := (Option.any_eq_true _ _).mp met
  obtain ⟨meets, freed⟩ := of_decide_eq_true both
  exact ⟨start, created, destruction_clean created meets, freed⟩

/-- The pool of `strandingRun`, in which the first worker exits on the quota, is destroyed. -/
def uncoveredDestruction : List Move :=
  strandingRun ++ [.work 0 none, .destroy, .admin none [], .destroying, .destroying, .destroying,
    .destroying, .destroying]

/-- The worker that exited was in the first slot, and the second slot is not joined: the pool is
freed while the worker there has been woken and is about to lock it. -/
theorem freed_under_worker :
    ∃ start reached, libThreadPoolInit 1 2 10 = some start ∧
      poolThreads.run start uncoveredDestruction = some reached ∧
      reached.destroyer = .freed ∧ reached.workers = [.exited, .woken] := by
  have freed : (libThreadPoolInit 1 2 10).any (fun start =>
      (poolThreads.run start uncoveredDestruction).any fun reached =>
        decide (reached.destroyer = .freed ∧ reached.workers = [.exited, .woken])) = true := by
    decide +kernel
  obtain ⟨start, created, reached⟩ := (Option.any_eq_true _ _).mp freed
  obtain ⟨reached, run, facts⟩ := (Option.any_eq_true _ _).mp reached
  exact ⟨start, reached, created, run, of_decide_eq_true facts⟩

end UubangIot.LibThreadPool
