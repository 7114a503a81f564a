import Mathlib.Algebra.Order.BigOperators.Group.List
import UubangIot.Verif.PoolExtension

/-!
# The limit of a pool

An extension is as large as the first block when that fits between the first block and the maximum,
whatever the pool has grown to by then. The total stays below the maximum exactly when no extension
is made that passes it.
-/

namespace UubangIot.MemoryPool

open ByteMemory DoublyLinked Transition

/-- The total is the sum of the sizes of the blocks and no more than the maximum, and no more than
the total is used. -/
def Limited (state : PoolState) : Prop :=
  state.mp.totalMemPoolSize = sumOfSizes state.mp.mlist ∧
  state.mp.totalMemPoolSize ≤ state.mp.maxMemPoolSize ∧
  getUsedMemory state.mp ≤ getTotalMemory state.mp

instance (state : PoolState) : Decidable (Limited state) := inferInstanceAs (Decidable (_ ∧ _ ∧ _))

/-- A request that extends the pool: no block has a free chunk for it, the pool is not full, and
`malloc` gives memory. -/
def Extends (mp : Pool) (wantsize : Nat) (mallocs : List (Option Nat)) : Prop :=
  wantsize ≠ 0 ∧ totalNeededSize wantsize ≤ mp.memPoolSize ∧
  findFreeChunk mp.memPoolSize (totalNeededSize wantsize) mp.memory mp.mlist = some none ∧
  ¬Full mp ∧ Placed (answered mp mallocs ++ mp.mlist) ∧ ∃ s rest, mallocs = some s :: rest

/-- An extension does not pass the maximum. -/
def Fits (state : PoolState) : PoolCall → Prop
  | .alloc wantsize mallocs => Extends state.mp wantsize mallocs →
    state.mp.totalMemPoolSize + addMemSz state.mp ≤ state.mp.maxMemPoolSize
  | .free _ => True
  | .clear => True

/-- Requests do not wrap and releases stay in their blocks. -/
def Proper (state : PoolState) (label : PoolCall) : Prop :=
  Unwrapped state label ∧ Contained state label

section

variable {state next : PoolState} {blocks : List (MPMemory × List Piece)} {mp : Pool}
  {wantsize p : Nat} {mallocs : List (Option Nat)}

/-! ## What is used -/

/-- `GetUsedMemory` adds up without wrapping. -/
theorem foldl_add64 {mlist : List MPMemory} {start : Nat}
    (fits : start + (mlist.map MPMemory.allocMem).sum < 2 ^ 64) :
    mlist.foldl (fun totalAlloc mm => add64 totalAlloc mm.allocMem) start =
      start + (mlist.map MPMemory.allocMem).sum := by
  induction mlist generalizing start with
  | nil => simp
  | cons mm rest ih =>
    rw [List.map_cons, List.sum_cons] at fits ⊢
    rw [List.foldl_cons, add64_of_lt (by omega), ih (by omega)]
    omega

/-- What is used is no more than the blocks have. -/
theorem Sound.used_le (sound : Sound mp blocks) : getUsedMemory mp ≤ getTotalMemory mp := by
  have each : (mp.mlist.map MPMemory.allocMem).sum ≤ sumOfSizes mp.mlist := by
    rw [sound.mlist, sumOfSizes, List.map_map, List.map_map]
    refine List.sum_le_sum fun block member => ?_
    exact (sound.order.order block member).allocMem_le
  have placed : sumOfSizes mp.mlist < 2 ^ 64 := by
    rw [sound.mlist]
    refine sumOfSizes_lt (fun mm member => ?_) (List.pairwise_map.mpr sound.order.apart)
    obtain ⟨block, known, rfl⟩ := List.mem_map.mp member
    have reach := sound.order.reach block known
    exact ⟨reach.positive, reach.bounded⟩
  rw [getUsedMemory, getTotalMemory, foldl_add64 (by omega), sound.total]
  omega

/-! ## Pools below their limit -/

/-- A pool in order whose total is no more than the maximum. -/
structure Below (state : PoolState) (blocks : List (MPMemory × List Piece)) : Prop where
  /-- It is in order. -/
  kept : Kept state blocks
  /-- Its total is no more than the maximum. -/
  total : state.mp.totalMemPoolSize ≤ state.mp.maxMemPoolSize
  /-- There is one block when the pool does not grow. -/
  single : state.mp.autoExtend = true ∨ blocks.length = 1

/-- A pool too small for any request, with its one block. -/
structure Stunted (state : PoolState) : Prop where
  /-- There is one block, and nothing is allocated from it. -/
  block : ∃ mm, state.mp.mlist = [mm] ∧ mm.allocMem = 0 ∧ mm.memPoolSize = state.mp.memPoolSize
  /-- No request fits. -/
  small : state.mp.memPoolSize < 44
  /-- It has not grown. -/
  total : state.mp.totalMemPoolSize = state.mp.memPoolSize
  /-- Its size is no more than the maximum. -/
  le : state.mp.memPoolSize ≤ state.mp.maxMemPoolSize
  /-- Nothing is live. -/
  live : state.live = []

/-- A pool below its limit. -/
def BelowLimit (state : PoolState) : Prop := (∃ blocks, Below state blocks) ∨ Stunted state

/-- Such a pool keeps to its limit. -/
theorem BelowLimit.limited (pool : BelowLimit state) : Limited state := by
  rcases pool with ⟨blocks, below⟩ | stunted
  · exact ⟨below.kept.sound.total, below.total, below.kept.sound.used_le⟩
  · obtain ⟨mm, list, unused, size⟩ := stunted.block
    refine ⟨?_, stunted.total.trans_le stunted.le, ?_⟩
    · rw [list, sumOfSizes, List.map_singleton, List.sum_singleton, size, stunted.total]
    · rw [getUsedMemory, list, List.foldl_cons, List.foldl_nil, unused]
      exact Nat.zero_le _

/-- Blocks that lie where they lay have the same total. -/
theorem Sound.same_total {mp' : Pool} {blocks' : List (MPMemory × List Piece)}
    (sound : Sound mp blocks) (sound' : Sound mp' blocks') (places : SamePlaces blocks blocks') :
    mp'.totalMemPoolSize = mp.totalMemPoolSize := by
  rw [sound.total, sound'.total, sound.mlist, sound'.mlist]
  exact sumOfSizes_congr places.map_place

/-- The sum of sizes as a sum over places. -/
theorem sumOfSizes_places (blocks : List (MPMemory × List Piece)) :
    sumOfSizes (blocks.map Prod.fst) =
      ((blocks.map fun block => block.1.place).map Prod.snd).sum := by
  rw [sumOfSizes, List.map_map, List.map_map]
  rfl

/-- The total after one extension. -/
theorem Sound.grown_total {mp' : Pool} {blocks' : List (MPMemory × List Piece)} {start : Nat}
    (sound : Sound mp blocks) (sound' : Sound mp' blocks')
    (places : blocks'.map (fun block => block.1.place) =
      (start, addMemSz mp) :: blocks.map fun block => block.1.place) :
    mp'.totalMemPoolSize = mp.totalMemPoolSize + addMemSz mp := by
  rw [sound'.total, sound.total, sound'.mlist, sound.mlist, sumOfSizes_places, sumOfSizes_places,
    places, List.map_cons, List.sum_cons, Nat.add_comm]

/-- A pool with the same blocks and settings is below its limit. -/
theorem Below.same {blocks' : List (MPMemory × List Piece)} (below : Below state blocks)
    (kept : Kept next blocks') (config : SameConfig state.mp next.mp)
    (places : SamePlaces blocks blocks') : Below next blocks' where
  kept := kept
  total := by
    rw [below.kept.sound.same_total kept.sound places, config.max]
    exact below.total
  single := by
    have length := congrArg List.length places
    rw [List.length_map, List.length_map] at length
    rw [config.auto, length]
    exact below.single

/-- The release of a live pointer in such a pool. -/
theorem Below.free (below : Below state blocks) (contained : Contained state (.free p))
    (live : p ∈ state.live.map Prod.fst) :
    ∃ next blocks', state.call (.free p) = some next ∧ Below next blocks' := by
  by_cases auto : state.mp.autoExtend = true
  · obtain ⟨next, blocks', done, kept, config, places⟩ :=
      below.kept.free_contained auto contained live
    exact ⟨next, blocks', done, below.same kept config places⟩
  · -- the one block is the first one, and whole
    obtain ⟨block, rfl⟩ := List.length_eq_one_iff.mp (below.single.resolve_left auto)
    have sound := below.kept.sound
    have list : state.mp.mlist = [block.1] := sound.mlist
    obtain ⟨front, mm, left, chunk, size, right, back, parts, -, within⟩ := below.kept.home live
    have known : (mm, left ++ ⟨chunk, size, false⟩ :: right) ∈ [block] := by simp [parts]
    obtain rfl : mm = block.1 := by rw [← List.mem_singleton.mp known]
    have found : blockOf state.mp p = some block.1 := by
      rw [blockOf, if_neg auto, list, List.head?_cons]
    have whole : block.1.memPoolSize = state.mp.memPoolSize := by
      have total := sound.total
      have base := sound.base
      have shorter := sound.sizes block List.mem_cons_self
      rw [list, sumOfSizes, List.map_singleton, List.sum_singleton] at total
      omega
    obtain ⟨next, blocks', done, kept, config, places, -⟩ :=
      below.kept.free live found within (.inl whole)
    exact ⟨next, blocks', done, below.same kept config places⟩

/-- A request that leaves the pool as it is, or makes it grow. -/
theorem call_alloc_cases (stepped : state.call (.alloc wantsize mallocs) = some next) :
    next.mp = state.mp ∨ wantsize ≠ 0 ∧ totalNeededSize wantsize ≤ state.mp.memPoolSize ∧
      Placed (answered state.mp mallocs ++ state.mp.mlist) ∧
      ∃ result, allocLoop (totalNeededSize wantsize) state.mp mallocs = some (next.mp, result) := by
  rw [PoolState.call] at stepped
  by_cases placed : Placed (answered state.mp mallocs ++ state.mp.mlist)
  · rw [if_pos placed] at stepped
    obtain ⟨⟨mp', result⟩, done, stepped⟩ := Option.bind_eq_some_iff.mp stepped
    obtain rfl := Option.some.inj stepped
    rw [memoryPoolAlloc] at done
    split at done
    · simp only [Option.some.injEq, Prod.mk.injEq] at done
      exact .inl done.1.symm
    · rename_i wanted
      split at done
      · simp only [Option.some.injEq, Prod.mk.injEq] at done
        exact .inl done.1.symm
      · rename_i small
        exact .inr ⟨wanted, by omega, placed, result, done⟩
  · rw [if_neg placed] at stepped
    contradiction

/-- A request makes the pool grow only when it extends it. -/
theorem extends_of_grown {blocks' : List (MPMemory × List Piece)} {start : Nat}
    (kept : Kept state blocks) (kept' : Kept next blocks')
    (stepped : state.call (.alloc wantsize mallocs) = some next)
    (missed : findFreeChunk state.mp.memPoolSize (totalNeededSize wantsize) state.mp.memory
      state.mp.mlist = some none) (growing : ¬Full state.mp)
    (places : blocks'.map (fun block => block.1.place) =
      (start, addMemSz state.mp) :: blocks.map fun block => block.1.place) :
    Extends state.mp wantsize mallocs := by
  -- the pool has a block more than before
  have changed : next.mp ≠ state.mp := by
    intro same
    have length := congrArg List.length places
    have list := congrArg List.length (kept.sound.mlist.symm.trans
      ((congrArg Pool.mlist same).symm.trans kept'.sound.mlist))
    rw [List.length_map, List.length_cons, List.length_map] at length
    rw [List.length_map, List.length_map] at list
    omega
  rcases call_alloc_cases stepped with same | ⟨wanted, small, placed, result, done⟩
  · exact absurd same changed
  · refine ⟨wanted, small, missed, growing, placed, ?_⟩
    cases mallocs with
    | nil =>
      rw [allocLoop_nil missed growing] at done
      contradiction
    | cons answer rest =>
      cases answer with
      | none =>
        rw [allocLoop_null missed growing] at done
        simp only [Option.some.injEq, Prod.mk.injEq] at done
        exact absurd done.1.symm changed
      | some s => exact ⟨s, rest, rfl⟩

/-- A request whose extension fits leaves the pool below its limit. -/
theorem Below.alloc (below : Below state blocks) (unwrapped : Unwrapped state (.alloc wantsize mallocs))
    (fits : Fits state (.alloc wantsize mallocs))
    (stepped : state.call (.alloc wantsize mallocs) = some next) :
    ∃ blocks', Below next blocks' := by
  rw [Unwrapped, chunkHeader, chunkEnd, sizeofLong] at unwrapped
  obtain ⟨blocks', kept, -, result, served⟩ := below.kept.alloc (by omega) stepped
  refine ⟨blocks', ?_⟩
  rcases served.grown with places | ⟨missed, growing, start, places⟩
  · exact below.same kept served.config places
  · have extends' := extends_of_grown below.kept kept stepped missed growing places
    refine ⟨kept, ?_, ?_⟩
    · rw [below.kept.sound.grown_total kept.sound places, served.config.max]
      exact fits extends'
    · rw [Full, not_or, Bool.not_eq_false] at growing
      exact .inl (served.config.auto.trans growing.1)

/-- A pool too small for any request stays so. -/
theorem Stunted.step {label : PoolCall} (stunted : Stunted state)
    (unwrapped : Unwrapped state label) (stepped : state.call label = some next) :
    Stunted next := by
  have small := stunted.small
  cases label with
  | alloc wantsize mallocs =>
    rw [Unwrapped, chunkHeader, chunkEnd, sizeofLong] at unwrapped
    rw [PoolState.call] at stepped
    by_cases placed : Placed (answered state.mp mallocs ++ state.mp.mlist)
    · rw [if_pos placed] at stepped
      have refused : memoryPoolAlloc state.mp wantsize mallocs = some (state.mp, none) := by
        rw [memoryPoolAlloc]
        split
        · rfl
        · have needed := totalNeededSize_eq (show wantsize + 44 < 2 ^ 64 by omega)
          exact if_pos (by omega)
      rw [refused] at stepped
      obtain rfl := Option.some.inj stepped
      exact stunted
    · rw [if_neg placed] at stepped
      contradiction
  | free p =>
    rw [PoolState.call, stunted.live] at stepped
    contradiction
  | clear =>
    obtain ⟨mm, list, unused, size⟩ := stunted.block
    obtain ⟨mp', cleared, stepped⟩ := Option.bind_eq_some_iff.mp stepped
    obtain rfl := Option.some.inj stepped
    obtain ⟨⟨memory, mlist⟩, looped, made⟩ := Option.bind_eq_some_iff.mp cleared
    obtain rfl := Option.some.inj made
    rw [list, clearLoop] at looped
    obtain ⟨⟨memory', mm'⟩, written, looped⟩ := Option.bind_eq_some_iff.mp looped
    obtain ⟨⟨memory'', rest⟩, ended, looped⟩ := Option.bind_eq_some_iff.mp looped
    simp only [clearLoop, Option.some.injEq, Prod.mk.injEq] at ended
    obtain ⟨rfl, rfl⟩ := ended
    simp only [Option.pure_def, Option.some.injEq, Prod.mk.injEq] at looped
    obtain ⟨rfl, rfl⟩ := looped
    refine ⟨⟨mm', rfl, ?_⟩, small, stunted.total, stunted.le, rfl⟩
    simp only [mpInitMemoryStruct, Option.bind_eq_bind, Option.bind_eq_some_iff, Option.pure_def,
      Option.some.injEq, Prod.mk.injEq] at written
    obtain ⟨_, -, _, -, _, -, _, -, -, rfl⟩ := written
    exact ⟨rfl, size⟩

/-- Every proper call whose extension fits leaves the pool below its limit. -/
theorem BelowLimit.step {label : PoolCall} (proper : Proper state label) (fits : Fits state label)
    (pool : BelowLimit state) (stepped : state.call label = some next) : BelowLimit next := by
  obtain ⟨unwrapped, contained⟩ := proper
  rcases pool with ⟨blocks, below⟩ | stunted
  · left
    cases label with
    | alloc wantsize mallocs => exact below.alloc unwrapped fits stepped
    | free p =>
      have live : p ∈ state.live.map Prod.fst := by
        by_contra dead
        rw [PoolState.call, if_neg dead] at stepped
        contradiction
      obtain ⟨later, blocks', done, below'⟩ := below.free contained live
      obtain rfl := Option.some.inj (done.symm.trans stepped)
      exact ⟨blocks', below'⟩
    | clear =>
      obtain ⟨later, blocks', done, kept, config, places, -⟩ := below.kept.clear
      obtain rfl := Option.some.inj (done.symm.trans stepped)
      exact ⟨blocks', below.same kept config places⟩
  · exact .inr (stunted.step unwrapped stepped)

/-- An extension that does not fit passes the limit. -/
theorem Below.passes (below : Below state blocks) (unwrapped : wantsize + 44 < 2 ^ 64)
    (extends' : Extends state.mp wantsize mallocs)
    (beyond : state.mp.maxMemPoolSize < state.mp.totalMemPoolSize + addMemSz state.mp) :
    ∃ next, state.call (.alloc wantsize mallocs) = some next ∧ ¬Limited next := by
  obtain ⟨wanted, small, missed, growing, placed, s, rest, rfl⟩ := extends'
  have needed := totalNeededSize_eq unwrapped
  have least : 40 < totalNeededSize wantsize := by omega
  have sound := below.kept.sound
  obtain ⟨⟨mp', result⟩, done⟩ := allocLoop_returns sound least small (some s) placed
  obtain ⟨extended, mm, pieces, grown, sound', -, config, -, size, placed', -⟩ :=
    sound.extend least small growing placed
  have done' := done
  rw [allocLoop_extended missed growing grown] at done'
  obtain ⟨blocks', served, -⟩ := allocLoop_spec sound' least (by rwa [config.size]) placed' done'
  -- the extended pool is past its limit, and stays there
  have first := sound'.total
  rw [sound'.mlist, List.map_cons, ← sound.mlist, sumOfSizes, List.map_cons, List.sum_cons,
    ← sumOfSizes, ← sound.total, size] at first
  have later : state.mp.totalMemPoolSize + addMemSz state.mp ≤ mp'.totalMemPoolSize := by
    rcases served.grown with places | ⟨-, -, start, places⟩
    · rw [sound'.same_total served.sound places, first]
      omega
    · rw [sound'.grown_total served.sound places, first]
      omega
  have maxIs : mp'.maxMemPoolSize = state.mp.maxMemPoolSize :=
    served.config.max.trans config.max
  refine ⟨⟨mp', (result.toList.map fun p => (p, wantsize)) ++ state.live⟩, ?_, ?_⟩
  · rw [PoolState.call, if_pos placed]
    refine Option.bind_eq_some_iff.mpr ⟨(mp', result), ?_, rfl⟩
    rw [memoryPoolAlloc, if_neg wanted, if_neg (by omega), done]
  · rintro ⟨-, limit, -⟩
    dsimp only at limit
    omega

/-- A proper call whose extension does not fit passes the limit. -/
theorem BelowLimit.passes {label : PoolCall} (proper : Proper state label)
    (pool : BelowLimit state) (unfit : ¬Fits state label) :
    ∃ next, state.call label = some next ∧ ¬Limited next := by
  cases label with
  | alloc wantsize mallocs =>
    have unwrapped := proper.1
    rw [Unwrapped, chunkHeader, chunkEnd, sizeofLong] at unwrapped
    rw [Fits, Classical.not_imp, not_le] at unfit
    rcases pool with ⟨blocks, below⟩ | stunted
    · exact below.passes (by omega) unfit.1 unfit.2
    · have needed := totalNeededSize_eq (show wantsize + 44 < 2 ^ 64 by omega)
      have wanted := unfit.1.1
      have small := unfit.1.2.1
      have stunt := stunted.small
      omega
  | free p => exact absurd trivial unfit
  | clear => exact absurd trivial unfit

end

/-- In every run of proper calls of a pool whose blocks have room for a header, or that is too small
for any request, the total is the sum of the sizes of the blocks and no more than the maximum and
no more than the total is used, exactly when no extension passes the maximum. -/
theorem total_within_maximum_iff (maxmempoolsize mempoolsize s : Nat) (uninitialised : Bool)
    (byte : Nat → UInt8) (mp : Pool) (calls : List PoolCall)
    (le : mempoolsize ≤ maxmempoolsize) (fits : maxmempoolsize < 2 ^ 64)
    (extension : mempoolsize = maxmempoolsize ∨ mempoolsize + chunkHeader ≤ maxmempoolsize ∨
      mempoolsize < 44)
    (positive : 0 < s) (inside : s + sizeofMemory + mempoolsize ≤ 2 ^ 64)
    (made : memoryPoolInit maxmempoolsize mempoolsize uninitialised s byte = some mp)
    (proper : poolSystem.Meets Proper ⟨mp, []⟩ calls) :
    poolSystem.Always Limited ⟨mp, []⟩ calls ↔ poolSystem.Meets Fits ⟨mp, []⟩ calls := by
  rw [chunkHeader] at extension
  have pool : BelowLimit ⟨mp, []⟩ := by
    by_cases stunted : mempoolsize < 44
    · right
      rw [memoryPoolInit, if_neg (by omega)] at made
      obtain ⟨⟨memory, mm⟩, written, made⟩ := Option.bind_eq_some_iff.mp made
      obtain rfl := Option.some.inj made
      simp only [mpInitMemoryStruct, Option.bind_eq_bind, Option.bind_eq_some_iff, Option.pure_def,
        Option.some.injEq, Prod.mk.injEq] at written
      obtain ⟨_, -, _, -, _, -, _, -, -, rfl⟩ := written
      exact ⟨⟨_, rfl, rfl, rfl⟩, stunted, rfl, le, rfl⟩
    · left
      have makes : Makes maxmempoolsize mempoolsize s := by
        refine ⟨le, fits, by omega, ?_, positive, inside⟩
        omega
      obtain ⟨mp', blocks, made', sound, untaken, sizeIs, maxIs, auto, places, -⟩ :=
        memoryPoolInit_spec makes uninitialised byte
      obtain rfl := Option.some.inj (made'.symm.trans made)
      refine ⟨blocks, sound.kept untaken, ?_, .inr ?_⟩
      · dsimp only
        rw [sound.total, sound.mlist, sumOfSizes_places, places, maxIs]
        simpa using le
      · have length := congrArg List.length places
        rwa [List.length_map] at length
  exact System.always_iff_meets_of (fun _ => BelowLimit.limited) (fun _ _ _ => BelowLimit.step)
    (fun _ _ => BelowLimit.passes) pool proper

/-- A request in a pool of 100 bytes with a maximum of 250. -/
theorem total_within_maximum_iff_small :
    ∃ mp, memoryPoolInit 250 100 false 4096 (fun _ => 0) = some mp ∧
      (poolSystem.Always Limited ⟨mp, []⟩ [.alloc 50 []] ↔
        poolSystem.Meets Fits ⟨mp, []⟩ [.alloc 50 []]) := by
  obtain ⟨mp, made⟩ : ∃ mp, memoryPoolInit 250 100 false 4096 (fun _ => 0) = some mp :=
    Option.isSome_iff_exists.mp (by decide +kernel)
  have small : 50 + chunkHeader + chunkEnd + sizeofLong < 2 ^ 64 := by decide
  exact ⟨mp, made, total_within_maximum_iff 250 100 4096 false (fun _ => 0) mp [.alloc 50 []]
    (by decide) (by decide) (.inr (.inl (by decide))) (by decide) (by decide) made
    ⟨⟨small, trivial⟩, fun _ _ => trivial⟩⟩

/-- A pool of 100 bytes with a maximum of 250 grows to 300. -/
theorem total_passes_maximum :
    ∃ mp, memoryPoolInit 250 100 false 4096 (fun _ => 0) = some mp ∧
      ∃ calls, poolSystem.Meets Proper ⟨mp, []⟩ calls ∧
        ¬poolSystem.Always Limited ⟨mp, []⟩ calls := by
  have run : (memoryPoolInit 250 100 false 4096 fun _ => 0).any fun mp =>
      (poolSystem.run ⟨mp, []⟩ [.alloc 50 [], .alloc 50 [some 8192], .alloc 50 [some 16384]]).any
        fun state => decide (¬Limited state) := by
    decide +kernel
  obtain ⟨mp, made, run⟩ := (Option.any_eq_true _ _).mp run
  obtain ⟨state, reached, beyond⟩ := (Option.any_eq_true _ _).mp run
  refine ⟨mp, made, [.alloc 50 [], .alloc 50 [some 8192], .alloc 50 [some 16384]], ?_,
    fun always => of_decide_eq_true beyond (always 3 state reached)⟩
  have small : 50 + chunkHeader + chunkEnd + sizeofLong < 2 ^ 64 := by decide
  exact ⟨⟨small, trivial⟩, fun _ _ => ⟨⟨small, trivial⟩, fun _ _ => ⟨⟨small, trivial⟩,
    fun _ _ => trivial⟩⟩⟩

end UubangIot.MemoryPool
