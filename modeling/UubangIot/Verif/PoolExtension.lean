import UubangIot.Verif.PoolTiling

/-!
# Pools that grow

An extension block may be shorter than `mem_pool_size`. `find_memory_list` and the forward merge
measure every block with `mem_pool_size` all the same: exactly when a release stays in the block of
its pointer, and exactly when the total stays below the maximum.
-/

namespace UubangIot.MemoryPool

open ByteMemory DoublyLinked Transition

/-! ## Attribution -/

instance (mm : MPMemory) (place : Nat) : Decidable (Within mm place) :=
  inferInstanceAs (Decidable (_ ∧ _))

/-- `MemoryPoolFree` with the memory of the pointer's own block only: no result when another block
is taken for it, or when `merge_free_chunk` accesses a byte outside it. -/
def guardedFree (mp : Pool) (p : Nat) : Option (Heap × MPMemory) := do
  let mm ← blockOf mp p
  if Within mm p then
    let (memory, mm) ← releaseChunk mp.memory mm (p - chunkHeader)
    mergeFreeChunk mp (memory.within mm.start mm.stop) mm (p - chunkHeader)
  else none

/-- The release of a live pointer is attributed to the block of the pointer and stays in it. -/
def Attributed (state : PoolState) : PoolCall → Prop
  | .free p => p ∈ state.live.map Prod.fst → (guardedFree state.mp p).isSome
  | .alloc _ _ => True
  | .clear => True

/-- No block in front of the pointer's own has the pointer in its first `mem_pool_size` bytes, and
the own block has that many bytes or another live pointer behind this one. -/
def Contained (state : PoolState) : PoolCall → Prop
  | .free p => p ∈ state.live.map Prod.fst → ∃ front mm back,
    state.mp.mlist = front ++ mm :: back ∧ Within mm p ∧
    (∀ other ∈ front, ¬(other.start ≤ p ∧ p < other.start + state.mp.memPoolSize)) ∧
    (mm.memPoolSize = state.mp.memPoolSize ∨
      ∃ q ∈ state.live.map Prod.fst, p < q ∧ Within mm q)
  | .alloc _ _ => True
  | .clear => True

instance decidableAttributed (state : PoolState) : (label : PoolCall) →
    Decidable (Attributed state label)
  | .free p => inferInstanceAs (Decidable (p ∈ state.live.map Prod.fst → _))
  | .alloc _ _ => .isTrue trivial
  | .clear => .isTrue trivial

section

variable {state next : PoolState} {blocks : List (MPMemory × List Piece)} {p : Nat}
  {memory : Heap} {mm : MPMemory} {pieces : List Piece} {frees allocs : List Nat}

/-- A block is in order whatever else may be accessed. -/
theorem Laid.narrow (laid : Laid memory mm pieces frees allocs) (low high : Nat) :
    Laid (memory.within low high) mm pieces frees allocs :=
  ⟨laid.tiles, ⟨laid.threads.nodes, laid.threads.distinct, laid.threads.free, laid.threads.alloc⟩,
    laid.free, laid.alloc, laid.allocMem, laid.allocProgMem⟩

/-- Narrower bounds leave the marks. -/
theorem Marks.narrow {stop except : Nat} (marks : Marks memory stop except pieces)
    (low high : Nat) : Marks (memory.within low high) stop except pieces :=
  ⟨marks.sizes, marks.flags, marks.feet⟩

/-- The memory of a block alone. -/
theorem Reachable.narrow (reachable : Reachable memory mm) :
    Reachable (memory.within mm.start mm.stop) mm :=
  ⟨⟨le_rfl, le_rfl⟩, reachable.bounded, reachable.positive⟩

/-- The block that `find_memory_list` finds. -/
theorem blockOf_eq_some {mp : Pool} (auto : mp.autoExtend = true) :
    blockOf mp p = some mm ↔ ∃ front back, mp.mlist = front ++ mm :: back ∧
      (mm.start ≤ p ∧ p < mm.start + mp.memPoolSize) ∧
      ∀ other ∈ front, ¬(other.start ≤ p ∧ p < other.start + mp.memPoolSize) := by
  have windowIs (other : MPMemory) :
      (decide (other.start ≤ p) && decide (p < other.start + mp.memPoolSize)) = true ↔
        other.start ≤ p ∧ p < other.start + mp.memPoolSize := by
    rw [Bool.and_eq_true, decide_eq_true_iff, decide_eq_true_iff]
  rw [blockOf, if_pos auto, findMemoryList, List.find?_eq_some_iff_append, windowIs]
  simp only [Bool.not_eq_true', ← Bool.not_eq_true, windowIs]
  constructor
  · rintro ⟨window, front, back, parts, others⟩
    exact ⟨front, back, parts, window, others⟩
  · rintro ⟨front, back, parts, window, others⟩
    exact ⟨window, front, back, parts, others⟩

/-- The release of a live pointer stays in its block exactly under the condition. -/
theorem Kept.attributed_iff (kept : Kept state blocks) (auto : state.mp.autoExtend = true)
    (live : p ∈ state.live.map Prod.fst) :
    (guardedFree state.mp p).isSome ↔ Contained state (.free p) := by
  obtain ⟨before, own, left, chunk, size, right, after, parts, rfl, within⟩ := kept.home live
  have member : (own, left ++ ⟨chunk, size, false⟩ :: right) ∈ blocks := by simp [parts]
  have reachable : Reachable state.mp.memory own := kept.sound.order.reach _ member
  have shorter : own.memPoolSize ≤ state.mp.memPoolSize := kept.sound.sizes _ member
  obtain ⟨frees, allocs, laid, marks⟩ :=
    (kept.sound.order.order _ member).laid_of_mem List.mem_append_cons_self
  obtain ⟨released, mm', allocs', done, laid', marks', same, agrees⟩ :=
    releaseChunk_spec reachable laid marks
  have reachable' : Reachable released mm' := (reachable.agrees agrees).same same
  -- a block of the pool with the pointer in it is its own
  have unique {mm : MPMemory} (known : mm ∈ state.mp.mlist) (inside : Within mm (chunk + 32)) :
      mm = own := by
    rw [kept.sound.mlist] at known
    obtain ⟨block, among, rfl⟩ := List.mem_map.mp known
    exact congrArg Prod.fst (kept.sound.order.unique among member inside within)
  have chunkIs : chunk + 32 - chunkHeader = chunk := by
    rw [chunkHeader]
    omega
  constructor
  · intro some _
    obtain ⟨result, guarded⟩ := Option.isSome_iff_exists.mp some
    obtain ⟨mm, found, guarded⟩ := Option.bind_eq_some_iff.mp guarded
    by_cases inside : Within mm (chunk + 32)
    · obtain rfl := unique (blockOf_mem found) inside
      obtain ⟨front, back, list, -, others⟩ := (blockOf_eq_some auto).mp found
      refine ⟨front, mm, back, list, inside, others, ?_⟩
      rw [if_pos inside, chunkIs, done, Option.bind_eq_bind, Option.bind_some] at guarded
      -- else the merge would read past the block
      by_contra neither
      rw [not_or, ← kept.behind member] at neither
      obtain ⟨short, none⟩ := neither
      have past : mm'.stop < mm'.start + state.mp.memPoolSize := by
        rw [MPMemory.stop, same.2]
        omega
      have free : ∀ piece ∈ right, piece.free = true := by
        intro piece among
        by_contra alloc
        exact none ⟨piece, among, by simpa using alloc⟩
      have lost := mergeFreeChunk_none reachable'.narrow (laid'.narrow _ _) (marks'.narrow _ _) rfl
        past free
      exact absurd (lost.symm.trans guarded) (by simp)
    · rw [if_neg inside] at guarded
      contradiction
  · intro contained
    obtain ⟨front, mm, back, list, inside, others, upTo⟩ := contained live
    have known : mm ∈ state.mp.mlist := by simp [list]
    obtain rfl := unique known inside
    have window : mm.start ≤ chunk + 32 ∧ chunk + 32 < mm.start + state.mp.memPoolSize := by
      rw [Within, MPMemory.stop] at inside
      omega
    have found : blockOf state.mp (chunk + 32) = some mm :=
      (blockOf_eq_some auto).mpr ⟨front, back, list, window, others⟩
    have upTo' : mm'.stop = mm'.start + state.mp.memPoolSize ∨
        mm'.stop ≤ mm'.start + state.mp.memPoolSize ∧ ∃ piece ∈ right, piece.free = false := by
      have stopIs : mm'.stop = mm'.start + mm.memPoolSize := by rw [MPMemory.stop, same.2]
      rcases upTo with whole | behind
      · left
        omega
      · exact .inr ⟨by omega, (kept.behind member).mpr behind⟩
    obtain ⟨later, mm'', -, -, merged, -⟩ := mergeFreeChunk_spec reachable'.narrow
      (laid'.narrow mm'.start mm'.stop) (marks'.narrow mm'.start mm'.stop) upTo'
    refine Option.isSome_iff_exists.mpr ⟨(later, mm''), ?_⟩
    refine Option.bind_eq_some_iff.mpr ⟨mm, found, ?_⟩
    rw [if_pos inside, chunkIs]
    exact Option.bind_eq_some_iff.mpr ⟨(released, mm'), done, merged⟩

/-- The release of a live pointer keeps the pool in order under the condition. -/
theorem Kept.free_contained (kept : Kept state blocks) (auto : state.mp.autoExtend = true)
    (contained : Contained state (.free p)) (live : p ∈ state.live.map Prod.fst) :
    ∃ next blocks', state.call (.free p) = some next ∧ Kept next blocks' ∧
      SameConfig state.mp next.mp ∧ SamePlaces blocks blocks' := by
  obtain ⟨front, mm, back, list, within, others, upTo⟩ := contained live
  have known : mm ∈ state.mp.mlist := by simp [list]
  have shorter : mm.memPoolSize ≤ state.mp.memPoolSize := by
    rw [kept.sound.mlist] at known
    obtain ⟨block, among, rfl⟩ := List.mem_map.mp known
    exact kept.sound.sizes block among
  have window : mm.start ≤ p ∧ p < mm.start + state.mp.memPoolSize := by
    rw [Within, MPMemory.stop] at within
    omega
  have found : blockOf state.mp p = some mm :=
    (blockOf_eq_some auto).mpr ⟨front, back, list, window, others⟩
  obtain ⟨next, blocks', done, kept', config, places, -⟩ := kept.free live found within upTo
  exact ⟨next, blocks', done, kept', config, places⟩

/-- A pool in order that may grow, whatever its pieces. -/
def GrowingPool (state : PoolState) : Prop :=
  state.mp.autoExtend = true ∧ ∃ blocks, Kept state blocks

/-- Every call leaves such a pool under the condition. -/
theorem GrowingPool.step {label : PoolCall} (unwrapped : Unwrapped state label)
    (contained : Contained state label) (pool : GrowingPool state)
    (stepped : state.call label = some next) : GrowingPool next := by
  obtain ⟨auto, blocks, kept⟩ := pool
  cases label with
  | alloc wantsize mallocs =>
    rw [Unwrapped, chunkHeader, chunkEnd, sizeofLong] at unwrapped
    obtain ⟨blocks', kept', -, result, served⟩ := kept.alloc (by omega) stepped
    exact ⟨served.config.auto.trans auto, blocks', kept'⟩
  | free p =>
    have live : p ∈ state.live.map Prod.fst := by
      by_contra dead
      rw [PoolState.call, if_neg dead] at stepped
      contradiction
    obtain ⟨later, blocks', done, kept', config, -⟩ := kept.free_contained auto contained live
    obtain rfl := Option.some.inj (done.symm.trans stepped)
    exact ⟨config.auto.trans auto, blocks', kept'⟩
  | clear =>
    obtain ⟨later, blocks', done, kept', config, -⟩ := kept.clear
    obtain rfl := Option.some.inj (done.symm.trans stepped)
    exact ⟨config.auto.trans auto, blocks', kept'⟩

/-- In such a pool a call is attributed rightly exactly under the condition. -/
theorem GrowingPool.attributed_iff {label : PoolCall} (pool : GrowingPool state) :
    Attributed state label ↔ Contained state label := by
  obtain ⟨auto, blocks, kept⟩ := pool
  cases label with
  | alloc wantsize mallocs => exact Iff.rfl
  | free p =>
    constructor
    · intro attributed live
      exact (kept.attributed_iff auto live).mp (attributed live) live
    · intro contained live
      exact (kept.attributed_iff auto live).mpr contained
  | clear => exact Iff.rfl

end

/-- In every run of a pool that may grow, whose requests do not wrap, all releases are attributed to
the block of the pointer and stay in it exactly when all of them meet the condition. -/
theorem releases_stay_in_block_iff (maxmempoolsize mempoolsize s : Nat) (uninitialised : Bool)
    (byte : Nat → UInt8) (room : chunkHeader + chunkEnd ≤ mempoolsize)
    (extension : mempoolsize + chunkHeader + chunkEnd ≤ maxmempoolsize)
    (fits : maxmempoolsize < 2 ^ 64) (positive : 0 < s)
    (inside : s + sizeofMemory + mempoolsize ≤ 2 ^ 64) :
    ∃ mp, memoryPoolInit maxmempoolsize mempoolsize uninitialised s byte = some mp ∧
      ∀ calls, poolSystem.Meets Unwrapped ⟨mp, []⟩ calls →
        (poolSystem.Meets Attributed ⟨mp, []⟩ calls ↔
          poolSystem.Meets Contained ⟨mp, []⟩ calls) := by
  rw [chunkHeader, chunkEnd] at room extension
  have makes : Makes maxmempoolsize mempoolsize s :=
    ⟨by omega, fits, by omega, .inr (by omega), positive, inside⟩
  obtain ⟨mp, blocks, made, sound, untaken, -, -, auto, -⟩ :=
    memoryPoolInit_spec makes uninitialised byte
  have kept : Kept ⟨mp, []⟩ blocks := sound.kept untaken
  refine ⟨mp, made, fun calls unwrapped => ?_⟩
  exact System.meets_iff_of (fun _ _ _ => GrowingPool.attributed_iff)
    (fun _ _ _ => GrowingPool.step) ⟨auto (by omega), blocks, kept⟩ unwrapped

/-- A request and its release in the server's pool. -/
theorem releases_stay_in_block_iff_server :
    ∃ mp, memoryPoolInit 524288000 314572800 false 4096 (fun _ => 0) = some mp ∧
      (poolSystem.Meets Attributed ⟨mp, []⟩ [.alloc 100 [], .free 4192] ↔
        poolSystem.Meets Contained ⟨mp, []⟩ [.alloc 100 [], .free 4192]) := by
  obtain ⟨mp, made, iff⟩ := releases_stay_in_block_iff 524288000 314572800 4096 false (fun _ => 0)
    (by decide) (by decide) (by decide) (by decide) (by decide)
  have small : 100 + chunkHeader + chunkEnd + sizeofLong < 2 ^ 64 := by decide
  exact ⟨mp, made, iff _ ⟨small, fun _ _ => ⟨trivial, fun _ _ => trivial⟩⟩⟩

/-- The server's pool has an extension block of 200 MB. A chunk at the end of it is released: the
forward merge reads the header that would begin where the block ends. -/
theorem release_leaves_short_block :
    ∃ mp, memoryPoolInit 524288000 314572800 false 4096 (fun _ => 0) = some mp ∧
      ∃ calls, poolSystem.Meets Unwrapped ⟨mp, []⟩ calls ∧
        ¬poolSystem.Meets Attributed ⟨mp, []⟩ calls := by
  have run : (memoryPoolInit 524288000 314572800 false 4096 fun _ => 0).any fun mp => decide
      (poolSystem.Meets Unwrapped ⟨mp, []⟩
        [.alloc 262144000 [], .alloc 104857600 [some 400000000], .free 400000096] ∧
      ¬poolSystem.Meets Attributed ⟨mp, []⟩
        [.alloc 262144000 [], .alloc 104857600 [some 400000000], .free 400000096]) := by
    decide +kernel
  obtain ⟨mp, made, fails⟩ := (Option.any_eq_true _ _).mp run
  exact ⟨mp, made, _, of_decide_eq_true fails⟩

end UubangIot.MemoryPool
