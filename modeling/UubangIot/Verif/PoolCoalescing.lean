import UubangIot.Verif.PoolTiling

/-!
# Freed memory coalesces

A release merges its chunk with the free chunks on both sides, so no two adjacent chunks of a block
are ever free. When nothing is live any more, each block is again the one free chunk that
`MemoryPoolInit` or an extension made of it, in whatever order the chunks were released.
-/

namespace UubangIot.MemoryPool

open ByteMemory DoublyLinked Transition

/-- No two adjacent chunks are free, and when nothing is live each block is one free chunk. -/
structure Merged (state : PoolState) : Prop where
  /-- The chunks of a block tile it, and of two adjacent ones one is allocated. -/
  apart : ∀ mm ∈ state.mp.mlist, ∃ pieces frees allocs,
    Laid state.mp.memory mm pieces frees allocs ∧ Marks state.mp.memory mm.stop 0 pieces ∧
    pieces.IsChain fun first second => first.free = false ∨ second.free = false
  /-- When nothing is live, a block is one free chunk of its size, nothing is counted as allocated
  and the list of allocated chunks is empty. -/
  whole : state.live = [] → ∀ mm ∈ state.mp.mlist,
    Laid state.mp.memory mm [⟨mm.start, state.mp.memPoolSize, true⟩] [mm.start] [] ∧
    Marks state.mp.memory mm.stop 0 [⟨mm.start, state.mp.memPoolSize, true⟩] ∧
    mm.allocMem = 0 ∧ mm.allocList = 0

section

variable {memory : Heap} {mm : MPMemory} {pieces : List Piece} {frees allocs : List Nat}
  {state next : PoolState} {blocks : List (MPMemory × List Piece)}

/-- Free pieces that are coalesced are one piece or none. -/
theorem Coalesced.alone (coalesced : Coalesced pieces) (all : ∀ piece ∈ pieces, piece.free = true) :
    pieces.length ≤ 1 := by
  cases pieces with
  | nil => exact Nat.zero_le 1
  | cons first pieces =>
    cases pieces with
    | nil => exact le_rfl
    | cons second rest =>
      have chain := (List.isChain_cons_cons.mp coalesced.apart).1
      rw [all first (by simp), all second (by simp)] at chain
      simp at chain

/-- A block that is tiled by free pieces and coalesced is one free chunk. -/
theorem Laid.whole (laid : Laid memory mm pieces frees allocs) (coalesced : Coalesced pieces)
    (all : ∀ piece ∈ pieces, piece.free = true) (room : 0 < mm.memPoolSize) :
    pieces = [⟨mm.start, mm.memPoolSize, true⟩] ∧ frees = [mm.start] ∧ allocs = [] := by
  have tiles := laid.tiles
  have few := coalesced.alone all
  have some : pieces ≠ [] := by
    rintro rfl
    have ends : mm.start = mm.stop := tiles
    rw [MPMemory.stop] at ends
    omega
  have one : pieces.length = 1 := by
    have := List.length_pos_of_ne_nil some
    omega
  obtain ⟨⟨address, size, free⟩, rfl⟩ := List.length_eq_one_iff.mp one
  obtain ⟨first, -, last⟩ := tiles
  have ends : mm.start + size = mm.stop := last
  rw [MPMemory.stop] at ends
  obtain rfl : address = mm.start := first
  obtain rfl : size = mm.memPoolSize := by omega
  obtain rfl : free = true := all _ List.mem_cons_self
  refine ⟨rfl, ?_, ?_⟩
  · exact List.perm_singleton.mp laid.free
  · exact List.Perm.eq_nil laid.alloc

/-- Nothing is allocated from the blocks when nothing is live. -/
theorem Kept.free_of_dead (kept : Kept state blocks) (dead : state.live = [])
    {block : MPMemory × List Piece} (member : block ∈ blocks) :
    ∀ piece ∈ block.2, piece.free = true := by
  intro piece inside
  by_contra alloc
  have among : piece ∈ allTaken blocks :=
    mem_allTaken.mpr ⟨block, member, List.mem_filter.mpr ⟨inside, by simpa using alloc⟩⟩
  have known := kept.booked.known piece among
  rw [dead] at known
  simp at known

/-- Coalesced blocks of one size are merged. -/
theorem Even.merged (even : Even state blocks) (settled : Settled blocks) : Merged state := by
  have sound := even.kept.sound
  have covers (mm : MPMemory) (member : mm ∈ state.mp.mlist) :
      ∃ pieces frees allocs, (mm, pieces) ∈ blocks ∧ Laid state.mp.memory mm pieces frees allocs ∧
        Marks state.mp.memory mm.stop 0 pieces := by
    rw [sound.mlist] at member
    obtain ⟨⟨mm, pieces⟩, known, rfl⟩ := List.mem_map.mp member
    have order := sound.order.order _ known
    cases order with
    | idle _ small =>
      have sizeIs := even.sizes _ known
      have room := even.room
      dsimp only at small sizeIs
      omega
    | laid laid marks => exact ⟨_, _, _, known, laid, marks⟩
  constructor
  · intro mm member
    obtain ⟨pieces, frees, allocs, known, laid, marks⟩ := covers mm member
    exact ⟨pieces, frees, allocs, laid, marks, (settled _ known).apart⟩
  · intro dead mm member
    obtain ⟨pieces, frees, allocs, known, laid, marks⟩ := covers mm member
    have sizeIs : mm.memPoolSize = state.mp.memPoolSize := even.sizes _ known
    have room := even.room
    obtain ⟨rfl, rfl, rfl⟩ :=
      laid.whole (settled _ known) (even.kept.free_of_dead dead known) (by omega)
    rw [← sizeIs]
    obtain ⟨last, -, ends⟩ := laid.threads.alloc
    exact ⟨laid, marks, laid.allocMem, ends⟩

/-- A pool whose blocks have one size and are coalesced, whatever their pieces. -/
def SettledPool (state : PoolState) : Prop := ∃ blocks, Even state blocks ∧ Settled blocks

/-- Every call leaves such a pool. -/
theorem SettledPool.step {label : PoolCall} (unwrapped : Unwrapped state label)
    (pool : SettledPool state) (stepped : state.call label = some next) : SettledPool next := by
  obtain ⟨blocks, even, settled⟩ := pool
  obtain ⟨blocks', even', settled'⟩ := even.step unwrapped stepped
  exact ⟨blocks', even', settled' settled⟩

end

/-- In every run of a pool whose blocks have one size no two adjacent chunks are free, and whenever
everything is released each block is one free chunk. -/
theorem freed_memory_coalesces (maxmempoolsize mempoolsize s : Nat) (uninitialised : Bool)
    (byte : Nat → UInt8)
    (ratio : maxmempoolsize = mempoolsize ∨ 2 * mempoolsize ≤ maxmempoolsize)
    (room : chunkHeader + chunkEnd ≤ mempoolsize) (fits : maxmempoolsize < 2 ^ 64)
    (positive : 0 < s) (inside : s + sizeofMemory + mempoolsize ≤ 2 ^ 64) :
    ∃ mp, memoryPoolInit maxmempoolsize mempoolsize uninitialised s byte = some mp ∧
      ∀ calls, poolSystem.Meets Unwrapped ⟨mp, []⟩ calls →
        poolSystem.Always Merged ⟨mp, []⟩ calls := by
  obtain ⟨mp, blocks, made, even, settled⟩ :=
    even_made uninitialised byte ratio room fits positive inside
  refine ⟨mp, made, fun calls meets => ?_⟩
  have merged (state : PoolState) (pool : SettledPool state) : Merged state := by
    obtain ⟨blocks, even, settled⟩ := pool
    exact even.merged settled
  exact System.always_of_meets merged (fun _ _ _ => SettledPool.step) ⟨blocks, even, settled⟩ meets

/-- Two requests that are released in the order they were made, in a pool of one block. -/
theorem freed_memory_coalesces_small :
    ∃ mp, memoryPoolInit 1000 1000 false 4096 (fun _ => 0) = some mp ∧
      poolSystem.Always Merged ⟨mp, []⟩
        [.alloc 100 [], .alloc 7 [], .free 4192, .free 4336] := by
  obtain ⟨mp, made, always⟩ := freed_memory_coalesces 1000 1000 4096 false (fun _ => 0) (.inl rfl)
    (by decide) (by decide) (by decide) (by decide)
  have first : 100 + chunkHeader + chunkEnd + sizeofLong < 2 ^ 64 := by decide
  have second : 7 + chunkHeader + chunkEnd + sizeofLong < 2 ^ 64 := by decide
  exact ⟨mp, made, always _ ⟨first, fun _ _ => ⟨second, fun _ _ =>
    ⟨trivial, fun _ _ => ⟨trivial, fun _ _ => trivial⟩⟩⟩⟩⟩

end UubangIot.MemoryPool
