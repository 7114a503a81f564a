import UubangIot.Verif.PoolRuns

/-!
# Requests that fail

The search of `MemoryPoolAlloc` turns a block down by its counter alone, and goes round again after
every extension of the pool. In any pool whose blocks are tiled and counted, whatever its sizes, the
counter turns down no block that has a free chunk for the request, and the rounds end: the total
grows to the maximum. So a request fails only when no block has a chunk for it and the pool cannot
grow. An extension may be too short for a chunk, or even for the header that is written at its start;
it is then never searched with success.
-/

namespace UubangIot.MemoryPool

open ByteMemory DoublyLinked

/-- A pool whose blocks are tiled by their chunks, none larger than the first, and counted by the
total. -/
structure Standing (mp : Pool) : Prop where
  /-- The chunks of a block tile it. -/
  tiled : ∀ mm ∈ mp.mlist, ∃ pieces frees allocs, pieces ≠ [] ∧
    Laid mp.memory mm pieces frees allocs ∧ Marks mp.memory mm.stop 0 pieces
  /-- No block is larger than `mem_pool_size`. -/
  sizes : ∀ mm ∈ mp.mlist, mm.memPoolSize ≤ mp.memPoolSize
  /-- `total_mem_pool_size` is the sum of the sizes. -/
  total : mp.totalMemPoolSize = sumOfSizes mp.mlist
  /-- It is at least the size of the first block. -/
  base : mp.memPoolSize ≤ mp.totalMemPoolSize
  /-- `mem_pool_size` is no more than the maximum, which is a `mem_size_t`. -/
  config : mp.memPoolSize ≤ mp.maxMemPoolSize ∧ mp.maxMemPoolSize < 2 ^ 64
  /-- All memory may be accessed. -/
  range : mp.memory.low = 0 ∧ mp.memory.high = 2 ^ 64

/-- No free chunk of a size: a block is shorter, or it is tiled and its free chunks are shorter. -/
def NoRoom (mp : Pool) (need : Nat) : Prop :=
  ∀ mm ∈ mp.mlist, mm.memPoolSize < need ∨ ∃ pieces frees allocs,
    Laid mp.memory mm pieces frees allocs ∧ Marks mp.memory mm.stop 0 pieces ∧
    ∀ piece ∈ pieces, piece.free = true → piece.size < need

/-- A pool that has grown by some blocks and cannot grow again: it does not extend, it has reached its
maximum, or the next answer of `malloc` is NULL. -/
def CannotGrow (mp mp' : Pool) (mallocs : List (Option Nat)) : Prop :=
  ∃ added, mp'.mlist.length = mp.mlist.length + added ∧
    (mp'.autoExtend = false ∨ mp'.maxMemPoolSize ≤ mp'.totalMemPoolSize ∨
      mallocs[added]? = some none)

/-- Every free piece of the blocks is too small. -/
def Short (need : Nat) (blocks : List (MPMemory × List Piece)) : Prop :=
  ∀ block ∈ blocks, ∀ piece ∈ block.2, piece.free = true → piece.size < need

section

variable {memory later : Heap} {mm : MPMemory} {pieces : List Piece} {need fuel : Nat}
  {blocks : List (MPMemory × List Piece)} {mp mp' : Pool} {mallocs : List (Option Nat)}

/-! ## A search that finds nothing -/

/-- A list in which nothing is found has only smaller chunks. -/
theorem findChunk_missed {source head last start stop : Nat} {nodes : List Nat}
    (opened : Open memory start stop)
    (segment : Segment (nextAt memory) (prevAt memory) source head nodes last 0)
    (inside : ∀ node ∈ nodes, start ≤ node ∧ node + 32 ≤ stop)
    (missed : findChunk memory need fuel head = some none) :
    ∀ node ∈ nodes, sizeAt memory node < need := by
  induction nodes generalizing source head fuel with
  | nil => simp
  | cons node rest ih =>
    obtain ⟨rfl, real, -, segment⟩ := segment
    obtain ⟨above, below⟩ := inside head List.mem_cons_self
    cases fuel with
    | zero => simp [findChunk] at missed
    | succ fuel =>
      rw [findChunk, if_neg real, allocMem_eq opened above below, Option.bind_eq_bind,
        Option.bind_some] at missed
      by_cases large : need ≤ sizeAt memory head
      · rw [if_pos large] at missed
        simp at missed
      · rw [if_neg large, next_eq opened above below, Option.bind_some] at missed
        have later := ih segment (fun node member => inside node (List.mem_cons_of_mem _ member))
          missed
        intro node member
        rcases List.mem_cons.mp member with rfl | member
        · omega
        · exact later node member

/-- What is allocated from a block leaves room for each of its free chunks. -/
theorem Laid.allocMem_add_le {frees allocs : List Nat} {piece : Piece}
    (laid : Laid memory mm pieces frees allocs) (member : piece ∈ pieces)
    (free : piece.free = true) : mm.allocMem + piece.size ≤ mm.memPoolSize := by
  obtain ⟨left, right, rfl⟩ := List.append_of_mem member
  obtain ⟨address, size, flag⟩ := piece
  obtain rfl : flag = true := free
  obtain ⟨before, -, after⟩ := laid.tiles.around
  have fitsBefore : mm.start + allocated Piece.size left ≤ address :=
    before.allocated_le fun _ _ => le_rfl
  have fitsAfter : address + size + allocated Piece.size right ≤ mm.stop :=
    after.allocated_le fun _ _ => le_rfl
  have sum := laid.allocMem
  rw [allocated_append, allocated_cons_free] at sum
  rw [MPMemory.stop] at fitsAfter
  dsimp only at fitsBefore fitsAfter ⊢
  omega

/-- A block in which nothing is found has only smaller free chunks: one that is turned down by its
counter has too little memory left for such a chunk. -/
theorem searchBlock_missed {memPoolSize : Nat} (reachable : Reachable memory mm)
    (order : InOrder memory mm pieces) (shorter : mm.memPoolSize ≤ memPoolSize)
    (fits : memPoolSize < 2 ^ 64) (missed : searchBlock memPoolSize need memory mm = some none) :
    ∀ piece ∈ pieces, piece.free = true → piece.size < need := by
  cases order with
  | idle => simp
  | laid laid marks =>
    intro piece member free
    by_cases passed : sub64 memPoolSize mm.allocMem < need
    · have left := laid.allocMem_add_le member free
      rw [sub64_of_le (by omega) fits] at passed
      omega
    · rw [searchBlock, if_neg passed] at missed
      obtain ⟨last, segment⟩ := laid.threads.free
      have listed := laid.free.mem_iff.mpr (mem_marked.mpr ⟨piece, member, free, rfl⟩)
      have smaller := findChunk_missed reachable.opened segment
        (fun node member => laid.threads.nodes.inside node (List.mem_append_left _ member)) missed
        piece.address listed
      rwa [marks.sizes piece member] at smaller

/-- Blocks in which nothing is found have only smaller free chunks. -/
theorem findFreeChunk_missed {memPoolSize : Nat} (all : Blocks memory blocks)
    (sizes : ∀ block ∈ blocks, block.1.memPoolSize ≤ memPoolSize) (fits : memPoolSize < 2 ^ 64)
    (missed : findFreeChunk memPoolSize need memory (blocks.map Prod.fst) = some none) :
    Short need blocks := by
  induction blocks with
  | nil => simp [Short]
  | cons block rest ih =>
    rw [List.map_cons, findFreeChunk] at missed
    obtain ⟨found, searched, missed⟩ := Option.bind_eq_some_iff.mp missed
    cases found with
    | some free =>
      obtain ⟨_, -, missed⟩ := Option.bind_eq_some_iff.mp missed
      simp at missed
    | none =>
      obtain ⟨found, searched', missed⟩ := Option.bind_eq_some_iff.mp missed
      obtain rfl : found = none := by simpa using missed
      have first := searchBlock_missed (all.reach block List.mem_cons_self)
        (all.order block List.mem_cons_self) (sizes block List.mem_cons_self) fits searched
      have others := ih all.tail (fun other member => sizes other (List.mem_cons_of_mem _ member))
        searched'
      intro other member
      rcases List.mem_cons.mp member with rfl | member
      · exact first
      · exact others other member

/-- Nothing is found in blocks that have only smaller free chunks. -/
theorem findFreeChunk_short (memPoolSize : Nat) (all : Blocks memory blocks) (least : 40 < need)
    (short : Short need blocks) :
    findFreeChunk memPoolSize need memory (blocks.map Prod.fst) = some none := by
  obtain ⟨found, search, right⟩ := findFreeChunk_spec memPoolSize all least
  cases found with
  | none => exact search
  | some result =>
    obtain ⟨later, mlist, p⟩ := result
    obtain ⟨blocks', piece, granted, front, mm, pieces, mm', pieces', back, rfl, -, cut⟩ :=
      right later mlist p rfl
    have enough := granted.enough
    have smaller := short (mm, pieces) (by simp)
    exfalso
    cases cut with
    | @split left right chunk size more =>
      have := smaller ⟨chunk, size, true⟩ (by simp) rfl
      dsimp only at this
      omega
    | @whole left right chunk size =>
      have := smaller ⟨chunk, size, true⟩ (by simp) rfl
      dsimp only at this enough
      omega

/-! ## The blocks of a pool that stands -/

/-- The blocks of a pool with their pieces. -/
theorem Standing.blocksInOrder (standing : Standing mp) (placed : Placed mp.mlist) :
    ∃ blocks : List (MPMemory × List Piece), mp.mlist = blocks.map Prod.fst ∧
      Blocks mp.memory blocks ∧ ∀ block ∈ blocks, ∃ frees allocs,
        Laid mp.memory block.1 block.2 frees allocs ∧ Marks mp.memory block.1.stop 0 block.2 := by
  have tiled := standing.tiled
  have range := standing.range
  generalize mp.mlist = mlist at tiled placed ⊢
  induction mlist with
  | nil => exact ⟨[], rfl, ⟨by simp, by simp, by simp, .nil⟩, by simp⟩
  | cons mm rest ih =>
    obtain ⟨pieces, frees, allocs, some, laid, marks⟩ := tiled mm List.mem_cons_self
    obtain ⟨blocks, rfl, all, covers⟩ :=
      ih (fun other member => tiled other (List.mem_cons_of_mem _ member))
        (placed.sublist (List.sublist_cons_self _ _))
    obtain ⟨ahead, -⟩ := List.pairwise_cons.mp placed.2
    have room : 32 ≤ mm.memPoolSize := by
      obtain ⟨piece, rest, rfl⟩ := List.exists_cons_of_ne_nil some
      have bounds := laid.tiles.bounds List.mem_cons_self
      rw [MPMemory.stop] at bounds
      omega
    refine ⟨(mm, pieces) :: blocks, rfl, ?_, fun block member => ?_⟩
    · exact all.cons (.laid laid marks) (placed.reachable range List.mem_cons_self) room
        fun other member => ahead other.1 (List.mem_map_of_mem member)
    · rcases List.mem_cons.mp member with rfl | member
      · exact ⟨frees, allocs, laid, marks⟩
      · exact covers block member

/-- A pool that stands is in order when its extensions have room for a header. -/
theorem Standing.sound (standing : Standing mp) (list : mp.mlist = blocks.map Prod.fst)
    (all : Blocks mp.memory blocks) (extendable : Extendable mp) : Sound mp blocks where
  mlist := list
  order := all
  range := standing.range
  sizes block member := standing.sizes block.1 (by
    rw [list]
    exact List.mem_map_of_mem member)
  extendable := extendable
  total := standing.total
  base := standing.base
  config := standing.config

/-- A pool in order without a free chunk for a request has no room for it. -/
theorem Sound.noRoom (sound : Sound mp blocks) (least : 40 < need)
    (missed : findFreeChunk mp.memPoolSize need mp.memory mp.mlist = some none) :
    NoRoom mp need := by
  have fits : mp.memPoolSize < 2 ^ 64 := Nat.lt_of_le_of_lt sound.config.1 sound.config.2
  rw [sound.mlist] at missed
  have short := findFreeChunk_missed sound.order sound.sizes fits missed
  intro mm member
  rw [sound.mlist] at member
  obtain ⟨⟨mm, pieces⟩, known, rfl⟩ := List.mem_map.mp member
  have order := sound.order.order _ known
  cases order with
  | idle _ small =>
    left
    dsimp only at small ⊢
    omega
  | laid laid marks => exact .inr ⟨_, _, _, laid, marks, short _ known⟩

/-- The loop when extensions have room for a header: it serves the request with at most one of them,
or no block has room and the pool cannot grow. -/
theorem Sound.allocLoop_returns (sound : Sound mp blocks) (least : 40 < need)
    (small : need ≤ mp.memPoolSize) (placed : Placed (answered mp mallocs ++ mp.mlist))
    (enough : mp.maxMemPoolSize - mp.totalMemPoolSize ≤ mallocs.length) :
    ∃ mp' result, allocLoop need mp mallocs = some (mp', result) ∧
      (result = none → NoRoom mp' need ∧ CannotGrow mp mp' mallocs) := by
  rcases sound.search least with missed | ⟨memory, mlist, p, -, -, found, -⟩
  · by_cases full : Full mp
    · refine ⟨mp, none, allocLoop_full missed full, fun _ => ⟨sound.noRoom least missed, 0, rfl, ?_⟩⟩
      rcases full with off | reached
      · exact .inl off
      · exact .inr (.inl reached)
    · cases mallocs with
      | nil =>
        rw [List.length_nil] at enough
        exact absurd (.inr (by omega)) full
      | cons answer mallocs =>
        cases answer with
        | none =>
          exact ⟨mp, none, allocLoop_null missed full,
            fun _ => ⟨sound.noRoom least missed, 0, rfl, .inr (.inr rfl)⟩⟩
        | some s =>
          obtain ⟨extended, mm, pieces, done, sound', -, config, once, -⟩ :=
            sound.extend least small full placed
          rw [allocLoop_extended missed full done]
          rcases sound'.search least with missed' | ⟨memory, mlist, p, -, -, found, -⟩
          · refine ⟨_, none, allocLoop_full missed' (once missed'), fun _ =>
              ⟨sound'.noRoom least missed', 1, ?_, ?_⟩⟩
            · rw [sound'.mlist, sound.mlist]
              simp
            · rcases once missed' with off | reached
              · exact .inl off
              · exact .inr (.inl reached)
          · exact ⟨_, _, allocLoop_found found, by simp⟩
  · exact ⟨_, _, allocLoop_found found, by simp⟩

/-! ## Extensions without room for a header -/

/-- A new block that is shorter than the header at its start. -/
structure Stub (memory : Heap) (mm : MPMemory) : Prop where
  /-- The header is that of a new block. -/
  fresh : Fresh memory mm
  /-- It is alone in its list. -/
  last : nextAt memory mm.start = 0
  /-- It lies in the address space. -/
  place : 0 < mm.start ∧ mm.start + 32 ≤ 2 ^ 64
  /-- It is longer than the block. -/
  size : 0 < mm.memPoolSize ∧ mm.memPoolSize < 32

/-- A pool of such blocks in front of blocks that have no room for a request. -/
structure Stubbed (mp : Pool) (need : Nat) (stubs : List MPMemory)
    (blocks : List (MPMemory × List Piece)) : Prop where
  /-- The short blocks are in front. -/
  mlist : mp.mlist = stubs ++ blocks.map Prod.fst
  /-- They are short. -/
  stubs : ∀ mm ∈ stubs, Stub mp.memory mm
  /-- The other blocks are in order. -/
  order : Blocks mp.memory blocks
  /-- They have no room. -/
  short : Short need blocks
  /-- `total_mem_pool_size` is the sum of the sizes. -/
  total : mp.totalMemPoolSize = sumOfSizes mp.mlist
  /-- All memory may be accessed. -/
  range : mp.memory.low = 0 ∧ mp.memory.high = 2 ^ 64

variable {stubs : List MPMemory} {s : Nat}

/-- A short block stays one while its header does. -/
theorem Stub.frame (stub : Stub memory mm)
    (agrees : Heap.Agrees (fun place => mm.start ≤ place ∧ place < mm.start + 32) memory later) :
    Stub later mm := by
  refine ⟨⟨stub.fresh.list, stub.fresh.unused, ?_⟩, ?_, stub.place, stub.size⟩
  · rw [← stub.fresh.sized]
    exact agrees.value fun place above below => ⟨above, by omega⟩
  · rw [← stub.last]
    exact agrees.value fun place above below => ⟨by omega, by omega⟩

/-- Nothing is found in a short block. -/
theorem Stub.missed (stub : Stub memory mm) (range : memory.low = 0 ∧ memory.high = 2 ^ 64)
    (memPoolSize : Nat) (least : 40 < need) : searchBlock memPoolSize need memory mm = some none := by
  obtain ⟨positive, below⟩ := stub.place
  obtain ⟨some, small⟩ := stub.size
  have opened : Open memory mm.start (mm.start + 32) := by
    rw [Open, range.1, range.2]
    exact ⟨Nat.zero_le _, below⟩
  obtain ⟨fuel, fuelIs⟩ : ∃ fewer, mm.memPoolSize = fewer + 1 := ⟨mm.memPoolSize - 1, by omega⟩
  rw [searchBlock]
  split
  · rfl
  · rw [stub.fresh.list, fuelIs, findChunk, if_neg (by omega), allocMem_eq opened le_rfl le_rfl,
      Option.bind_eq_bind, Option.bind_some, stub.fresh.sized, if_neg (by omega),
      next_eq opened le_rfl le_rfl, Option.bind_some, stub.last, findChunk, if_pos rfl]

/-- Nothing is found in such a pool. -/
theorem Stubbed.missed (stubbed : Stubbed mp need stubs blocks) (least : 40 < need) :
    findFreeChunk mp.memPoolSize need mp.memory mp.mlist = some none := by
  have behind := findFreeChunk_short mp.memPoolSize stubbed.order least stubbed.short
  have short := stubbed.stubs
  have range := stubbed.range
  rw [stubbed.mlist]
  clear stubbed
  induction stubs with
  | nil => exact behind
  | cons mm rest ih =>
    have searched := (short mm List.mem_cons_self).missed range mp.memPoolSize least
    have others := ih fun other member => short other (List.mem_cons_of_mem _ member)
    rw [List.cons_append, findFreeChunk]
    refine Option.bind_eq_some_iff.mpr ⟨none, searched, ?_⟩
    exact Option.bind_eq_some_iff.mpr ⟨none, others, rfl⟩

/-- Such a pool has no room. -/
theorem Stubbed.noRoom (stubbed : Stubbed mp need stubs blocks) (least : 40 < need) :
    NoRoom mp need := by
  intro mm member
  rw [stubbed.mlist] at member
  rcases List.mem_append.mp member with member | member
  · have small := (stubbed.stubs mm member).size.2
    left
    omega
  · obtain ⟨⟨mm, pieces⟩, known, rfl⟩ := List.mem_map.mp member
    have order := stubbed.order.order _ known
    cases order with
    | idle _ small =>
      left
      dsimp only at small ⊢
      omega
    | laid laid marks => exact .inr ⟨_, _, _, laid, marks, stubbed.short _ known⟩

/-- `extend_memory_list` writes the header of a new block and nothing else, clear of all blocks and
their descriptors, and the other answers of `malloc` are still good. -/
theorem extendMemoryList_headed (range : mp.memory.low = 0 ∧ mp.memory.high = 2 ^ 64)
    (placed : Placed (answered mp (some s :: mallocs) ++ mp.mlist))
    (high : s + sizeofMemory + chunkHeader ≤ 2 ^ 64) :
    ∃ extended mm, extendMemoryList mp (addMemSz mp) s = some extended ∧
      extended.mlist = mm :: mp.mlist ∧ Headed extended.memory mm ∧
      mm.place = (s + sizeofMemory, addMemSz mp) ∧ SameConfig mp extended ∧
      extended.totalMemPoolSize = mp.totalMemPoolSize ∧
      Placed (answered extended mallocs ++ extended.mlist) ∧
      Heap.Agrees (fun place => place < mm.start ∨ mm.start + 32 ≤ place) mp.memory extended.memory ∧
      ∀ other ∈ mp.mlist, mm.start + 32 ≤ other.start ∨ other.stop + 64 ≤ mm.start := by
  have fits : addMemSz mp < 2 ^ 64 := by
    have bound : sub64 mp.maxMemPoolSize mp.memPoolSize < 2 ^ 64 := Nat.mod_lt _ (by decide)
    rw [addMemSz]
    split <;> omega
  rw [answered_cons s ⟨rfl, rfl, rfl⟩, List.append_assoc, List.singleton_append] at placed
  have placed' := placed.sublist (List.sublist_append_right _ _)
  have apart := (List.pairwise_cons.mp placed'.2).1
  rw [chunkHeader] at high
  have opened : Open mp.memory (s + sizeofMemory) (s + sizeofMemory + 32) := by
    rw [Open, range.1, range.2]
    exact ⟨Nat.zero_le _, high⟩
  obtain ⟨later, mm, done, startIs, sizeIs, headed, agrees⟩ :=
    mpInitMemoryStruct_eq (.fresh s mp.lastId) opened fits
  have startIs : mm.start = s + sizeofMemory := startIs
  refine ⟨{ mp with
      memory := later, mlist := mm :: mp.mlist, lastId := (mp.lastId + 1) % 2 ^ 32 }, mm,
    Option.bind_eq_some_iff.mpr ⟨_, done, rfl⟩, rfl, headed, ?_, ⟨rfl, rfl, rfl⟩, rfl, ?_, ?_,
    fun other member => ?_⟩
  · rw [MPMemory.place, startIs, sizeIs]
  · refine placed_congr ?_ placed
    rw [List.map_append, List.map_append, List.map_cons, List.map_cons, MPMemory.place, startIs,
      sizeIs]
    rfl
  · rw [startIs]
    exact agrees
  -- the header lies in front of or behind every other block, its descriptor included
  · have bounds := placed'.1 other (List.mem_cons_of_mem _ member)
    have sides := apart other member
    rw [MPMemory.Apart, MPMemory.stop, MPMemory.fresh, sizeofMemory] at sides
    rw [sizeofMemory] at bounds
    dsimp only at sides
    rw [startIs, sizeofMemory]
    omega

/-- Such a pool is extended by one more short block. -/
theorem Stubbed.extend (stubbed : Stubbed mp need stubs blocks)
    (short : 0 < addMemSz mp ∧ addMemSz mp < 32)
    (placed : Placed (answered mp (some s :: mallocs) ++ mp.mlist))
    (high : s + sizeofMemory + chunkHeader ≤ 2 ^ 64) :
    ∃ extended mm, extendMemoryList mp (addMemSz mp) s = some extended ∧
      Stubbed { extended with totalMemPoolSize := add64 extended.totalMemPoolSize (addMemSz mp) }
        need (mm :: stubs) blocks ∧
      SameConfig mp extended ∧
      add64 extended.totalMemPoolSize (addMemSz mp) = mp.totalMemPoolSize + addMemSz mp ∧
      extended.mlist.length = mp.mlist.length + 1 ∧
      Placed (answered extended mallocs ++ extended.mlist) := by
  obtain ⟨extended, mm, done, list, headed, place, config, total, placed', agrees, clear⟩ :=
    extendMemoryList_headed stubbed.range placed high
  have startIs : mm.start = s + sizeofMemory := congrArg Prod.fst place
  have sizeIs : mm.memPoolSize = addMemSz mp := congrArg Prod.snd place
  rw [chunkHeader] at high
  have stub : Stub extended.memory mm := by
    refine ⟨headed.fresh, headed.links.2, ⟨?_, ?_⟩, ?_⟩
    · rw [startIs, sizeofMemory]
      omega
    · rw [startIs]
      exact high
    · rw [sizeIs]
      exact short
  have sum : sumOfSizes (mm :: mp.mlist) < 2 ^ 64 := by
    rw [← list]
    exact (placed'.sublist (List.sublist_append_right _ _)).sum_lt
  rw [sumOfSizes, List.map_cons, List.sum_cons, ← sumOfSizes, ← stubbed.total, sizeIs] at sum
  have grown : add64 extended.totalMemPoolSize (addMemSz mp) =
      mp.totalMemPoolSize + addMemSz mp := by
    rw [total]
    exact add64_of_lt (by omega)
  have inStubs (other : MPMemory) (member : other ∈ stubs) : other ∈ mp.mlist := by
    rw [stubbed.mlist]
    exact List.mem_append_left _ member
  have inBlocks (block : MPMemory × List Piece) (member : block ∈ blocks) : block.1 ∈ mp.mlist := by
    rw [stubbed.mlist]
    exact List.mem_append_right _ (List.mem_map_of_mem member)
  refine ⟨extended, mm, done, ⟨?_, fun other member => ?_, ?_, stubbed.short, ?_, ?_⟩, config, grown,
    ?_, placed'⟩
  · dsimp only
    rw [list, stubbed.mlist, List.cons_append]
  · rcases List.mem_cons.mp member with rfl | member
    · exact stub
    · have sides := clear other (inStubs other member)
      have size := (stubbed.stubs other member).size
      refine (stubbed.stubs other member).frame (agrees.mono fun place there => ?_)
      rw [MPMemory.stop] at sides
      omega
  · refine stubbed.order.frame agrees fun block member place within => ?_
    have sides := clear block.1 (inBlocks block member)
    rw [Within] at within
    omega
  · dsimp only
    rw [grown, list, stubbed.total, sumOfSizes, sumOfSizes, List.map_cons, List.sum_cons, sizeIs,
      Nat.add_comm]
  · dsimp only
    rw [agrees.low, agrees.high]
    exact stubbed.range
  · rw [list, List.length_cons]

/-- The loop in such a pool grows it until it cannot grow, and serves no request. -/
theorem Stubbed.allocLoop_null (stubbed : Stubbed mp need stubs blocks) (least : 40 < need)
    (short : 0 < addMemSz mp ∧ addMemSz mp < 32)
    (placed : Placed (answered mp mallocs ++ mp.mlist))
    (high : ∀ s, some s ∈ mallocs → s + sizeofMemory + chunkHeader ≤ 2 ^ 64)
    (enough : mp.maxMemPoolSize - mp.totalMemPoolSize ≤ mallocs.length) :
    ∃ mp', allocLoop need mp mallocs = some (mp', none) ∧ NoRoom mp' need ∧
      CannotGrow mp mp' mallocs := by
  induction mallocs generalizing mp stubs with
  | nil =>
    rw [List.length_nil] at enough
    exact ⟨mp, allocLoop_full (stubbed.missed least) (.inr (by omega)), stubbed.noRoom least, 0, rfl,
      .inr (.inl (by omega))⟩
  | cons answer mallocs ih =>
    have missed := stubbed.missed least
    by_cases full : Full mp
    · refine ⟨mp, allocLoop_full missed full, stubbed.noRoom least, 0, rfl, ?_⟩
      rcases full with off | reached
      · exact .inl off
      · exact .inr (.inl reached)
    · cases answer with
      | none =>
        exact ⟨mp, MemoryPool.allocLoop_null missed full, stubbed.noRoom least, 0, rfl,
          .inr (.inr rfl)⟩
      | some s =>
        obtain ⟨extended, mm, done, stubbed', config, total, length, placed'⟩ :=
          stubbed.extend short placed (high s List.mem_cons_self)
        have config' : SameConfig mp { extended with
            totalMemPoolSize := add64 extended.totalMemPoolSize (addMemSz mp) } :=
          ⟨config.size, config.max, config.auto⟩
        rw [List.length_cons] at enough
        obtain ⟨mp', looped, noRoom, added, grown, why⟩ := ih stubbed'
          (by rwa [config'.addMemSz]) placed'
          (fun s member => high s (List.mem_cons_of_mem _ member))
          (by dsimp only; rw [config.max, total]; omega)
        refine ⟨mp', ?_, noRoom, added + 1, ?_, why⟩
        · rw [allocLoop_extended missed full done, looped]
        · dsimp only at grown
          omega

/-- The loop in a pool that stands: it ends, and when it serves no request no block has room for it
and the pool cannot grow. -/
theorem Standing.allocLoop_returns (standing : Standing mp) (least : 40 < need)
    (small : need ≤ mp.memPoolSize) (placed : Placed (answered mp mallocs ++ mp.mlist))
    (high : ∀ s, some s ∈ mallocs → s + sizeofMemory + chunkHeader ≤ 2 ^ 64)
    (enough : mp.maxMemPoolSize - mp.totalMemPoolSize ≤ mallocs.length) :
    ∃ mp' result, allocLoop need mp mallocs = some (mp', result) ∧
      (result = none → NoRoom mp' need ∧ CannotGrow mp mp' mallocs) := by
  obtain ⟨blocks, list, all, -⟩ :=
    standing.blocksInOrder (placed.sublist (List.sublist_append_right _ _))
  by_cases extendable : Extendable mp
  · exact (standing.sound list all extendable).allocLoop_returns least small placed enough
  · rw [Extendable, not_or] at extendable
    obtain ⟨tiny, below⟩ := extendable
    obtain ⟨le, fits⟩ := standing.config
    have base := standing.base
    have some : 0 < addMemSz mp := by
      rw [addMemSz, sub64_of_le le fits]
      split <;> omega
    obtain ⟨found, search, -⟩ := findFreeChunk_spec mp.memPoolSize all least
    rw [← list] at search
    cases found with
    | none =>
      have short := findFreeChunk_missed all (fun block member => standing.sizes block.1 (by
        rw [list]
        exact List.mem_map_of_mem member)) (by omega) (list ▸ search)
      have stubbed : Stubbed mp need [] blocks :=
        ⟨list, by simp, all, short, standing.total, standing.range⟩
      obtain ⟨mp', looped, failed⟩ :=
        stubbed.allocLoop_null least ⟨some, by omega⟩ placed high enough
      exact ⟨mp', none, looped, fun _ => failed⟩
    | some result =>
      obtain ⟨memory, mlist, p⟩ := result
      exact ⟨_, _, allocLoop_found search, by simp⟩

end

/-- In every pool that stands `MemoryPoolAlloc` returns, with at most as many answers of `malloc` as
the pool is bytes short of its maximum; it returns NULL only when nothing is wanted, when the request
is larger than `mem_pool_size`, or when no block has a free chunk for it and the pool cannot grow. -/
theorem allocation_fails_only_when_it_must (mp : Pool) (standing : Standing mp) (wantsize : Nat)
    (unwrapped : wantsize + chunkHeader + chunkEnd + sizeofLong < 2 ^ 64)
    (mallocs : List (Option Nat)) (placed : Placed (answered mp mallocs ++ mp.mlist))
    (high : ∀ s, some s ∈ mallocs → s + sizeofMemory + chunkHeader ≤ 2 ^ 64)
    (enough : mp.maxMemPoolSize - mp.totalMemPoolSize ≤ mallocs.length) :
    ∃ mp' result, memoryPoolAlloc mp wantsize mallocs = some (mp', result) ∧
      (result = none → wantsize = 0 ∨ mp.memPoolSize < totalNeededSize wantsize ∨
        NoRoom mp' (totalNeededSize wantsize) ∧ CannotGrow mp mp' mallocs) := by
  rw [chunkHeader, chunkEnd, sizeofLong] at unwrapped
  have needed := totalNeededSize_eq (show wantsize + 44 < 2 ^ 64 by omega)
  rw [memoryPoolAlloc]
  by_cases zero : wantsize = 0
  · exact ⟨mp, none, if_pos zero, fun _ => .inl zero⟩
  · rw [if_neg zero]
    by_cases large : mp.memPoolSize < totalNeededSize wantsize
    · exact ⟨mp, none, if_pos large, fun _ => .inr (.inl large)⟩
    · rw [if_neg large]
      obtain ⟨mp', result, done, failed⟩ := standing.allocLoop_returns
        (show 40 < totalNeededSize wantsize by omega) (by omega) placed high enough
      exact ⟨mp', result, done, fun none => .inr (.inr (failed none))⟩

/-- A pool in order stands when its blocks have room for a chunk. -/
theorem Sound.standing {mp : Pool} {blocks : List (MPMemory × List Piece)} (sound : Sound mp blocks)
    (room : ∀ block ∈ blocks, 40 ≤ block.1.memPoolSize) : Standing mp where
  tiled mm member := by
    rw [sound.mlist] at member
    obtain ⟨⟨mm, pieces⟩, known, rfl⟩ := List.mem_map.mp member
    have large := room _ known
    have order := sound.order.order _ known
    cases order with
    | idle _ small =>
      dsimp only at small large
      omega
    | laid laid marks =>
      refine ⟨pieces, _, _, ?_, laid, marks⟩
      rintro rfl
      have ends : mm.start = mm.stop := laid.tiles
      rw [MPMemory.stop] at ends
      dsimp only at large
      omega
  sizes mm member := by
    rw [sound.mlist] at member
    obtain ⟨block, known, rfl⟩ := List.mem_map.mp member
    exact sound.sizes block known
  total := sound.total
  base := sound.base
  config := sound.config
  range := sound.range

/-- A pool of 300 bytes that may grow by 32 stands, and `malloc` may give it memory at 10000. -/
theorem smallPool : ∃ mp, memoryPoolInit 332 300 true 4096 (fun _ => 0) = some mp ∧ Standing mp ∧
    mp.maxMemPoolSize = 332 ∧ mp.totalMemPoolSize = 300 ∧
    ∀ mallocs : List (Option Nat), mallocs.filterMap id = [10000] →
      Placed (answered mp mallocs ++ mp.mlist) := by
  have makes : Makes 332 300 4096 :=
    ⟨by decide, by decide, by decide, by decide, by decide, by decide⟩
  obtain ⟨mp, blocks, made, sound, -, sizeIs, maxIs, -, places, -⟩ :=
    memoryPoolInit_spec makes true (fun _ => 0)
  have places' : mp.mlist.map MPMemory.place = [(4096 + sizeofMemory, 300)] := by
    rw [sound.mlist, List.map_map]
    exact places
  have total : mp.totalMemPoolSize = 300 := by
    have sizes : mp.mlist.map MPMemory.memPoolSize = [300] := by
      have := congrArg (List.map Prod.snd) places'
      rwa [List.map_map] at this
    rw [sound.total, sumOfSizes, sizes]
    rfl
  have added : addMemSz mp = 32 := by
    rw [addMemSz, sizeIs, maxIs]
    rfl
  refine ⟨mp, made, sound.standing fun block member => ?_, maxIs, total, fun mallocs only => ?_⟩
  · have image : block.1.place ∈ blocks.map fun block => block.1.place :=
      List.mem_map.mpr ⟨block, member, rfl⟩
    rw [places] at image
    have size : block.1.memPoolSize = 300 := congrArg Prod.snd (List.mem_singleton.mp image)
    omega
  · have concrete : Placed [⟨10064, 0, 32, 0, 0, 0, 0⟩, ⟨4160, 0, 300, 0, 0, 0, 0⟩] := by decide
    refine placed_congr ?_ concrete
    rw [List.map_append, places', answered, only, added]
    rfl

/-- A request in that pool. -/
theorem allocation_fails_only_when_it_must_small :
    ∃ mp, memoryPoolInit 332 300 true 4096 (fun _ => 0) = some mp ∧ ∃ mp' result,
      memoryPoolAlloc mp 250 (some 10000 :: List.replicate 31 none) = some (mp', result) ∧
      (result = none → 250 = 0 ∨ mp.memPoolSize < totalNeededSize 250 ∨
        NoRoom mp' (totalNeededSize 250) ∧
          CannotGrow mp mp' (some 10000 :: List.replicate 31 none)) := by
  obtain ⟨mp, made, standing, maxIs, total, placed⟩ := smallPool
  refine ⟨mp, made, allocation_fails_only_when_it_must mp standing 250 (by decide) _
    (placed _ rfl) ?_ ?_⟩
  · intro s member
    obtain rfl : s = 10000 := by simpa using member
    decide
  · rw [maxIs, total]
    decide

end UubangIot.MemoryPool
