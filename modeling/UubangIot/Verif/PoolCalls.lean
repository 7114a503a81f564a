import UubangIot.Verif.PoolMerge

/-!
# The blocks of a pool

What the calls of the pool's interface do to blocks that are in order: which chunk becomes
allocated or free, and that every block is in order afterwards. A block too small for any request
is in order in its own way: one free chunk that no request gets.
-/

namespace UubangIot.MemoryPool

open ByteMemory DoublyLinked

/-- A block in order, with the pieces it is made of. -/
inductive InOrder (memory : Heap) (mm : MPMemory) : List Piece → Prop
  /-- The pieces cover the block and the lists hold them. -/
  | laid {pieces : List Piece} {frees allocs : List Nat}
    (laid : Laid memory mm pieces frees allocs) (marks : Marks memory mm.stop 0 pieces) :
    InOrder memory mm pieces
  /-- The block has room for a header and no more. -/
  | idle (room : 32 ≤ mm.memPoolSize) (small : mm.memPoolSize < 40) (unused : mm.allocMem = 0)
    (listed : mm.freeList = mm.start) (sized : sizeAt memory mm.start = mm.memPoolSize)
    (last : nextAt memory mm.start = 0) : InOrder memory mm []

section

variable {memory later : Heap} {mm : MPMemory} {pieces : List Piece} {need fuel : Nat}

/-- A block stays in order while its bytes do. -/
theorem InOrder.frame (order : InOrder memory mm pieces)
    (agrees : Heap.Agrees (Within mm) memory later) : InOrder later mm pieces := by
  cases order with
  | laid laid marks => exact .laid (laid.frame agrees) (marks.frame laid.tiles agrees)
  | idle room small unused listed sized last =>
    have inside : ∀ place, mm.start ≤ place → place < mm.start + 32 → Within mm place := by
      intro place above below
      rw [Within, MPMemory.stop]
      omega
    refine .idle room small unused listed ?_ ?_
    · rw [← sized]
      exact agrees.value fun place above below => inside place above (by omega)
    · rw [← last]
      exact agrees.value fun place above below => inside place (by omega) (by omega)

/-- A block with a piece is covered by its pieces. -/
theorem InOrder.laid_of_mem {piece : Piece} (order : InOrder memory mm pieces)
    (member : piece ∈ pieces) :
    ∃ frees allocs, Laid memory mm pieces frees allocs ∧ Marks memory mm.stop 0 pieces := by
  cases order with
  | laid laid marks => exact ⟨_, _, laid, marks⟩
  | idle => simp at member

/-- What is allocated from a block is no more than it has. -/
theorem InOrder.allocMem_le (order : InOrder memory mm pieces) : mm.allocMem ≤ mm.memPoolSize := by
  cases order with
  | laid laid marks => exact laid.allocMem_le
  | idle room small unused =>
    rw [unused]
    exact Nat.zero_le _

/-! ## Searching -/

/-- The search of a list ends, at a chunk of the list that is large enough or at none. -/
theorem findChunk_spec {source head last start stop : Nat} {nodes : List Nat}
    (opened : Open memory start stop)
    (segment : Segment (nextAt memory) (prevAt memory) source head nodes last 0)
    (inside : ∀ node ∈ nodes, start ≤ node ∧ node + 32 ≤ stop) (enough : nodes.length < fuel) :
    ∃ found, findChunk memory need fuel head = some found ∧
      ∀ chunk, found = some chunk → chunk ∈ nodes ∧ need ≤ sizeAt memory chunk := by
  induction nodes generalizing source head fuel with
  | nil =>
    obtain ⟨fuel, rfl⟩ : ∃ fewer, fuel = fewer + 1 := ⟨fuel - 1, by omega⟩
    obtain ⟨-, rfl⟩ := segment
    exact ⟨none, by rw [findChunk, if_pos rfl], by simp⟩
  | cons node rest ih =>
    rw [List.length_cons] at enough
    obtain ⟨fuel, rfl⟩ : ∃ fewer, fuel = fewer + 1 := ⟨fuel - 1, by omega⟩
    obtain ⟨rfl, real, -, segment⟩ := segment
    obtain ⟨above, below⟩ := inside head List.mem_cons_self
    by_cases large : need ≤ sizeAt memory head
    · refine ⟨some head, ?_, ?_⟩
      · rw [findChunk, if_neg real, allocMem_eq opened above below, Option.bind_eq_bind,
          Option.bind_some, if_pos large, Option.pure_def]
      · rintro chunk same
        obtain rfl := Option.some.inj same
        exact ⟨List.mem_cons_self, large⟩
    · obtain ⟨found, done, right⟩ := ih segment
        (fun node member => inside node (List.mem_cons_of_mem _ member))
        (show rest.length < fuel by omega)
      refine ⟨found, ?_, fun chunk same => ?_⟩
      · rw [findChunk, if_neg real, allocMem_eq opened above below, Option.bind_eq_bind,
          Option.bind_some, if_neg large, next_eq opened above below, Option.bind_some, done]
      · obtain ⟨member, large⟩ := right chunk same
        exact ⟨List.mem_cons_of_mem _ member, large⟩

/-- There are no more free chunks than bytes. -/
theorem Laid.frees_length {frees allocs : List Nat} (laid : Laid memory mm pieces frees allocs) :
    frees.length < mm.memPoolSize + 1 := by
  have length := laid.tiles.length_le
  have fewer : (marked true pieces).length ≤ pieces.length := by
    rw [marked, List.length_map]
    exact List.length_filter_le _ _
  rw [laid.free.length_eq]
  rw [MPMemory.stop] at length
  omega

/-- The search of a block ends, at a free chunk that is large enough or at none. -/
theorem searchBlock_spec (memPoolSize : Nat) (reachable : Reachable memory mm)
    (order : InOrder memory mm pieces) (least : 40 < need) :
    ∃ found, searchBlock memPoolSize need memory mm = some found ∧
      ∀ chunk, found = some chunk → ∃ frees allocs, Laid memory mm pieces frees allocs ∧
        Marks memory mm.stop 0 pieces ∧ chunk ∈ frees ∧ need ≤ sizeAt memory chunk := by
  by_cases passed : sub64 memPoolSize mm.allocMem < need
  · exact ⟨none, by rw [searchBlock, if_pos passed], by simp⟩
  · rw [searchBlock, if_neg passed]
    cases order with
    | laid laid marks =>
      obtain ⟨last, segment⟩ := laid.threads.free
      obtain ⟨found, done, right⟩ := findChunk_spec reachable.opened segment
        (fun node member => laid.threads.nodes.inside node (List.mem_append_left _ member))
        laid.frees_length
      exact ⟨found, done, fun chunk same => ⟨_, _, laid, marks, right chunk same⟩⟩
    | idle room small unused listed sized last =>
      have positive := reachable.positive
      have below : mm.start + 32 ≤ mm.stop := by
        rw [MPMemory.stop]
        omega
      obtain ⟨fuel, fuelIs⟩ : ∃ fewer, mm.memPoolSize = fewer + 1 := ⟨mm.memPoolSize - 1, by omega⟩
      refine ⟨none, ?_, by simp⟩
      rw [listed, fuelIs, findChunk, if_neg (by omega),
        allocMem_eq reachable.opened le_rfl below, Option.bind_eq_bind, Option.bind_some, sized,
        if_neg (by omega), next_eq reachable.opened le_rfl below, Option.bind_some, last,
        findChunk, if_pos rfl]

/-! ## Several blocks -/

/-- Where a block lies. -/
def MPMemory.place (mm : MPMemory) : Nat × Nat := (mm.start, mm.memPoolSize)

/-- Blocks in order that lie apart, each with its pieces. -/
structure Blocks (memory : Heap) (blocks : List (MPMemory × List Piece)) : Prop where
  /-- Each of them is in order. -/
  order : ∀ block ∈ blocks, InOrder memory block.1 block.2
  /-- Each of them may be accessed. -/
  reach : ∀ block ∈ blocks, Reachable memory block.1
  /-- Each of them has room for a header. -/
  room : ∀ block ∈ blocks, 32 ≤ block.1.memPoolSize
  /-- No two of them overlap. -/
  apart : blocks.Pairwise fun first second => first.1.Apart second.1

/-- The bytes outside all blocks. -/
def BeyondAll (blocks : List (MPMemory × List Piece)) (place : Nat) : Prop :=
  ∀ block ∈ blocks, Beyond block.1 place

/-- The allocated pieces of all blocks. -/
def allTaken (blocks : List (MPMemory × List Piece)) : List Piece :=
  blocks.flatMap fun block => taken block.2

variable {mm' : MPMemory} {pieces' : List Piece} {blocks front back : List (MPMemory × List Piece)}

/-- The bytes of a block are beyond one that lies apart. -/
theorem MPMemory.Apart.beyond {other : MPMemory} {place : Nat} (apart : mm.Apart other)
    (within : Within mm place) : Beyond other place := by
  rw [Within] at within
  rw [Beyond]
  rcases apart with after | before
  · left
    omega
  · right
    omega

/-- Two blocks are apart from each other. -/
theorem MPMemory.Apart.symm {other : MPMemory} (apart : mm.Apart other) : other.Apart mm :=
  Or.symm apart

/-- Blocks of the same place are apart from the same others. -/
theorem MPMemory.Apart.same {other : MPMemory} (apart : mm.Apart other) (same : SameBlock mm mm') :
    mm'.Apart other := by
  rw [MPMemory.Apart, same.stop, same.1]
  exact apart

/-- A block at the same place can be reached. -/
theorem Reachable.same (reachable : Reachable memory mm) (same : SameBlock mm mm') :
    Reachable memory mm' := by
  refine ⟨?_, ?_, ?_⟩
  · rw [same.stop, same.1]
    exact reachable.opened
  · rw [same.stop]
    exact reachable.bounded
  · rw [same.1]
    exact reachable.positive

/-- The same block is at the same place. -/
theorem SameBlock.place (same : SameBlock mm mm') : mm'.place = mm.place := by
  rw [MPMemory.place, same.1, same.2, MPMemory.place]

/-- What is at the same place is the same block. -/
theorem SameBlock.of_place (same : mm'.place = mm.place) : SameBlock mm mm' := by
  simpa [MPMemory.place, SameBlock] using same

/-- Blocks that lie where others lay. -/
def SamePlaces (blocks blocks' : List (MPMemory × List Piece)) : Prop :=
  blocks'.map (fun block => block.1.place) = blocks.map fun block => block.1.place

/-- A block that lies where others lay lies where one of them lay. -/
theorem SamePlaces.of_mem {blocks' : List (MPMemory × List Piece)}
    (same : SamePlaces blocks blocks') {block : MPMemory × List Piece} (member : block ∈ blocks') :
    ∃ other ∈ blocks, SameBlock other.1 block.1 := by
  have image : block.1.place ∈ blocks'.map fun block => block.1.place :=
    List.mem_map.mpr ⟨block, member, rfl⟩
  rw [same] at image
  obtain ⟨other, known, place⟩ := List.mem_map.mp image
  exact ⟨other, known, .of_place place.symm⟩

/-- One block of several changes, and only its bytes do. -/
theorem Blocks.replace (all : Blocks memory (front ++ (mm, pieces) :: back))
    (order : InOrder later mm' pieces') (same : SameBlock mm mm')
    (agrees : Heap.Agrees (Beyond mm) memory later) :
    Blocks later (front ++ (mm', pieces') :: back) := by
  obtain ⟨apartFront, apartBack, across⟩ := List.pairwise_append.mp all.apart
  obtain ⟨behind, apartBack⟩ := List.pairwise_cons.mp apartBack
  have sides {block : MPMemory × List Piece} (member : block ∈ front ++ back) :
      block ∈ front ++ (mm, pieces) :: back ∧ block.1.Apart mm := by
    rcases List.mem_append.mp member with member | member
    · exact ⟨List.mem_append_left _ member, across block member (mm, pieces) List.mem_cons_self⟩
    · exact ⟨List.mem_append_right _ (List.mem_cons_of_mem _ member), (behind block member).symm⟩
  have cases {block : MPMemory × List Piece} (member : block ∈ front ++ (mm', pieces') :: back) :
      block = (mm', pieces') ∨ block ∈ front ++ back := by
    simp only [List.mem_append, List.mem_cons] at member ⊢
    rcases member with member | member | member
    · exact .inr (.inl member)
    · exact .inl member
    · exact .inr (.inr member)
  have own : (mm, pieces) ∈ front ++ (mm, pieces) :: back := by simp
  refine ⟨fun block member => ?_, fun block member => ?_, fun block member => ?_, ?_⟩
  · rcases cases member with rfl | member
    · exact order
    · obtain ⟨known, apart⟩ := sides member
      exact (all.order block known).frame (agrees.mono fun _ within => apart.beyond within)
  · rcases cases member with rfl | member
    · exact ((all.reach (mm, pieces) own).agrees agrees).same same
    · exact (all.reach block (sides member).1).agrees agrees
  · rcases cases member with rfl | member
    · have room := all.room (mm, pieces) own
      rwa [← same.2] at room
    · exact all.room block (sides member).1
  · refine List.pairwise_append.mpr ⟨apartFront, List.pairwise_cons.mpr ⟨?_, apartBack⟩, ?_⟩
    · intro block member
      exact (behind block member).same same
    · intro block member other among
      rcases List.mem_cons.mp among with rfl | among
      · exact ((across block member (mm, pieces) List.mem_cons_self).symm.same same).symm
      · exact across block member other (List.mem_cons_of_mem _ among)

/-- The first of several blocks and the others. -/
theorem Blocks.tail {block : MPMemory × List Piece} (all : Blocks memory (block :: back)) :
    Blocks memory back where
  order other member := all.order other (List.mem_cons_of_mem _ member)
  reach other member := all.reach other (List.mem_cons_of_mem _ member)
  room other member := all.room other (List.mem_cons_of_mem _ member)
  apart := (List.pairwise_cons.mp all.apart).2

/-- A block in front of several. -/
theorem Blocks.cons {block : MPMemory × List Piece} (all : Blocks memory back)
    (order : InOrder memory block.1 block.2) (reach : Reachable memory block.1)
    (room : 32 ≤ block.1.memPoolSize) (apart : ∀ other ∈ back, block.1.Apart other.1) :
    Blocks memory (block :: back) where
  order other member := by
    rcases List.mem_cons.mp member with rfl | member
    · exact order
    · exact all.order other member
  reach other member := by
    rcases List.mem_cons.mp member with rfl | member
    · exact reach
    · exact all.reach other member
  room other member := by
    rcases List.mem_cons.mp member with rfl | member
    · exact room
    · exact all.room other member
  apart := List.pairwise_cons.mpr ⟨apart, all.apart⟩

/-- Blocks stay in order while their bytes do. -/
theorem Blocks.frame {places : Nat → Prop} (all : Blocks memory blocks)
    (agrees : Heap.Agrees places memory later)
    (within : ∀ block ∈ blocks, ∀ place, Within block.1 place → places place) :
    Blocks later blocks where
  order block member := (all.order block member).frame (agrees.mono (within block member))
  reach block member := (all.reach block member).agrees agrees
  room := all.room
  apart := all.apart

/-- The allocated pieces when one block changes. -/
theorem allTaken_middle : allTaken (front ++ (mm, pieces) :: back) =
    allTaken front ++ (taken pieces ++ allTaken back) := by
  simp [allTaken]

/-- An allocated piece lies in its block. -/
theorem InOrder.within (order : InOrder memory mm pieces) {piece : Piece}
    (member : piece ∈ taken pieces) :
    mm.start ≤ piece.address ∧ piece.address + piece.size ≤ mm.stop ∧ 40 ≤ piece.size := by
  have inside := (List.mem_filter.mp member).1
  obtain ⟨_, _, covers, -⟩ := order.laid_of_mem inside
  exact covers.tiles.bounds inside

/-- An allocated piece of some block. -/
theorem mem_allTaken {piece : Piece} :
    piece ∈ allTaken blocks ↔ ∃ block ∈ blocks, piece ∈ taken block.2 := List.mem_flatMap

/-- No header is that of two allocated pieces. -/
theorem Blocks.distinct (all : Blocks memory blocks) :
    ((allTaken blocks).map Piece.address).Nodup := by
  induction blocks with
  | nil => exact List.nodup_nil
  | cons block rest ih =>
    obtain ⟨mm, pieces⟩ := block
    have order := all.order (mm, pieces) List.mem_cons_self
    obtain ⟨ahead, -⟩ := List.pairwise_cons.mp all.apart
    rw [allTaken, List.flatMap_cons, List.map_append, ← allTaken]
    refine List.nodup_append.mpr ⟨?_, ih all.tail, ?_⟩
    · cases order with
      | laid laid marks => exact laid.tiles.nodup.sublist (List.filter_sublist.map _)
      | idle => exact List.nodup_nil
    · rintro address own address' other rfl
      obtain ⟨piece, member, rfl⟩ := List.mem_map.mp own
      obtain ⟨another, member', same⟩ := List.mem_map.mp other
      obtain ⟨block, known, member'⟩ := mem_allTaken.mp member'
      have bounds := order.within member
      dsimp only at bounds
      have bounds' := (all.order block (List.mem_cons_of_mem _ known)).within member'
      have inside : Within mm piece.address := ⟨bounds.1, by omega⟩
      have beyond := (ahead block known).beyond inside
      rw [Beyond] at beyond
      omega

/-! ## Initialisation -/

/-- A block as `MP_INIT_MEMORY_STRUCT` leaves it: one free chunk. -/
structure Fresh (memory : Heap) (mm : MPMemory) : Prop where
  /-- The chunk is the first of the free list. -/
  list : mm.freeList = mm.start
  /-- Nothing is allocated. -/
  unused : mm.allocMem = 0
  /-- The chunk is the whole block. -/
  sized : sizeAt memory mm.start = mm.memPoolSize

/-- A block with the header that `MP_INIT_MEMORY_STRUCT` writes, wherever the block ends. -/
structure Headed (memory : Heap) (mm : MPMemory) : Prop where
  /-- The size and the list. -/
  fresh : Fresh memory mm
  /-- No user area is allocated. -/
  unused : mm.allocProgMem = 0
  /-- `is_free`. -/
  flagged : freeAt memory mm.start = 1
  /-- The chunk is alone in its list. -/
  links : prevAt memory mm.start = 0 ∧ nextAt memory mm.start = 0
  /-- No chunk is in the other list. -/
  unlisted : mm.allocList = 0

/-- `MP_INIT_MEMORY_STRUCT` writes one header, wherever the block ends. -/
theorem mpInitMemoryStruct_eq (mm : MPMemory) {memSz : Nat}
    (opened : Open memory mm.start (mm.start + 32)) (fits : memSz < 2 ^ 64) :
    ∃ later mm', mpInitMemoryStruct memory mm memSz = some (later, mm') ∧
      mm'.start = mm.start ∧ mm'.memPoolSize = memSz ∧ Headed later mm' ∧
      Heap.Agrees (fun place => place < mm.start ∨ mm.start + 32 ≤ place) memory later := by
  generalize written : (((memory.put (mm.start + 24) 4 1).put mm.start 8 memSz).put (mm.start + 8)
    8 0).put (mm.start + 16) 8 0 = later
  have sized : sizeAt later mm.start = memSz := by
    rw [sizeAt, ← written, Heap.value_put_of_disjoint (by omega),
      Heap.value_put_of_disjoint (by omega)]
    exact Heap.value_put_self (by omega)
  have flagged : freeAt later mm.start = 1 := by
    rw [freeAt, ← written, Heap.value_put_of_disjoint (by omega),
      Heap.value_put_of_disjoint (by omega), Heap.value_put_of_disjoint (by omega)]
    exact Heap.value_put_self (by decide)
  have first : prevAt later mm.start = 0 := by
    rw [prevAt, ← written, Heap.value_put_of_disjoint (by omega)]
    exact Heap.value_put_self (by decide)
  have last : nextAt later mm.start = 0 := by
    rw [nextAt, ← written]
    exact Heap.value_put_self (by decide)
  refine ⟨later, { mm with
    memPoolSize := memSz, allocMem := 0, allocProgMem := 0, freeList := mm.start
    allocList := 0 }, ?_, rfl, rfl, ⟨⟨rfl, rfl, sized⟩, rfl, flagged, ⟨first, last⟩, rfl⟩, ?_⟩
  · rw [mpInitMemoryStruct, setIsFree_eq opened le_rfl le_rfl, Option.bind_eq_bind,
      Option.bind_some, setAllocMem_eq opened.put le_rfl le_rfl, Option.bind_some,
      setPrev_eq opened.put.put le_rfl le_rfl, Option.bind_some,
      setNext_eq opened.put.put.put le_rfl le_rfl, Option.bind_some, written, Option.pure_def]
  · rw [← written]
    refine Heap.Agrees.trans ?_ (Heap.agrees_put fun place there => by omega)
    refine Heap.Agrees.trans ?_ (Heap.agrees_put fun place there => by omega)
    refine Heap.Agrees.trans ?_ (Heap.agrees_put fun place there => by omega)
    exact Heap.agrees_put fun place there => by omega

/-- Such a block is one free chunk when it has room for one. -/
theorem Headed.laid (headed : Headed memory mm) (room : 40 ≤ mm.memPoolSize)
    (positive : 0 < mm.start) :
    Laid memory mm [⟨mm.start, mm.memPoolSize, true⟩] [mm.start] [] ∧
      Marks memory mm.stop 0 [⟨mm.start, mm.memPoolSize, true⟩] := by
  constructor
  · refine ⟨⟨rfl, ?_, rfl⟩, ⟨⟨?_, ?_⟩, by simp, ?_, ?_⟩, .refl _, .refl _, headed.fresh.unused,
      headed.unused⟩
    · rw [chunkHeader, chunkEnd]
      exact room
    · intro node member
      obtain rfl := List.mem_singleton.mp member
      rw [MPMemory.stop]
      omega
    · intro node member other among apart
      exact absurd ((List.mem_singleton.mp member).trans (List.mem_singleton.mp among).symm) apart
    · rw [headed.fresh.list]
      exact ⟨mm.start, rfl, by omega, headed.links.1, rfl, headed.links.2⟩
    · rw [headed.unlisted]
      exact ⟨0, rfl, rfl⟩
  · refine ⟨fun piece member => ?_, fun piece member => ?_, fun piece member _ followed => ?_⟩
    · obtain rfl := List.mem_singleton.mp member
      exact headed.fresh.sized
    · obtain rfl := List.mem_singleton.mp member
      exact headed.flagged
    · obtain rfl := List.mem_singleton.mp member
      rw [MPMemory.stop] at followed
      dsimp only at followed
      omega

/-- `MP_INIT_MEMORY_STRUCT` makes one free chunk of a block that has room for a header. -/
theorem mpInitMemoryStruct_spec (mm : MPMemory) {memSz : Nat}
    (opened : Open memory mm.start (mm.start + memSz))
    (bounded : mm.start + memSz ≤ 2 ^ 64) (positive : 0 < mm.start) (room : 32 ≤ memSz) :
    ∃ later mm' pieces', mpInitMemoryStruct memory mm memSz = some (later, mm') ∧
      mm'.start = mm.start ∧ mm'.memPoolSize = memSz ∧ InOrder later mm' pieces' ∧
      taken pieces' = [] ∧ Heap.Agrees (Beyond mm') memory later ∧ Fresh later mm' ∧
      pieces'.Sublist [⟨mm.start, memSz, true⟩] := by
  have header : Open memory mm.start (mm.start + 32) :=
    ⟨opened.1, le_trans (by omega) opened.2⟩
  obtain ⟨later, mm', done, startIs, sizeIs, headed, changed⟩ :=
    mpInitMemoryStruct_eq mm header (show memSz < 2 ^ 64 by omega)
  have agrees : Heap.Agrees (Beyond mm') memory later := by
    refine changed.mono fun place there => ?_
    rw [Beyond, MPMemory.stop, startIs, sizeIs] at there
    omega
  by_cases small : memSz < 40
  · refine ⟨later, mm', [], done, startIs, sizeIs, ?_, rfl, agrees, headed.fresh,
      List.nil_sublist _⟩
    exact .idle (by omega) (by omega) headed.fresh.unused headed.fresh.list headed.fresh.sized
      headed.links.2
  · obtain ⟨laid, marks⟩ := headed.laid (by omega) (by omega)
    rw [startIs, sizeIs] at laid
    rw [startIs, sizeIs] at marks
    exact ⟨later, mm', _, done, startIs, sizeIs, .laid laid marks, rfl, agrees, headed.fresh,
      .refl _⟩

/-! ## Allocation from the blocks -/

/-- What an allocation has done: one piece more is allocated, the blocks are in order where they
were, and nothing outside them has changed. -/
structure Granted (memory : Heap) (blocks : List (MPMemory × List Piece)) (need : Nat)
    (later : Heap) (mlist : List MPMemory) (p : Nat) (blocks' : List (MPMemory × List Piece))
    (piece : Piece) : Prop where
  /-- The blocks are the ones with the new pieces. -/
  mlist : mlist = blocks'.map Prod.fst
  /-- They are in order. -/
  order : Blocks later blocks'
  /-- They lie where they lay. -/
  places : SamePlaces blocks blocks'
  /-- Nothing outside them has changed. -/
  agrees : Heap.Agrees (BeyondAll blocks) memory later
  /-- The pointer is that of the new piece. -/
  pointer : p = piece.address + 32
  /-- It is large enough. -/
  enough : need ≤ piece.size
  /-- It is allocated now. -/
  perm : (allTaken blocks').Perm (piece :: allTaken blocks)

/-- A piece is allocated from the pieces of one of the blocks. -/
def Carved (need : Nat) (blocks : List (MPMemory × List Piece)) (piece : Piece)
    (blocks' : List (MPMemory × List Piece)) : Prop :=
  ∃ front mm pieces mm' pieces' back, blocks = front ++ (mm, pieces) :: back ∧
    blocks' = front ++ (mm', pieces') :: back ∧ Cut need pieces piece pieces'

/-- The search over all blocks ends, with a chunk allocated in one of them or none. -/
theorem findFreeChunk_spec (memPoolSize : Nat) (all : Blocks memory blocks) (least : 40 < need) :
    ∃ found, findFreeChunk memPoolSize need memory (blocks.map Prod.fst) = some found ∧
      ∀ later mlist p, found = some (later, mlist, p) →
        ∃ blocks' piece, Granted memory blocks need later mlist p blocks' piece ∧
          Carved need blocks piece blocks' := by
  induction blocks with
  | nil => exact ⟨none, rfl, by simp⟩
  | cons block rest ih =>
    obtain ⟨mm, pieces⟩ := block
    have reachable := all.reach (mm, pieces) List.mem_cons_self
    obtain ⟨apartHead, -⟩ := List.pairwise_cons.mp all.apart
    obtain ⟨found, searched, right⟩ := searchBlock_spec memPoolSize reachable
      (all.order (mm, pieces) List.mem_cons_self) least
    cases found with
    | some free =>
      obtain ⟨frees, allocs, laid, marks, member, enough⟩ := right free rfl
      obtain ⟨later, mm', pieces', frees', allocs', size, taken', laid', marks', same, agrees,
        enough', perm, cut⟩ := takeChunk_spec reachable laid marks member enough least
      refine ⟨some (later, mm' :: rest.map Prod.fst, free + chunkHeader), ?_, ?_⟩
      · rw [List.map_cons, findFreeChunk]
        refine Option.bind_eq_some_iff.mpr ⟨some free, searched, ?_⟩
        exact Option.bind_eq_some_iff.mpr ⟨_, taken', rfl⟩
      · intro memory' mlist p result
        simp only [Option.some.injEq, Prod.mk.injEq] at result
        obtain ⟨rfl, rfl, rfl⟩ := result
        refine ⟨(mm', pieces') :: rest, ⟨free, size, false⟩, ⟨rfl, ?_, ?_, ?_, rfl, enough', ?_⟩,
          [], mm, pieces, mm', pieces', rest, rfl, rfl, cut⟩
        · have whole : Blocks memory ([] ++ (mm, pieces) :: rest) := all
          exact whole.replace (.laid laid' marks') same agrees
        · simp only [SamePlaces, List.map_cons, same.place]
        · exact agrees.mono fun place there => there (mm, pieces) List.mem_cons_self
        · exact perm.append_right _
    | none =>
      obtain ⟨found, searched', right'⟩ := ih all.tail
      refine ⟨found.map fun granted => (granted.1, mm :: granted.2.1, granted.2.2), ?_, ?_⟩
      · rw [List.map_cons, findFreeChunk]
        refine Option.bind_eq_some_iff.mpr ⟨none, searched, ?_⟩
        exact Option.bind_eq_some_iff.mpr ⟨found, searched', rfl⟩
      · intro later mlist p result
        obtain ⟨⟨later', mlist', p'⟩, same, result⟩ := Option.map_eq_some_iff.mp result
        simp only [Prod.mk.injEq] at result
        obtain ⟨rfl, rfl, rfl⟩ := result
        obtain ⟨blocks', piece, granted, front, one, ones, one', ones', back, split, split', cut⟩ :=
          right' _ _ _ same
        have kept : Heap.Agrees (Within mm) memory later' :=
          granted.agrees.mono fun place within other member =>
            (apartHead other member).beyond within
        have carved : Carved need ((mm, pieces) :: rest) piece ((mm, pieces) :: blocks') :=
          ⟨(mm, pieces) :: front, one, ones, one', ones', back, by rw [split]; rfl,
            by rw [split']; rfl, cut⟩
        refine ⟨(mm, pieces) :: blocks', piece,
          ⟨?_, ?_, ?_, ?_, granted.pointer, granted.enough, ?_⟩, carved⟩
        · rw [List.map_cons, granted.mlist]
        · refine granted.order.cons ((all.order (mm, pieces) List.mem_cons_self).frame kept)
            (reachable.agrees kept) (all.room (mm, pieces) List.mem_cons_self) ?_
          intro other member
          obtain ⟨former, known, place⟩ := granted.places.of_mem member
          exact ((apartHead former known).symm.same place).symm
        · have places := granted.places
          rw [SamePlaces] at places ⊢
          rw [List.map_cons, List.map_cons, places]
        · exact granted.agrees.mono fun place there other member =>
            there other (List.mem_cons_of_mem _ member)
        · exact (granted.perm.append_left (taken pieces)).trans List.perm_middle

/-- A request that fits into a new block is not turned down by the search. -/
theorem findFreeChunk_fresh {memPoolSize : Nat} (reachable : Reachable memory mm)
    (fresh : Fresh memory mm) (whole : mm.memPoolSize = memPoolSize) (least : 40 < need)
    (enough : need ≤ memPoolSize) (rest : List MPMemory) :
    findFreeChunk memPoolSize need memory (mm :: rest) ≠ some none := by
  have bounded := reachable.bounded
  have positive := reachable.positive
  rw [MPMemory.stop] at bounded
  have below : mm.start + 32 ≤ mm.stop := by
    rw [MPMemory.stop]
    omega
  have searched : searchBlock memPoolSize need memory mm = some (some mm.start) := by
    rw [searchBlock, fresh.unused, sub64_of_le (Nat.zero_le _) (by omega), if_neg (by omega),
      fresh.list, findChunk, if_neg (by omega), allocMem_eq reachable.opened le_rfl below,
      Option.bind_eq_bind, Option.bind_some, fresh.sized, if_pos (by omega), Option.pure_def]
  intro missed
  rw [findFreeChunk] at missed
  obtain ⟨found, searched', missed⟩ := Option.bind_eq_some_iff.mp missed
  obtain rfl := Option.some.inj (searched.symm.trans searched')
  obtain ⟨_, -, missed⟩ := Option.bind_eq_some_iff.mp missed
  simp at missed

end

end UubangIot.MemoryPool
