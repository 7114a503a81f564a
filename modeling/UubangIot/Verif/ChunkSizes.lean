import UubangIot.Verif.PoolRequests

/-!
# Sizes of allocated chunks

`MemoryPoolAlloc` pads a request in `mem_size_t` before it compares anything. A padded size that does
not wrap is the size of the chunk, or the chunk is a whole free one that is larger. A padded size that
wraps is at most that of a header and a footer: the request takes the first free chunk it meets and
writes its header, and that of the rest, over one another.
-/

namespace UubangIot.MemoryPool

open ByteMemory DoublyLinked

/-- A new block that is shorter than a chunk. -/
structure Undersized (memory : Heap) (mm : MPMemory) : Prop where
  /-- Its header is that of a new block. -/
  headed : Headed memory mm
  /-- The header lies in the address space. -/
  reach : mm.start + chunkHeader ≤ 2 ^ 64
  /-- The block is not empty. -/
  some : 0 < mm.memPoolSize
  /-- It has no room for a header and a footer. -/
  small : mm.memPoolSize < chunkHeader + chunkEnd

/-- A block that is tiled by its chunks, or new and shorter than one. -/
def Stocked (memory : Heap) (mm : MPMemory) : Prop :=
  (∃ pieces frees allocs, Laid memory mm pieces frees allocs ∧ Marks memory mm.stop 0 pieces) ∨
    Undersized memory mm

/-- A pool of such blocks. -/
structure Arranged (mp : Pool) : Prop where
  /-- The blocks are in order. -/
  stocked : ∀ mm ∈ mp.mlist, Stocked mp.memory mm
  /-- No block is larger than `mem_pool_size`. -/
  sizes : ∀ mm ∈ mp.mlist, mm.memPoolSize ≤ mp.memPoolSize
  /-- `mem_pool_size` is a `mem_size_t`. -/
  fits : mp.memPoolSize < 2 ^ 64
  /-- All memory may be accessed. -/
  range : mp.memory.low = 0 ∧ mp.memory.high = 2 ^ 64

/-- A free chunk of the pool before a request, or all of a block that the request adds. -/
def FormerFree (mp : Pool) (mallocs : List (Option Nat)) (chunk size : Nat) : Prop :=
  (∃ mm ∈ mp.mlist, ∃ pieces frees allocs, Laid mp.memory mm pieces frees allocs ∧
    Marks mp.memory mm.stop 0 pieces ∧ (⟨chunk, size, true⟩ : Piece) ∈ pieces) ∨
  ∃ s, some s ∈ mallocs ∧ chunk = s + sizeofMemory ∧ size = addMemSz mp

/-- The chunk of a pointer that `MemoryPoolAlloc` returns has room for the request, a header and a
footer, and its size is a multiple of `sizeof(long)` or that of a former free chunk. -/
def SizedRight (mp : Pool) (wantsize : Nat) (mallocs : List (Option Nat)) : Prop :=
  ∀ mp' p, memoryPoolAlloc mp wantsize mallocs = some (mp', some p) →
    wantsize + chunkHeader + chunkEnd ≤ sizeAt mp'.memory (p - chunkHeader) ∧
      (sizeAt mp'.memory (p - chunkHeader) % sizeofLong = 0 ∨
        FormerFree mp mallocs (p - chunkHeader) (sizeAt mp'.memory (p - chunkHeader)))

/-- What is left of a request with its header, its footer and its padding in a `mem_size_t`. -/
def wrappedSize (wantsize : Nat) : Nat :=
  (wantsize + chunkHeader + chunkEnd + sizeofLong - wantsize % sizeofLong) % 2 ^ 64

/-- No block begins its free list with a chunk of a size, and the pool may not grow, is given no
memory, or grows by less. -/
def NoneFree (mp : Pool) (need : Nat) (mallocs : List (Option Nat)) : Prop :=
  (∀ mm ∈ mp.mlist, mm.freeList = 0 ∨ sizeAt mp.memory mm.freeList < need) ∧
    (Full mp ∨ mallocs.head?.join = none ∨ addMemSz mp < need)

/-- Nothing of a size is to be found in a block: its free list is empty, or is one header that is
too small. -/
def Barren (memory : Heap) (need : Nat) (mm : MPMemory) : Prop :=
  mm.freeList = 0 ∨ mm.freeList = mm.start ∧ mm.start + 32 ≤ 2 ^ 64 ∧
    sizeAt memory mm.start < need ∧ nextAt memory mm.start = 0

/-- Nothing of a size is to be found in a block, or the block is tiled and its free chunks are former
ones. -/
def Offers (former : Nat → Nat → Prop) (need : Nat) (memory : Heap) (mm : MPMemory) : Prop :=
  Barren memory need mm ∨ 40 < need ∧ ∃ pieces frees allocs, Laid memory mm pieces frees allocs ∧
    Marks memory mm.stop 0 pieces ∧
    ∀ piece ∈ pieces, piece.free = true → former piece.address piece.size

section

variable {memory later : Heap} {mm mm' : MPMemory} {mlist mlist' : List MPMemory}
  {need fuel memPoolSize free p : Nat} {former : Nat → Nat → Prop} {mp mp' : Pool}
  {mallocs : List (Option Nat)}

/-! ## What a search finds -/

/-- The search takes a chunk of one of the blocks. -/
theorem findFreeChunk_some
    (found : findFreeChunk memPoolSize need memory mlist = some (some (later, mlist', p))) :
    ∃ mm ∈ mlist, ∃ free mm', searchBlock memPoolSize need memory mm = some (some free) ∧
      takeChunk memory mm free need = some (later, mm', p) := by
  induction mlist generalizing mlist' with
  | nil => simp [findFreeChunk] at found
  | cons mm rest ih =>
    rw [findFreeChunk] at found
    obtain ⟨first, searched, found⟩ := Option.bind_eq_some_iff.mp found
    cases first with
    | some free =>
      obtain ⟨⟨memory', mm', p'⟩, taken, same⟩ := Option.bind_eq_some_iff.mp found
      simp only [Option.pure_def, Option.some.injEq, Prod.mk.injEq] at same
      obtain ⟨rfl, -, rfl⟩ := same
      exact ⟨mm, List.mem_cons_self, free, mm', searched, taken⟩
    | none =>
      obtain ⟨second, searched', same⟩ := Option.bind_eq_some_iff.mp found
      simp only [Option.pure_def, Option.some.injEq, Option.map_eq_some_iff, Prod.mk.injEq] at same
      obtain ⟨⟨memory', rest', p'⟩, rfl, rfl, -, rfl⟩ := same
      obtain ⟨other, member, found⟩ := ih searched'
      exact ⟨other, List.mem_cons_of_mem _ member, found⟩

/-- A memory that may be accessed from its first to its last byte. -/
theorem open_all (range : memory.low = 0 ∧ memory.high = 2 ^ 64) : Open memory 0 (2 ^ 64) := by
  rw [Open, range.1, range.2]
  exact ⟨le_rfl, le_rfl⟩

/-- Nothing is found in a barren block; the search of an empty one does not end. -/
theorem Barren.missed (barren : Barren memory need mm)
    (range : memory.low = 0 ∧ memory.high = 2 ^ 64) :
    searchBlock memPoolSize need memory mm = some none ∨
      mm.memPoolSize = 0 ∧ searchBlock memPoolSize need memory mm = none := by
  by_cases passed : sub64 memPoolSize mm.allocMem < need
  · exact .inl (if_pos passed)
  · rw [searchBlock, if_neg passed]
    by_cases empty : mm.freeList = 0
    · left
      rw [findChunk, if_pos empty]
    · obtain ⟨list, below, small, last⟩ := barren.resolve_left empty
      have opened := open_all range
      rw [findChunk, if_neg empty, list, allocMem_eq opened (Nat.zero_le _) below,
        Option.bind_eq_bind, Option.bind_some, if_neg (by omega),
        next_eq opened (Nat.zero_le _) below, Option.bind_some, last]
      cases size : mm.memPoolSize with
      | zero => exact .inr ⟨rfl, rfl⟩
      | succ fewer =>
        left
        rw [findChunk, if_pos rfl]

/-- What is taken from a block has the size that is needed, or is a former free chunk and larger. -/
theorem Offers.taken (offers : Offers former need memory mm) (reachable : Reachable memory mm)
    (range : memory.low = 0 ∧ memory.high = 2 ^ 64)
    (searched : searchBlock memPoolSize need memory mm = some (some free))
    (taken : takeChunk memory mm free need = some (later, mm', p)) :
    40 < need ∧ need ≤ sizeAt later (p - chunkHeader) ∧
      (sizeAt later (p - chunkHeader) = need ∨
        former (p - chunkHeader) (sizeAt later (p - chunkHeader))) := by
  rcases offers with barren | ⟨least, pieces, frees, allocs, laid, marks, old⟩
  · have missed : searchBlock memPoolSize need memory mm = some none ∨
        mm.memPoolSize = 0 ∧ searchBlock memPoolSize need memory mm = none := barren.missed range
    simp [searched] at missed
  · refine ⟨least, ?_⟩
    obtain ⟨found, searched', right⟩ := searchBlock_spec memPoolSize reachable (.laid laid marks) least
    obtain rfl : found = some free := Option.some.inj (searched'.symm.trans searched)
    obtain ⟨frees', allocs', laid', -, member, enough⟩ := right free rfl
    obtain ⟨later', mm'', pieces', frees'', allocs'', size, taken', laid'', marks'', -, -, enough',
      perm, cut⟩ := takeChunk_spec reachable laid' marks member enough least
    rw [taken] at taken'
    simp only [Option.some.injEq, Prod.mk.injEq] at taken'
    obtain ⟨rfl, rfl, rfl⟩ := taken'
    have known : (⟨free, size, false⟩ : Piece) ∈ pieces' := by
      have listed : (⟨free, size, false⟩ : Piece) ∈ MemoryPool.taken pieces' :=
        perm.mem_iff.mpr List.mem_cons_self
      exact (List.mem_filter.mp listed).1
    have sizeIs : sizeAt later free = size := marks''.sizes ⟨free, size, false⟩ known
    rw [Nat.add_sub_cancel, sizeIs]
    refine ⟨enough', ?_⟩
    generalize cutIs : (⟨free, size, false⟩ : Piece) = piece at cut
    cases cut with
    | split more =>
      simp only [Piece.mk.injEq] at cutIs
      exact .inl cutIs.2.1
    | whole =>
      simp only [Piece.mk.injEq] at cutIs
      obtain ⟨rfl, rfl, -⟩ := cutIs
      exact .inr (old ⟨free, size, true⟩ (by simp) rfl)

/-- Blocks stay what they are while their bytes and their headers do. -/
theorem Offers.frame (offers : Offers former need memory mm)
    (agrees : Heap.Agrees (fun place => mm.start ≤ place ∧ (place < mm.start + 32 ∨ place < mm.stop))
      memory later) : Offers former need later mm := by
  apply offers.imp
  · intro barren
    apply barren.imp_right
    rintro ⟨list, below, small, last⟩
    refine ⟨list, below, ?_, ?_⟩
    · have same : sizeAt later mm.start = sizeAt memory mm.start :=
        agrees.value fun place above under => ⟨above, .inl (by omega)⟩
      rwa [same]
    · rw [← last]
      exact agrees.value fun place above under => ⟨by omega, .inl (by omega)⟩
  · rintro ⟨least, pieces, frees, allocs, laid, marks, old⟩
    have within : Heap.Agrees (Within mm) memory later :=
      agrees.mono fun place there => ⟨there.1, .inr there.2⟩
    exact ⟨least, pieces, frees, allocs, laid.frame within, marks.frame laid.tiles within, old⟩

/-- A new block offers all of itself when it is large enough. -/
theorem Headed.offers (headed : Headed memory mm) (place : 0 < mm.start ∧ mm.start + 32 ≤ 2 ^ 64)
    (enough : 40 < need ∨ mm.memPoolSize < need) (own : former mm.start mm.memPoolSize) :
    Offers former need memory mm := by
  by_cases small : mm.memPoolSize < need
  · refine .inl (.inr ⟨headed.fresh.list, place.2, ?_, headed.links.2⟩)
    rw [headed.fresh.sized]
    exact small
  · have least : 40 < need := enough.resolve_right small
    obtain ⟨laid, marks⟩ := headed.laid (by omega) place.1
    refine .inr ⟨least, _, _, _, laid, marks, fun piece member _ => ?_⟩
    obtain rfl := List.mem_singleton.mp member
    exact own

/-- What is taken from blocks that offer it, by the search over all of them. -/
theorem findFreeChunk_offers (offers : ∀ mm ∈ mlist, Offers former need memory mm)
    (range : memory.low = 0 ∧ memory.high = 2 ^ 64) (placed : Placed mlist)
    (found : findFreeChunk memPoolSize need memory mlist = some (some (later, mlist', p))) :
    40 < need ∧ need ≤ sizeAt later (p - chunkHeader) ∧
      (sizeAt later (p - chunkHeader) = need ∨
        former (p - chunkHeader) (sizeAt later (p - chunkHeader))) := by
  obtain ⟨mm, member, free, mm', searched, taken⟩ := findFreeChunk_some found
  exact (offers mm member).taken (placed.reachable range member) range searched taken

/-- The loop returns a pointer that its search has found, or goes round with an answer of `malloc`. -/
theorem allocLoop_some (done : allocLoop need mp mallocs = some (mp', some p)) :
    (∃ memory mlist, findFreeChunk mp.memPoolSize need mp.memory mp.mlist =
      some (some (memory, mlist, p)) ∧ mp' = { mp with memory, mlist }) ∨
    findFreeChunk mp.memPoolSize need mp.memory mp.mlist = some none ∧ ¬Full mp ∧
      ∃ s rest, mallocs = some s :: rest := by
  cases search : findFreeChunk mp.memPoolSize need mp.memory mp.mlist with
  | none =>
    rw [allocLoop.eq_def, search] at done
    simp at done
  | some found =>
    cases found with
    | some result =>
      obtain ⟨memory, mlist, p'⟩ := result
      rw [allocLoop_found search] at done
      simp only [Option.some.injEq, Prod.mk.injEq] at done
      obtain ⟨rfl, rfl⟩ := done
      exact .inl ⟨memory, mlist, rfl, rfl⟩
    | none =>
      by_cases full : Full mp
      · simp [allocLoop_full search full] at done
      · refine .inr ⟨rfl, full, ?_⟩
        cases mallocs with
        | nil => simp [allocLoop_nil search full] at done
        | cons answer rest =>
          cases answer with
          | none => simp [allocLoop_null search full] at done
          | some s => exact ⟨s, rest, rfl⟩

/-- The loop serves a request with a chunk of the size that is needed, or with a former free chunk;
it serves none of a header and a footer or less when all blocks are barren and new ones are. -/
theorem allocLoop_offers (offers : ∀ mm ∈ mp.mlist, Offers former need mp.memory mm)
    (range : mp.memory.low = 0 ∧ mp.memory.high = 2 ^ 64)
    (placed : Placed (answered mp mallocs ++ mp.mlist))
    (high : ∀ s, some s ∈ mallocs → s + sizeofMemory + chunkHeader ≤ 2 ^ 64)
    (grows : 40 < need ∨ Full mp ∨ mallocs.head?.join = none ∨ addMemSz mp < need)
    (fresh : ∀ s, some s ∈ mallocs → former (s + sizeofMemory) (addMemSz mp))
    (done : allocLoop need mp mallocs = some (mp', some p)) :
    40 < need ∧ need ≤ sizeAt mp'.memory (p - chunkHeader) ∧
      (sizeAt mp'.memory (p - chunkHeader) = need ∨
        former (p - chunkHeader) (sizeAt mp'.memory (p - chunkHeader))) := by
  induction mallocs generalizing mp with
  | nil =>
    rcases allocLoop_some done with ⟨memory, mlist, search, rfl⟩ | ⟨-, -, s, rest, more⟩
    · exact findFreeChunk_offers offers range placed search
    · simp at more
  | cons answer mallocs ih =>
    rcases allocLoop_some done with ⟨memory, mlist, search, rfl⟩ | ⟨search, full, s, rest, more⟩
    · have placed' := placed.sublist (List.sublist_append_right _ _)
      exact findFreeChunk_offers offers range placed' search
    · obtain ⟨rfl, rfl⟩ := List.cons.inj more
      obtain ⟨extended, mm, extends', list, headed, place, config, -, placed', agrees, clear⟩ :=
        extendMemoryList_headed range placed (high s List.mem_cons_self)
      have enough : 40 < need ∨ addMemSz mp < need := by
        rcases grows with least | full' | nothing | small
        · exact .inl least
        · exact absurd full' full
        · simp at nothing
        · exact .inr small
      have added : addMemSz { extended with
          totalMemPoolSize := add64 extended.totalMemPoolSize (addMemSz mp) } = addMemSz mp :=
        config.addMemSz
      have startIs : mm.start = s + sizeofMemory := congrArg Prod.fst place
      have sizeIs : mm.memPoolSize = addMemSz mp := congrArg Prod.snd place
      have first : Offers former need extended.memory mm := by
        have bound := high s List.mem_cons_self
        rw [chunkHeader] at bound
        apply headed.offers
        · rw [startIs, sizeofMemory] at *
          omega
        · rwa [sizeIs]
        · rw [startIs, sizeIs]
          exact fresh s List.mem_cons_self
      have others (other : MPMemory) (member : other ∈ mp.mlist) :
          Offers former need extended.memory other := by
        have sides := clear other member
        refine (offers other member).frame (agrees.mono fun place there => ?_)
        rw [MPMemory.stop] at sides there
        omega
      rw [allocLoop_extended search full extends'] at done
      refine @ih { extended with
          totalMemPoolSize := add64 extended.totalMemPoolSize (addMemSz mp) }
        (fun other member => ?_) ?_ placed' (fun s member => high s (List.mem_cons_of_mem _ member))
        ?_ (fun s member => ?_) done
      · dsimp only at member
        rw [list] at member
        rcases List.mem_cons.mp member with rfl | member
        · exact first
        · exact others other member
      · dsimp only
        rw [agrees.low, agrees.high]
        exact range
      · rw [added]
        exact enough.imp_right fun small => .inr (.inr small)
      · rw [added]
        exact fresh s (List.mem_cons_of_mem _ member)

/-! ## Requests that do not wrap -/

/-- The head of a free list, where there is one, is that of a free piece. -/
theorem Laid.head {pieces : List Piece} {frees allocs : List Nat}
    (laid : Laid memory mm pieces frees allocs) (marks : Marks memory mm.stop 0 pieces)
    (real : mm.freeList ≠ 0) :
    (⟨mm.freeList, sizeAt memory mm.freeList, true⟩ : Piece) ∈ pieces := by
  have listed := laid.threads.free.head_mem real
  obtain ⟨⟨address, size, flag⟩, member, free, same⟩ := mem_marked.mp (laid.free.mem_iff.mp listed)
  dsimp only at free same
  subst free same
  have sizeIs : sizeAt memory mm.freeList = size := marks.sizes ⟨mm.freeList, size, true⟩ member
  rwa [sizeIs]

/-- A block without a free chunk of a size is barren, when the size is that of a header and a footer
or less. -/
theorem Stocked.barren (stocked : Stocked memory mm) (few : need ≤ 40)
    (nothing : mm.freeList = 0 ∨ sizeAt memory mm.freeList < need) : Barren memory need mm := by
  by_cases empty : mm.freeList = 0
  · exact .inl empty
  · have small := nothing.resolve_left empty
    rcases stocked with ⟨pieces, frees, allocs, laid, marks⟩ | undersized
    · have room := (laid.tiles.bounds (laid.head marks empty)).2.2
      dsimp only at room
      omega
    · have list := undersized.headed.fresh.list
      rw [list] at small
      exact .inr ⟨list, undersized.reach, small, undersized.headed.links.2⟩

/-- A block offers its free chunks to a request for more than a header and a footer. -/
theorem Stocked.offers (stocked : Stocked memory mm) (least : 40 < need)
    (old : ∀ pieces frees allocs, Laid memory mm pieces frees allocs →
      Marks memory mm.stop 0 pieces → ∀ piece ∈ pieces, piece.free = true →
        former piece.address piece.size) : Offers former need memory mm := by
  rcases stocked with ⟨pieces, frees, allocs, laid, marks⟩ | undersized
  · exact .inr ⟨least, pieces, frees, allocs, laid, marks, old pieces frees allocs laid marks⟩
  · have small := undersized.small
    rw [chunkHeader, chunkEnd] at small
    refine .inl (.inr ⟨undersized.headed.fresh.list, undersized.reach, ?_,
      undersized.headed.links.2⟩)
    rw [undersized.headed.fresh.sized]
    omega

/-- A pointer comes from the loop, for a size that is no more than `mem_pool_size`. -/
theorem memoryPoolAlloc_some {wantsize : Nat}
    (done : memoryPoolAlloc mp wantsize mallocs = some (mp', some p)) :
    totalNeededSize wantsize ≤ mp.memPoolSize ∧
      allocLoop (totalNeededSize wantsize) mp mallocs = some (mp', some p) := by
  rw [memoryPoolAlloc] at done
  by_cases zero : wantsize = 0
  · simp [zero] at done
  · by_cases large : mp.memPoolSize < totalNeededSize wantsize
    · simp [zero, large] at done
    · rw [if_neg zero, if_neg large] at done
      exact ⟨by omega, done⟩

/-- A request whose padded size does not wrap is served with a chunk of the right size. -/
theorem Arranged.sizedRight (arranged : Arranged mp) {wantsize : Nat}
    (unwrapped : wantsize + 44 < 2 ^ 64) (placed : Placed (answered mp mallocs ++ mp.mlist))
    (high : ∀ s, some s ∈ mallocs → s + sizeofMemory + chunkHeader ≤ 2 ^ 64) :
    SizedRight mp wantsize mallocs := by
  intro mp' p done
  obtain ⟨-, looped⟩ := memoryPoolAlloc_some done
  have needed := totalNeededSize_eq unwrapped
  have least : 40 < totalNeededSize wantsize := by omega
  have offers (mm : MPMemory) (member : mm ∈ mp.mlist) :
      Offers (FormerFree mp mallocs) (totalNeededSize wantsize) mp.memory mm := by
    apply (arranged.stocked mm member).offers least
    rintro pieces frees allocs laid marks ⟨address, size, free⟩ known rfl
    exact .inl ⟨mm, member, pieces, frees, allocs, laid, marks, known⟩
  obtain ⟨-, enough, right⟩ := allocLoop_offers offers arranged.range placed high (.inl least)
    (fun s member => .inr ⟨s, member, rfl, rfl⟩) looped
  rw [chunkHeader, chunkEnd, sizeofLong]
  rw [chunkHeader] at enough right
  refine ⟨by omega, right.imp_left fun same => ?_⟩
  rw [same]
  omega

/-- A request for which there is no free chunk is served with none. -/
theorem Arranged.null (arranged : Arranged mp) {wantsize : Nat}
    (few : totalNeededSize wantsize ≤ 40)
    (none : NoneFree mp (totalNeededSize wantsize) mallocs)
    (placed : Placed (answered mp mallocs ++ mp.mlist))
    (high : ∀ s, some s ∈ mallocs → s + sizeofMemory + chunkHeader ≤ 2 ^ 64) :
    SizedRight mp wantsize mallocs := by
  intro mp' p done
  obtain ⟨-, looped⟩ := memoryPoolAlloc_some done
  have offers (mm : MPMemory) (member : mm ∈ mp.mlist) :
      Offers (fun _ _ => True) (totalNeededSize wantsize) mp.memory mm :=
    .inl ((arranged.stocked mm member).barren few (none.1 mm member))
  obtain ⟨least, -⟩ := allocLoop_offers offers arranged.range placed high (.inr none.2)
    (fun s member => trivial) looped
  omega

/-! ## Requests that wrap -/

/-- `total_needed_size` in terms of the request. -/
theorem totalNeededSize_eq_wrapped {wantsize : Nat} (fits : wantsize < 2 ^ 64) :
    totalNeededSize wantsize = wrappedSize wantsize := by
  have sum : add64 (add64 wantsize chunkHeader) chunkEnd = (wantsize + 40) % 2 ^ 64 := by
    rw [add64, add64, chunkHeader, chunkEnd]
    omega
  rw [totalNeededSize, sum, mpAlignSize, lowBits, wrappedSize, chunkHeader, chunkEnd, sizeofLong,
    add64, sub64]
  omega

/-- The padded size of a request that wraps: nothing, or no more than a header and a footer. -/
theorem wrappedSize_le {wantsize : Nat} (fits : wantsize < 2 ^ 64)
    (wraps : 2 ^ 64 ≤ wantsize + 44) :
    wrappedSize wantsize ≤ 40 ∧ (0 < wrappedSize wantsize → 2 ^ 64 ≤ wantsize + 40) := by
  rw [wrappedSize, chunkHeader, chunkEnd, sizeofLong]
  omega

/-- A free chunk at the front of its list, with the chunks it is linked to within reach and clear of
it. -/
structure Front (memory : Heap) (mm : MPMemory) (chunk : Nat) : Prop where
  /-- It is free. -/
  flagged : freeAt memory chunk = 1
  /-- It is the first. -/
  first : prevAt memory chunk = 0
  /-- There is a descriptor in front of its block. -/
  above : 64 ≤ chunk
  /-- Its header lies in the address space. -/
  below : chunk + 32 ≤ 2 ^ 64
  /-- It ends in the address space. -/
  ends : chunk + sizeAt memory chunk ≤ 2 ^ 64
  /-- The next free chunk. -/
  after : nextAt memory chunk ≠ 0 →
    nextAt memory chunk + 32 ≤ 2 ^ 64 ∧ Clear (nextAt memory chunk) chunk
  /-- The first allocated chunk. -/
  allocated : mm.allocList ≠ 0 → mm.allocList + 32 ≤ 2 ^ 64 ∧ Clear mm.allocList chunk

section

variable {chunk size : Nat} (opened : Open memory 0 (2 ^ 64)) (front : Front memory mm chunk)
  (few : need ≤ 40)
include opened front few

/-- The front part of such a chunk is marked allocated, though it has no room for a header. -/
theorem splitChunk_front (sizeIs : sizeAt memory chunk = size) (more : need + 40 < size) :
    ∃ later freeList, splitChunk memory mm.freeList chunk need = some (later, freeList) ∧
      Open later 0 (2 ^ 64) ∧ (need = 0 → sizeAt later chunk = 0) := by
  have above := front.above
  have below := front.below
  have ends := front.ends
  rw [sizeIs] at ends
  have fits : size < 2 ^ 64 := by omega
  generalize writtenRest : restWritten memory (chunk + need) size need (prevAt memory chunk)
    (nextAt memory chunk) = resting
  obtain ⟨-, prevRest, nextRest, -, -, agreesRest⟩ :=
    restWritten_spec fits (by omega) prevAt_lt nextAt_lt (by omega) writtenRest
  have openRest : Open resting 0 (2 ^ 64) := opened.agrees agreesRest
  generalize writtenBridge : bridge resting (prevAt memory chunk) (nextAt memory chunk)
    (chunk + need) (chunk + need) = bridged
  have openBridge : Open bridged 0 (2 ^ 64) := by
    have agreesBridge : Heap.Agrees (fun _ => False) resting bridged := by
      rw [← writtenBridge]
      exact agrees_bridge (fun _ _ there => there.elim) fun _ _ there => there.elim
    exact openRest.agrees agreesBridge
  have updated : updateFreeList resting mm.freeList (chunk + need) =
      some (bridged, if prevAt memory chunk = 0 then chunk + need else mm.freeList) := by
    rw [updateFreeList_eq openRest (Nat.zero_le _) (by omega), prevRest, nextRest, writtenBridge]
    · rw [prevRest]
      exact fun some => absurd front.first some
    · rw [nextRest]
      exact fun some => ⟨Nat.zero_le _, (front.after some).1⟩
  have marked := markAllocated_eq openBridge (Nat.zero_le chunk) below
    (show 0 + 8 ≤ chunk + need by omega) (show chunk + need ≤ 2 ^ 64 by omega)
  have done : splitChunk memory mm.freeList chunk need = some (frontWritten bridged chunk need,
      if prevAt memory chunk = 0 then chunk + need else mm.freeList) := by
    rw [splitChunk, copyChunk_eq opened (Nat.zero_le _) ends sizeIs front.flagged more, writtenRest]
    simp only [Option.bind_eq_bind, Option.bind_some, updated, marked, Option.pure_def]
  refine ⟨frontWritten bridged chunk need, _, done, openBridge, fun zero => ?_⟩
  · rw [zero, sizeAt, frontWritten, Heap.value_put_of_disjoint (by omega)]
    exact Heap.value_put_self (by decide)

omit few in
/-- Such a chunk is allocated whole. -/
theorem wholeChunk_front : ∃ later freeList,
    wholeChunk memory mm.freeList chunk = some (later, freeList) ∧ Open later 0 (2 ^ 64) ∧
      sizeAt later chunk = sizeAt memory chunk := by
  have below := front.below
  generalize written : bridge memory 0 (nextAt memory chunk) (nextAt memory chunk) 0 = unlinked
  have deleted : mpDlinklistDel memory mm.freeList chunk =
      some (unlinked, nextAt memory chunk) := by
    rw [mpDlinklistDel_bridge opened (Nat.zero_le chunk) below, front.first, if_pos rfl, written]
    · exact fun some => absurd front.first some
    · exact fun some => ⟨Nat.zero_le _, (front.after some).1⟩
  have agrees : Heap.Agrees (fun place => chunk ≤ place ∧ place < chunk + 8) memory unlinked := by
    rw [← written]
    apply agrees_bridge
    · simp
    · intro some place there
      have clear := (front.after some).2
      rw [Clear] at clear
      omega
  have opened' : Open unlinked 0 (2 ^ 64) := opened.agrees agrees
  have flagged : setIsFree unlinked chunk 0 = some (unlinked.put (chunk + 24) 4 0) :=
    setIsFree_eq opened' (Nat.zero_le chunk) below
  refine ⟨unlinked.put (chunk + 24) 4 0, nextAt memory chunk, ?_, opened', ?_⟩
  · rw [wholeChunk, deleted]
    simp only [Option.bind_eq_bind, Option.bind_some, flagged, Option.pure_def]
  · have same : sizeAt unlinked chunk = sizeAt memory chunk :=
      agrees.value fun place above below => ⟨above, below⟩
    rw [← same]
    exact Heap.value_put_of_disjoint (by omega)

/-- Such a chunk is taken for a size that is no more than a header and a footer; for no size at all it
is left with no more than that. -/
theorem takeChunk_front (enough : need ≤ sizeAt memory chunk) :
    ∃ later mm', takeChunk memory mm chunk need = some (later, mm', chunk + chunkHeader) ∧
      (need = 0 → sizeAt later chunk ≤ 40) := by
  have above := front.above
  have below := front.below
  have ends := front.ends
  have cut : ∃ cut freeList, cutChunk memory mm.freeList chunk (sizeAt memory chunk) need =
      some (cut, freeList) ∧ Open cut 0 (2 ^ 64) ∧ (need = 0 → sizeAt cut chunk ≤ 40) := by
    rw [cutChunk, sub64_of_le enough sizeAt_lt, chunkHeader, chunkEnd]
    by_cases more : 32 + 8 < sizeAt memory chunk - need
    · obtain ⟨later, freeList, done, opened', none⟩ :=
        splitChunk_front opened front few rfl (show need + 40 < sizeAt memory chunk by omega)
      refine ⟨later, freeList, ?_, opened', fun zero => ?_⟩
      · rw [if_pos more, done]
      · rw [none zero]
        exact Nat.zero_le _
    · obtain ⟨later, freeList, done, opened', same⟩ := wholeChunk_front opened front
      refine ⟨later, freeList, ?_, opened', fun zero => ?_⟩
      · rw [if_neg more, done]
      · rw [same]
        omega
  obtain ⟨cut, freeList, done, opened', small⟩ := cut
  generalize written : bridge ((cut.put (chunk + 8) 8 0).put (chunk + 16) 8 mm.allocList) 0
    mm.allocList 0 chunk = listed
  have inserted : mpDlinklistInsFrt cut mm.allocList chunk = some (listed, chunk) := by
    rw [mpDlinklistInsFrt_bridge opened' (Nat.zero_le chunk) below, written]
    exact fun some => ⟨Nat.zero_le _, (front.allocated some).1⟩
  have agrees : Heap.Agrees (fun place => chunk ≤ place ∧ place < chunk + 8) cut listed := by
    rw [← written]
    refine (Heap.agrees_put fun place there => by omega).trans
      ((Heap.agrees_put fun place there => by omega).trans (agrees_bridge ?_ ?_))
    · simp
    · intro some place there
      have clear := (front.allocated some).2
      rw [Clear] at clear
      omega
  have sized := allocMem_eq opened (Nat.zero_le chunk) below
  have resized := allocMem_eq (opened'.agrees agrees) (Nat.zero_le chunk) below
  refine ⟨listed, _, takeChunk_eq sized done inserted resized, fun zero => ?_⟩
  have same : sizeAt listed chunk = sizeAt cut chunk :=
    agrees.value fun place above below => ⟨above, below⟩
  rw [same]
  exact small zero

end

/-- The chunk of a new block is such a chunk. -/
theorem Headed.front (headed : Headed memory mm)
    (place : sizeofMemory < mm.start ∧ mm.stop ≤ 2 ^ 64) (reach : mm.start + chunkHeader ≤ 2 ^ 64) :
    Front memory mm mm.freeList := by
  rw [sizeofMemory, MPMemory.stop] at place
  rw [chunkHeader] at reach
  rw [headed.fresh.list]
  refine ⟨headed.flagged, headed.links.1, by omega, reach, ?_, ?_, ?_⟩
  · rw [headed.fresh.sized]
    exact place.2
  · exact fun some => absurd headed.links.2 some
  · exact fun some => absurd headed.unlisted some

/-- The head of a block's free list is such a chunk. -/
theorem Stocked.front (stocked : Stocked memory mm)
    (place : sizeofMemory < mm.start ∧ mm.stop ≤ 2 ^ 64) (real : mm.freeList ≠ 0) :
    Front memory mm mm.freeList := by
  rcases stocked with ⟨pieces, frees, allocs, laid, marks⟩ | undersized
  · rw [sizeofMemory] at place
    have own := laid.head marks real
    have bounds := laid.tiles.bounds own
    have listed := laid.threads.free.head_mem real
    dsimp only at bounds
    refine ⟨marks.flags _ own, laid.threads.free.prev_head real, by omega, by omega, by omega,
      fun some => ?_, fun some => ?_⟩
    · obtain ⟨front, back, split⟩ := List.append_of_mem listed
      have threads := laid.threads
      rw [split] at threads
      have member : nextAt memory mm.freeList ∈ back := threads.free.neighbours.2 some
      have distinct : mm.freeList ∉ back := by
        have nodup := (List.nodup_append.mp (List.nodup_append.mp threads.distinct).1).2.1
        exact (List.nodup_cons.mp nodup).1
      have known : nextAt memory mm.freeList ∈ front ++ mm.freeList :: back ++ allocs := by
        simp [member]
      have inside := threads.nodes.inside _ known
      refine ⟨by omega, threads.nodes.clear _ known _ (by simp) fun same => distinct ?_⟩
      rw [same] at member
      exact member
    · have member := laid.threads.alloc.head_mem some
      have inside := laid.threads.nodes.inside _ (List.mem_append_right _ member)
      have clear := laid.threads.clear listed member
      rw [Clear] at clear ⊢
      omega
  · exact undersized.headed.front place undersized.reach

/-- A block that has a free chunk of a size has as much memory left. -/
theorem Stocked.passed (stocked : Stocked memory mm) (few : need ≤ 40)
    (sizes : mm.memPoolSize ≤ memPoolSize) (fits : memPoolSize < 2 ^ 64)
    (enough : need ≤ memPoolSize) (real : mm.freeList ≠ 0) :
    need ≤ sub64 memPoolSize mm.allocMem := by
  rcases stocked with ⟨pieces, frees, allocs, laid, marks⟩ | undersized
  · have own := laid.head marks real
    have room := (laid.tiles.bounds own).2.2
    have left := laid.allocMem_add_le own rfl
    rw [sub64_of_le (by omega) fits]
    omega
  · rw [undersized.headed.fresh.unused, sub64_of_le (Nat.zero_le _) fits]
    exact enough

/-- The search of a block finds the head of its free list when that is large enough. -/
theorem searchBlock_head (opened : Open memory 0 (2 ^ 64)) (front : Front memory mm mm.freeList)
    (real : mm.freeList ≠ 0) (passed : need ≤ sub64 memPoolSize mm.allocMem)
    (large : need ≤ sizeAt memory mm.freeList) :
    searchBlock memPoolSize need memory mm = some (some mm.freeList) := by
  rw [searchBlock, if_neg (by omega), findChunk, if_neg real,
    allocMem_eq opened (Nat.zero_le _) front.below, Option.bind_eq_bind, Option.bind_some,
    if_pos large, Option.pure_def]

/-- The search of all blocks when it finds the head of the first one's free list. -/
theorem findFreeChunk_head (opened : Open memory 0 (2 ^ 64)) (front : Front memory mm mm.freeList)
    (few : need ≤ 40) (large : need ≤ sizeAt memory mm.freeList)
    (searched : searchBlock memPoolSize need memory mm = some (some mm.freeList))
    (rest : List MPMemory) :
    ∃ later mlist' p, findFreeChunk memPoolSize need memory (mm :: rest) =
      some (some (later, mlist', p)) ∧ (need = 0 → sizeAt later (p - chunkHeader) ≤ 40) := by
  obtain ⟨later, mm', taken, small⟩ := takeChunk_front opened front few large
  refine ⟨later, mm' :: rest, mm.freeList + chunkHeader, ?_, ?_⟩
  · rw [findFreeChunk]
    refine Option.bind_eq_some_iff.mpr ⟨some mm.freeList, searched, ?_⟩
    exact Option.bind_eq_some_iff.mpr ⟨_, taken, rfl⟩
  · rwa [Nat.add_sub_cancel]

/-- The search of a block for a header and a footer or less: it finds the head of the free list when
that is large enough, and nothing otherwise. -/
theorem Stocked.search (stocked : Stocked memory mm) (few : need ≤ 40)
    (sizes : mm.memPoolSize ≤ memPoolSize) (fits : memPoolSize < 2 ^ 64)
    (enough : need ≤ memPoolSize) (range : memory.low = 0 ∧ memory.high = 2 ^ 64)
    (place : sizeofMemory < mm.start ∧ mm.stop ≤ 2 ^ 64) :
    (mm.freeList = 0 ∨ sizeAt memory mm.freeList < need) ∧
        searchBlock memPoolSize need memory mm = some none ∨
      need ≤ sizeAt memory mm.freeList ∧ mm.freeList ≠ 0 ∧
        searchBlock memPoolSize need memory mm = some (some mm.freeList) := by
  by_cases nothing : mm.freeList = 0 ∨ sizeAt memory mm.freeList < need
  · refine .inl ⟨nothing, ?_⟩
    rcases (stocked.barren few nothing).missed range with missed | ⟨empty, -⟩
    · exact missed
    · -- a block without bytes has no free chunk
      have none : mm.freeList = 0 := by
        by_contra real
        rcases stocked with ⟨pieces, frees, allocs, laid, marks⟩ | undersized
        · have bounds := laid.tiles.bounds (laid.head marks real)
          rw [MPMemory.stop] at bounds
          omega
        · have some := undersized.some
          omega
      rw [searchBlock]
      split
      · rfl
      · rw [findChunk, if_pos none]
  · obtain ⟨real, large⟩ := not_or.mp nothing
    have front := stocked.front place real
    have passed := stocked.passed few sizes fits enough real
    have opened := open_all range
    refine .inr ⟨by omega, real, ?_⟩
    exact searchBlock_head opened front real passed (by omega)

/-- The search of all blocks for a header and a footer or less. -/
theorem findFreeChunk_front (stocked : ∀ mm ∈ mlist, Stocked memory mm) (few : need ≤ 40)
    (sizes : ∀ mm ∈ mlist, mm.memPoolSize ≤ memPoolSize) (fits : memPoolSize < 2 ^ 64)
    (enough : need ≤ memPoolSize) (range : memory.low = 0 ∧ memory.high = 2 ^ 64)
    (places : ∀ mm ∈ mlist, sizeofMemory < mm.start ∧ mm.stop ≤ 2 ^ 64) :
    (∀ mm ∈ mlist, mm.freeList = 0 ∨ sizeAt memory mm.freeList < need) ∧
        findFreeChunk memPoolSize need memory mlist = some none ∨
      ∃ later mlist' p, findFreeChunk memPoolSize need memory mlist =
        some (some (later, mlist', p)) ∧ (need = 0 → sizeAt later (p - chunkHeader) ≤ 40) := by
  induction mlist with
  | nil => exact .inl ⟨by simp, rfl⟩
  | cons mm rest ih =>
    have own := stocked mm List.mem_cons_self
    have place := places mm List.mem_cons_self
    rcases own.search few (sizes mm List.mem_cons_self) fits enough range place with
      ⟨nothing, searched⟩ | ⟨large, real, searched⟩
    · rcases ih (fun other member => stocked other (List.mem_cons_of_mem _ member))
        (fun other member => sizes other (List.mem_cons_of_mem _ member))
        (fun other member => places other (List.mem_cons_of_mem _ member)) with
        ⟨others, searched'⟩ | ⟨later, mlist', p, found, small⟩
      · refine .inl ⟨fun other member => ?_, ?_⟩
        · rcases List.mem_cons.mp member with rfl | member
          · exact nothing
          · exact others other member
        · rw [findFreeChunk]
          refine Option.bind_eq_some_iff.mpr ⟨none, searched, ?_⟩
          exact Option.bind_eq_some_iff.mpr ⟨none, searched', rfl⟩
      · refine .inr ⟨later, mm :: mlist', p, ?_, small⟩
        rw [findFreeChunk]
        refine Option.bind_eq_some_iff.mpr ⟨none, searched, ?_⟩
        exact Option.bind_eq_some_iff.mpr ⟨_, found, rfl⟩
    · exact .inr (findFreeChunk_head (open_all range) (own.front place real) few large searched rest)

/-- The loop serves a request for a header and a footer or less when there is a free chunk of that
size, or the pool may grow by as much. -/
theorem Arranged.allocLoop_served (arranged : Arranged mp) (few : need ≤ 40)
    (enough : need ≤ mp.memPoolSize) (some' : ¬NoneFree mp need mallocs)
    (placed : Placed (answered mp mallocs ++ mp.mlist))
    (high : ∀ s, some s ∈ mallocs → s + sizeofMemory + chunkHeader ≤ 2 ^ 64) :
    ∃ mp' p, allocLoop need mp mallocs = some (mp', some p) ∧
      (need = 0 → sizeAt mp'.memory (p - chunkHeader) ≤ 40) := by
  have places : ∀ mm ∈ mp.mlist, sizeofMemory < mm.start ∧ mm.stop ≤ 2 ^ 64 :=
    fun mm member => placed.1 mm (List.mem_append_right _ member)
  rcases findFreeChunk_front arranged.stocked few arranged.sizes arranged.fits enough
    arranged.range places with ⟨nothing, missed⟩ | ⟨later, mlist', p, found, small⟩
  · have grows : ¬(Full mp ∨ mallocs.head?.join = none ∨ addMemSz mp < need) :=
      fun stuck => some' ⟨nothing, stuck⟩
    rw [not_or, not_or] at grows
    obtain ⟨open', given, large⟩ := grows
    cases mallocs with
    | nil => simp at given
    | cons answer rest =>
      cases answer with
      | none => simp at given
      | some s =>
        obtain ⟨extended, mm, done, list, headed, place, config, -, placed', agrees, -⟩ :=
          extendMemoryList_headed arranged.range placed (high s List.mem_cons_self)
        have startIs : mm.start = s + sizeofMemory := congrArg Prod.fst place
        have sizeIs : mm.memPoolSize = addMemSz mp := congrArg Prod.snd place
        have range : extended.memory.low = 0 ∧ extended.memory.high = 2 ^ 64 := by
          rw [agrees.low, agrees.high]
          exact arranged.range
        have own : mm ∈ answered extended rest ++ extended.mlist := by simp [list]
        have front : Front extended.memory mm mm.freeList := by
          apply headed.front (placed'.1 mm own)
          rw [startIs]
          exact high s List.mem_cons_self
        have real : mm.freeList ≠ 0 := by
          have above := front.above
          omega
        have room : need ≤ sizeAt extended.memory mm.freeList := by
          rw [headed.fresh.list, headed.fresh.sized, sizeIs]
          omega
        have passed : need ≤ sub64 extended.memPoolSize mm.allocMem := by
          rw [headed.fresh.unused, config.size, sub64_of_le (Nat.zero_le _) arranged.fits]
          exact enough
        have opened := open_all range
        have searched := searchBlock_head opened front real passed room
        obtain ⟨later, mlist', p, found, small⟩ :=
          findFreeChunk_head opened front few room searched mp.mlist
        generalize grownIs : { extended with
          totalMemPoolSize := add64 extended.totalMemPoolSize (addMemSz mp) } = grown
        have found' : findFreeChunk grown.memPoolSize need grown.memory grown.mlist =
            some (some (later, mlist', p)) := by
          rw [← grownIs]
          dsimp only
          rw [list]
          exact found
        refine ⟨{ grown with memory := later, mlist := mlist' }, p, ?_, small⟩
        rw [allocLoop_extended missed open' done, grownIs]
        exact allocLoop_found found'
  · exact ⟨_, p, allocLoop_found found, small⟩

end

/-- In every pool whose blocks are tiled or new, a pointer that `MemoryPoolAlloc` returns belongs to a
chunk of the right size if and only if the size with header, footer and padding is a `mem_size_t`, or
what is left of it is more than `mem_pool_size`, or there is no free chunk of what is left and the pool
does not grow by as much. -/
theorem chunk_sized_right_iff (mp : Pool) (arranged : Arranged mp) (wantsize : Nat)
    (fits : wantsize < 2 ^ 64) (mallocs : List (Option Nat))
    (placed : Placed (answered mp mallocs ++ mp.mlist))
    (high : ∀ s, some s ∈ mallocs → s + sizeofMemory + chunkHeader ≤ 2 ^ 64) :
    SizedRight mp wantsize mallocs ↔
      wantsize + chunkHeader + chunkEnd + sizeofLong < 2 ^ 64 ∨
        mp.memPoolSize < wrappedSize wantsize ∨ NoneFree mp (wrappedSize wantsize) mallocs := by
  have needed := totalNeededSize_eq_wrapped fits
  by_cases unwrapped : wantsize + chunkHeader + chunkEnd + sizeofLong < 2 ^ 64
  · exact iff_of_true (arranged.sizedRight unwrapped placed high) (.inl unwrapped)
  · rw [chunkHeader, chunkEnd, sizeofLong] at unwrapped
    obtain ⟨few, wraps⟩ := wrappedSize_le fits (by omega)
    constructor
    · intro right
      refine .inr (or_iff_not_imp_left.mpr fun enough => ?_)
      by_contra some
      obtain ⟨mp', p, looped, small⟩ :=
        arranged.allocLoop_served few (Nat.le_of_not_lt enough) some placed high
      have done : memoryPoolAlloc mp wantsize mallocs = Option.some (mp', Option.some p) := by
        rw [memoryPoolAlloc, if_neg (by omega), needed, if_neg enough, looped]
      have large := (right mp' p done).1
      have bound : sizeAt mp'.memory (p - chunkHeader) < 2 ^ 64 := sizeAt_lt
      rw [chunkEnd] at large
      rw [chunkHeader] at large bound small
      by_cases nothing : wrappedSize wantsize = 0
      · have none := small nothing
        omega
      · have wrapped := wraps (Nat.pos_of_ne_zero nothing)
        omega
    · rintro (unwrapped' | large | none)
      · rw [chunkHeader, chunkEnd, sizeofLong] at unwrapped'
        exact absurd unwrapped' unwrapped
      · intro mp' p done
        have enough := (memoryPoolAlloc_some done).1
        omega
      · rw [← needed] at none few
        exact arranged.null few none placed high

/-- A pool that stands is such a pool. -/
theorem Standing.arranged {mp : Pool} (standing : Standing mp) : Arranged mp where
  stocked mm member := by
    obtain ⟨pieces, frees, allocs, -, laid, marks⟩ := standing.tiled mm member
    exact .inl ⟨pieces, frees, allocs, laid, marks⟩
  sizes := standing.sizes
  fits := Nat.lt_of_le_of_lt standing.config.1 standing.config.2
  range := standing.range

/-- A request for 250 bytes in a pool of 300. -/
theorem chunk_sized_right_iff_small :
    ∃ mp, memoryPoolInit 332 300 true 4096 (fun _ => 0) = some mp ∧
      (SizedRight mp 250 [some 10000] ↔
        250 + chunkHeader + chunkEnd + sizeofLong < 2 ^ 64 ∨
          mp.memPoolSize < wrappedSize 250 ∨ NoneFree mp (wrappedSize 250) [some 10000]) := by
  obtain ⟨mp, made, standing, -, -, placed⟩ := smallPool
  refine ⟨mp, made, chunk_sized_right_iff mp standing.arranged 250 (by decide) _ (placed _ rfl) ?_⟩
  intro s member
  obtain rfl : s = 10000 := by simpa using member
  decide

/-- A pool of 1000 bytes serves a request for all but four bytes of the address space with a chunk of
forty. -/
theorem wrapped_request_served :
    ∃ mp, memoryPoolInit 1000 1000 true 4096 (fun _ => 0) = some mp ∧
      ¬SizedRight mp (2 ^ 64 - 4) [] := by
  have run : (memoryPoolInit 1000 1000 true 4096 fun _ => 0).any fun mp =>
      (memoryPoolAlloc mp (2 ^ 64 - 4) []).any fun result =>
        decide (result.2 = some 4192 ∧ sizeAt result.1.memory (4192 - chunkHeader) = 40) := by
    decide +kernel
  obtain ⟨mp, made, served⟩ := (Option.any_eq_true _ _).mp run
  obtain ⟨⟨mp', result⟩, done, facts⟩ := (Option.any_eq_true _ _).mp served
  obtain ⟨pointer, size⟩ := of_decide_eq_true facts
  dsimp only at pointer size
  subst pointer
  refine ⟨mp, made, fun right => ?_⟩
  have large := (right mp' 4192 done).1
  rw [size] at large
  exact absurd large (by decide)

end UubangIot.MemoryPool
