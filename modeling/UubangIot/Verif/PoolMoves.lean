import Mathlib.Algebra.BigOperators.Group.List.Basic
import UubangIot.Verif.PoolBlocks

/-!
# Taking and releasing a chunk

The two ways to allocate from a free chunk, whole or by its front part, and the release of an
allocated chunk, each told by the pieces before and after it.
-/

namespace UubangIot.MemoryPool

open ByteMemory DoublyLinked

/-- A block whose memory may be accessed. -/
structure Reachable (memory : Heap) (mm : MPMemory) : Prop where
  /-- Its bytes may be accessed. -/
  opened : Open memory mm.start mm.stop
  /-- They have addresses of eight bytes. -/
  bounded : mm.stop ≤ 2 ^ 64
  /-- None of them is at address zero. -/
  positive : 0 < mm.start

/-- A block in order but for one chunk, which is allocated and in neither list. -/
structure Prepared (memory : Heap) (mm : MPMemory) (freeList : Nat) (pieces : List Piece)
    (frees allocs : List Nat) (chunk : Nat) : Prop where
  /-- The pieces cover the block. -/
  tiles : Tiles mm.stop mm.start pieces
  /-- Headers and footers. -/
  marks : Marks memory mm.stop 0 pieces
  /-- The lists. -/
  threads : Threads memory mm.start mm.stop frees allocs freeList mm.allocList
  /-- The free chunks. -/
  free : frees.Perm (marked true pieces)
  /-- The allocated chunks, with the one that is to be listed. -/
  alloc : (chunk :: allocs).Perm (marked false pieces)

section

variable {memory : Heap} {mm : MPMemory} {left right : List Piece}
  {frees allocs front back : List Nat} {chunk size need : Nat}

/-- A block stays in reach over a write. -/
theorem Reachable.agrees {places : Nat → Prop} {later : Heap} (reachable : Reachable memory mm)
    (agrees : Heap.Agrees places memory later) : Reachable later mm :=
  ⟨reachable.opened.agrees agrees, reachable.bounded, reachable.positive⟩

/-- A header of a piece lies in the block. -/
theorem Tiles.middle {start stop : Nat} {free : Bool}
    (tiles : Tiles stop start (left ++ ⟨chunk, size, free⟩ :: right)) :
    start ≤ chunk ∧ chunk + size ≤ stop ∧ 40 ≤ size := by
  have own : (⟨chunk, size, free⟩ : Piece) ∈ left ++ ⟨chunk, size, free⟩ :: right := by simp
  exact tiles.bounds own

/-- The other lists' links are links of pieces. -/
theorem onLinks_mono {nodes others : List Nat} {place : Nat}
    (fewer : ∀ node ∈ nodes, node ∈ others) (there : OnLinks nodes place) : OnLinks others place := by
  obtain ⟨node, member, bounds⟩ := there
  exact ⟨node, fewer node member, bounds⟩

/-- What lies off the links of all pieces lies off those of some. -/
theorem offLinks_mono {nodes others : List Nat} {place : Nat}
    (fewer : ∀ node ∈ nodes, node ∈ others) (there : OffLinks others place) :
    OffLinks nodes place := fun node member => there node (fewer node member)

/-- A free chunk is allocated whole. -/
theorem wholeChunk_spec (reachable : Reachable memory mm)
    (laid : Laid memory mm (left ++ ⟨chunk, size, true⟩ :: right) (front ++ chunk :: back) allocs)
    (marks : Marks memory mm.stop 0 (left ++ ⟨chunk, size, true⟩ :: right)) :
    ∃ later freeList, wholeChunk memory mm.freeList chunk = some (later, freeList) ∧
      Prepared later mm freeList (left ++ ⟨chunk, size, false⟩ :: right) (front ++ back) allocs
        chunk ∧ Heap.Agrees (Beyond mm) memory later := by
  obtain ⟨above, below, room⟩ := laid.tiles.middle
  obtain ⟨unlinked, freeList, done, threads, agrees⟩ := laid.threads.del reachable.opened
  have opened : Open unlinked mm.start mm.stop := reachable.opened.agrees agrees
  have fewer : ∀ node ∈ front ++ back,
      node ∈ (left ++ ⟨chunk, size, true⟩ :: right).map Piece.address := by
    intro node member
    refine laid.subset node (List.mem_append_left _ ?_)
    rcases List.mem_append.mp member with member | member
    · exact List.mem_append_left _ member
    · exact List.mem_append_right _ (List.mem_cons_of_mem _ member)
  have marks' : Marks unlinked mm.stop 0 (left ++ ⟨chunk, size, true⟩ :: right) :=
    marks.links laid.tiles (agrees.mono fun _ there => offLinks_mono fewer there)
  have flagged : Heap.Agrees (OnLinks ((left ++ ⟨chunk, size, true⟩ :: right).map Piece.address))
      unlinked (unlinked.put (chunk + 24) 4 0) := agrees_flag laid.tiles
  refine ⟨unlinked.put (chunk + 24) 4 0, freeList, ?_, ⟨laid.tiles.reflag, ?_, ?_, ?_, ?_⟩, ?_⟩
  · rw [wholeChunk, done]
    simp only [Option.bind_eq_bind, Option.bind_some, setIsFree_eq opened above (by omega)]
    rfl
  · exact marks'.flag laid.tiles false
  · refine threads.frame (flagged.mono fun _ there => onLinks_mono (fun node member => ?_) there)
    rcases List.mem_append.mp member with member | member
    · exact fewer node member
    · exact laid.subset node (List.mem_append_right _ member)
  · have perm := laid.free
    rw [marked_append, marked_cons_self] at perm
    rw [marked_append, marked_cons_of_ne (by decide)]
    exact (List.perm_cons chunk).mp
      ((List.perm_middle.symm.trans perm).trans List.perm_middle)
  · have perm := laid.alloc
    rw [marked_append, marked_cons_of_ne (by decide)] at perm
    rw [marked_append, marked_cons_self]
    exact (perm.cons chunk).trans List.perm_middle.symm
  · refine (agrees.mono fun place there => ?_).trans (Heap.agrees_put fun place there => ?_)
    · exact threads.nodes.beyond there |> offLinks_mono fun node member =>
        List.mem_append_left _ member
    · rw [Beyond] at there
      omega

/-! ## Splitting -/

/-- The memory after the header of the rest and its footer are written. -/
def restWritten (memory : Heap) (rest size need before after : Nat) : Heap :=
  (((((memory.put rest 8 size).put (rest + 8) 8 before).put (rest + 16) 8 after).put (rest + 24) 4
    1).put rest 8 (size - need)).put (rest + (size - need) - 8) 8 rest

/-- The memory after the header and the footer of the front part are written. -/
def frontWritten (memory : Heap) (chunk need : Nat) : Heap :=
  ((memory.put (chunk + 24) 4 0).put chunk 8 need).put (chunk + need - 8) 8 chunk

/-- The rest of a chunk has its header and footer, and nothing else changes. -/
theorem restWritten_spec {rest before after : Nat} (fits : size < 2 ^ 64) (small : rest < 2 ^ 64)
    (boundBefore : before < 2 ^ 64) (boundAfter : after < 2 ^ 64) (room : 40 < size - need)
    {later : Heap} (written : restWritten memory rest size need before after = later) :
    sizeAt later rest = size - need ∧ prevAt later rest = before ∧ nextAt later rest = after ∧
      freeAt later rest = 1 ∧ footAt later (rest + (size - need)) = rest ∧
      Heap.Agrees (fun place => place < rest ∨ rest + (size - need) ≤ place) memory later := by
  subst written
  have foot (inner : Heap) {address width : Nat} (apart : address + width ≤ rest + 32) :
      (inner.put (rest + (size - need) - 8) 8 rest).value address width =
        inner.value address width := Heap.value_put_of_disjoint (by omega)
  refine ⟨?_, ?_, ?_, ?_, ?_, ?_⟩
  · rw [sizeAt, restWritten, foot _ (by omega)]
    exact Heap.value_put_self (by omega)
  · rw [prevAt, restWritten, foot _ (by omega),
      Heap.value_put_of_disjoint (by omega), Heap.value_put_of_disjoint (by omega),
      Heap.value_put_of_disjoint (by omega)]
    exact Heap.value_put_self (by omega)
  · rw [nextAt, restWritten, foot _ (by omega),
      Heap.value_put_of_disjoint (by omega), Heap.value_put_of_disjoint (by omega)]
    exact Heap.value_put_self (by omega)
  · rw [freeAt, restWritten, foot _ (by omega),
      Heap.value_put_of_disjoint (by omega)]
    exact Heap.value_put_self (by decide)
  · exact Heap.value_put_self (by omega)
  · refine Heap.Agrees.trans ?_ (Heap.agrees_put fun place there => by omega)
    refine Heap.Agrees.trans ?_ (Heap.agrees_put fun place there => by omega)
    refine Heap.Agrees.trans ?_ (Heap.agrees_put fun place there => by omega)
    refine Heap.Agrees.trans ?_ (Heap.agrees_put fun place there => by omega)
    refine Heap.Agrees.trans ?_ (Heap.agrees_put fun place there => by omega)
    exact Heap.agrees_put fun place there => by omega

/-- The front part has its header and footer, and nothing else changes. -/
theorem frontWritten_spec (fits : need < 2 ^ 64) (small : chunk < 2 ^ 64) (room : 40 < need)
    {later : Heap} (written : frontWritten memory chunk need = later) :
    sizeAt later chunk = need ∧ freeAt later chunk = 0 ∧ footAt later (chunk + need) = chunk ∧
      Heap.Agrees (fun place => (place < chunk ∨ chunk + 8 ≤ place) ∧
        (place < chunk + 24 ∨ chunk + 28 ≤ place) ∧
          (place < chunk + need - 8 ∨ chunk + need ≤ place)) memory later := by
  subst written
  refine ⟨?_, ?_, ?_, ?_⟩
  · rw [sizeAt, frontWritten, Heap.value_put_of_disjoint (by omega)]
    exact Heap.value_put_self (by omega)
  · rw [freeAt, frontWritten, Heap.value_put_of_disjoint (by omega),
      Heap.value_put_of_disjoint (by omega)]
    exact Heap.value_put_self (by decide)
  · exact Heap.value_put_self (by omega)
  · refine Heap.Agrees.trans ?_ (Heap.agrees_put fun place there => by omega)
    refine Heap.Agrees.trans ?_ (Heap.agrees_put fun place there => by omega)
    exact Heap.agrees_put fun place there => by omega

/-- The header and the footer of the rest are written. -/
theorem copyChunk_eq {start stop : Nat} (opened : Open memory start stop) (above : start ≤ chunk)
    (below : chunk + size ≤ stop) (sizeIs : sizeAt memory chunk = size)
    (freeIs : freeAt memory chunk = 1) (rest : need + 40 < size) :
    copyChunk memory chunk (chunk + need) need =
      some (restWritten memory (chunk + need) size need (prevAt memory chunk)
        (nextAt memory chunk)) := by
  have fits : size < 2 ^ 64 := by
    rw [← sizeIs]
    exact sizeAt_lt
  -- the header of the rest is read back after it is written
  generalize copied : (((memory.put (chunk + need) 8 size).put (chunk + need + 8) 8
    (prevAt memory chunk)).put (chunk + need + 16) 8 (nextAt memory chunk)).put (chunk + need + 24)
      4 1 = copy
  have openCopy : Open copy start stop := by
    rw [← copied]
    exact opened
  have sizeCopy : sizeAt copy (chunk + need) = size := by
    rw [sizeAt, ← copied, Heap.value_put_of_disjoint (by omega),
      Heap.value_put_of_disjoint (by omega), Heap.value_put_of_disjoint (by omega)]
    exact Heap.value_put_self (by omega)
  have sizeRest : sizeAt (copy.put (chunk + need) 8 (size - need)) (chunk + need) = size - need :=
    Heap.value_put_self (by omega)
  rw [copyChunk, allocMem_eq opened above (by omega), prev_eq opened above (by omega),
    next_eq opened above (by omega), isFree_eq opened above (by omega), sizeIs, freeIs]
  simp only [Option.bind_eq_bind, Option.bind_some]
  rw [setAllocMem_eq opened (by omega) (by omega), Option.bind_some,
    setPrev_eq opened.put (by omega) (by omega), Option.bind_some,
    setNext_eq opened.put.put (by omega) (by omega), Option.bind_some,
    setIsFree_eq opened.put.put.put (by omega) (by omega), Option.bind_some, copied,
    allocMem_eq openCopy (by omega) (by omega), Option.bind_some, sizeCopy,
    sub64_of_le (by omega) (by omega), setAllocMem_eq openCopy (by omega) (by omega),
    Option.bind_some, allocMem_eq openCopy.put (by omega) (by omega), Option.bind_some, sizeRest,
    setFooter_eq openCopy.put (by omega) (by omega), restWritten, copied]

/-- The neighbours of a chunk are bridged to it. -/
theorem updateFreeList_eq {start stop freeList free : Nat} (opened : Open memory start stop)
    (above : start ≤ free) (below : free + 32 ≤ stop)
    (before : prevAt memory free ≠ 0 → start ≤ prevAt memory free ∧
      prevAt memory free + 32 ≤ stop ∧ Clear (prevAt memory free) free)
    (after : nextAt memory free ≠ 0 → start ≤ nextAt memory free ∧
      nextAt memory free + 32 ≤ stop) :
    updateFreeList memory freeList free =
      some (bridge memory (prevAt memory free) (nextAt memory free) free free,
        if prevAt memory free = 0 then free else freeList) := by
  have linked (inner : Heap) (open' : Open inner start stop)
      (link : nextAt inner free = nextAt memory free) :
      linkBack inner free = some (if nextAt memory free = 0 then inner
        else inner.put (nextAt memory free + 8) 8 free) := by
    rw [linkBack, next_eq open' above below, Option.bind_eq_bind, Option.bind_some, link]
    by_cases last : nextAt memory free = 0
    · rw [if_pos last, if_pos last, Option.pure_def]
    · obtain ⟨above', below'⟩ := after last
      rw [if_neg last, if_neg last, setPrev_eq open' above' below']
  rw [updateFreeList, prev_eq opened above below]
  simp only [Option.bind_eq_bind, Option.bind_some, Option.pure_def]
  by_cases none : prevAt memory free = 0
  · rw [if_pos none, if_pos none, linked memory opened rfl, Option.bind_some, bridge, if_pos none]
  · obtain ⟨above', below', clear⟩ := before none
    rw [Clear] at clear
    have link : nextAt (memory.put (prevAt memory free + 16) 8 free) free = nextAt memory free :=
      Heap.value_put_of_disjoint (by omega)
    rw [if_neg none, if_neg none, setNext_eq opened above' below', Option.bind_some,
      linked _ opened.put link, Option.bind_some, bridge, if_neg none]

/-- The header and the footer of the front part are written. -/
theorem markAllocated_eq {start stop : Nat} (opened : Open memory start stop)
    (above : start ≤ chunk) (below : chunk + 32 ≤ stop) (foot : start + 8 ≤ chunk + need)
    (ends : chunk + need ≤ stop) :
    markAllocated memory chunk need = some (frontWritten memory chunk need) := by
  rw [markAllocated, setIsFree_eq opened above below, Option.bind_eq_bind, Option.bind_some,
    setAllocMem_eq opened.put above below, Option.bind_some,
    setFooter_eq opened.put.put foot ends, frontWritten]

/-- What a chunk's neighbours in the free list lie clear of: the whole chunk. -/
theorem Laid.clearOf (laid : Laid memory mm (left ++ ⟨chunk, size, true⟩ :: right) frees allocs)
    {node : Nat} (member : node ∈ frees ++ allocs) (other : node ≠ chunk) :
    mm.start ≤ node ∧ node + 32 ≤ mm.stop ∧ (node + 32 ≤ chunk ∨ chunk + size ≤ node) := by
  obtain ⟨above, below⟩ := laid.threads.nodes.inside node member
  obtain ⟨piece, known, rfl⟩ := List.mem_map.mp (laid.subset node member)
  refine ⟨above, below, ?_⟩
  rcases mem_middle known with rfl | known
  · exact absurd rfl other
  · have sides := laid.tiles.elsewhere known
    have room := (laid.tiles.bounds (mem_sides known)).2.2
    dsimp only at sides
    omega

/-- Pieces when one of them is split. -/
theorem Tiles.split {start stop : Nat} {free : Bool}
    (tiles : Tiles stop start (left ++ ⟨chunk, size, free⟩ :: right)) (least : 40 < need)
    (rest : need + 40 < size) (first second : Bool) :
    Tiles stop start (left ++ ⟨chunk, need, first⟩ :: ⟨chunk + need, size - need, second⟩ ::
      right) := by
  obtain ⟨middle, before, rfl, room, after⟩ := tiles_append.mp tiles
  refine tiles_append.mpr ⟨chunk, before, rfl, ?_, rfl, ?_, ?_⟩
  · rw [chunkHeader, chunkEnd]
    dsimp only
    omega
  · rw [chunkHeader, chunkEnd]
    dsimp only
    omega
  · dsimp only at after ⊢
    rwa [show chunk + need + (size - need) = chunk + size by omega]

/-- What a split does to memory: headers and footers of the two parts, the rest in the place of the
chunk between its neighbours, and nothing else. -/
structure Halved (memory later : Heap) (chunk size need : Nat) (front back : List Nat) :
    Prop where
  /-- The header and the footer of the front part. -/
  first : sizeAt later chunk = need ∧ freeAt later chunk = 0 ∧ footAt later (chunk + need) = chunk
  /-- The header and the footer of the rest. -/
  rest : sizeAt later (chunk + need) = size - need ∧ freeAt later (chunk + need) = 1 ∧
    footAt later (chunk + size) = chunk + need
  /-- The links of the rest. -/
  links : nextAt later (chunk + need) = nextAt memory chunk ∧
    prevAt later (chunk + need) = prevAt memory chunk
  /-- The links forward of the other free chunks. -/
  forward : ∀ node ∈ front ++ back, nextAt later node =
    if node = prevAt memory chunk then chunk + need else nextAt memory node
  /-- The links back of the other free chunks. -/
  backward : ∀ node ∈ front ++ back, prevAt later node =
    if node = nextAt memory chunk then chunk + need else prevAt memory node
  /-- All other bytes. -/
  agrees : Heap.Agrees (fun place => (place < chunk ∨ chunk + size ≤ place) ∧
    OffLinks (front ++ back) place) memory later

/-- The chunks of both lists but one lie clear of all of it. -/
theorem Laid.sides
    (laid : Laid memory mm (left ++ ⟨chunk, size, true⟩ :: right) (front ++ chunk :: back) allocs) :
    ∀ node ∈ front ++ back ++ allocs, mm.start ≤ node ∧ node + 32 ≤ mm.stop ∧
      (node + 32 ≤ chunk ∨ chunk + size ≤ node) := by
  intro node member
  have distinct : (chunk :: (front ++ back ++ allocs)).Nodup := by
    have perm : (front ++ chunk :: back ++ allocs).Perm (chunk :: (front ++ back ++ allocs)) :=
      List.perm_middle.append_right allocs
    exact perm.nodup_iff.mp laid.threads.distinct
  have other : node ≠ chunk := by
    rintro rfl
    exact (List.nodup_cons.mp distinct).1 member
  refine laid.clearOf ?_ other
  simp only [List.mem_append, List.mem_cons] at member ⊢
  rcases member with (member | member) | member
  · exact .inl (.inl member)
  · exact .inl (.inr (.inr member))
  · exact .inr member

/-- `MemoryPoolAlloc` splits a free chunk. -/
theorem splitChunk_halved (reachable : Reachable memory mm)
    (laid : Laid memory mm (left ++ ⟨chunk, size, true⟩ :: right) (front ++ chunk :: back) allocs)
    (marks : Marks memory mm.stop 0 (left ++ ⟨chunk, size, true⟩ :: right))
    (least : 40 < need) (more : need + 40 < size) :
    ∃ later, splitChunk memory mm.freeList chunk need =
        some (later, if prevAt memory chunk = 0 then chunk + need else mm.freeList) ∧
      Halved memory later chunk size need front back := by
  obtain ⟨above, below, room⟩ := laid.tiles.middle
  have bounded := reachable.bounded
  have positive := reachable.positive
  have opened := reachable.opened
  have own : (⟨chunk, size, true⟩ : Piece) ∈ left ++ ⟨chunk, size, true⟩ :: right := by simp
  have sizeIs : sizeAt memory chunk = size := marks.sizes ⟨chunk, size, true⟩ own
  have freeIs : freeAt memory chunk = 1 := marks.flags ⟨chunk, size, true⟩ own
  obtain ⟨before, after⟩ := laid.threads.free.neighbours
  have sides : ∀ node ∈ front ++ back, mm.start ≤ node ∧ node + 32 ≤ mm.stop ∧
      (node + 32 ≤ chunk ∨ chunk + size ≤ node) :=
    fun node member => laid.sides node (List.mem_append_left _ member)
  have beforeIn (some : prevAt memory chunk ≠ 0) : prevAt memory chunk ∈ front ++ back :=
    List.mem_append_left _ (before some)
  have afterIn (some : nextAt memory chunk ≠ 0) : nextAt memory chunk ∈ front ++ back :=
    List.mem_append_right _ (after some)
  -- three writes: the rest, the links to it, the front part
  generalize writtenRest : restWritten memory (chunk + need) size need (prevAt memory chunk)
    (nextAt memory chunk) = resting
  obtain ⟨sizeRest, prevRest, nextRest, freeRest, footRest, agreesRest⟩ :=
    restWritten_spec (by omega) (by omega) prevAt_lt nextAt_lt (by omega) writtenRest
  have openRest : Open resting mm.start mm.stop := opened.agrees agreesRest
  generalize writtenBridge : bridge resting (prevAt memory chunk) (nextAt memory chunk)
    (chunk + need) (chunk + need) = bridged
  have agreesBridge : Heap.Agrees (OffLinks (front ++ back)) resting bridged := by
    rw [← writtenBridge]
    refine agrees_bridge (fun some place there => ?_) fun some place there => ?_
    · have := there _ (beforeIn some)
      omega
    · have := there _ (afterIn some)
      omega
  have openBridge : Open bridged mm.start mm.stop := openRest.agrees agreesBridge
  generalize writtenFront : frontWritten bridged chunk need = later
  obtain ⟨sizeFront, freeFront, footFront, agreesFront⟩ :=
    frontWritten_spec (by omega) (by omega) least writtenFront
  have updated : updateFreeList resting mm.freeList (chunk + need) =
      some (bridged, if prevAt memory chunk = 0 then chunk + need else mm.freeList) := by
    rw [updateFreeList_eq openRest (by omega) (by omega), prevRest, nextRest, writtenBridge]
    · rw [prevRest]
      intro some
      have := sides _ (beforeIn some)
      rw [Clear]
      omega
    · rw [nextRest]
      intro some
      have := sides _ (afterIn some)
      omega
  have done : splitChunk memory mm.freeList chunk need =
      some (later, if prevAt memory chunk = 0 then chunk + need else mm.freeList) := by
    rw [splitChunk, copyChunk_eq opened above below sizeIs freeIs more,
      writtenRest]
    simp only [Option.bind_eq_bind, Option.bind_some, updated,
      markAllocated_eq openBridge above (show chunk + 32 ≤ mm.stop by omega)
        (show mm.start + 8 ≤ chunk + need by omega) (show chunk + need ≤ mm.stop by omega),
      writtenFront, Option.pure_def]
  -- the rest is not touched after it is written, nor are the links after they are
  have inRest {address width : Nat} (low : chunk + need ≤ address)
      (high : address + width ≤ chunk + size) :
      later.value address width = resting.value address width := by
    refine (agreesFront.value fun place up down => by omega).trans
      (agreesBridge.value fun place up down node member => ?_)
    have := sides node member
    omega
  have inLinks {node address : Nat} (member : node ∈ front ++ back) (low : node + 8 ≤ address)
      (high : address + 8 ≤ node + 24) :
      later.value address 8 = bridged.value address 8 ∧
        resting.value address 8 = memory.value address 8 := by
    have := sides node member
    exact ⟨agreesFront.value fun place up down => by omega,
      agreesRest.value fun place up down => by omega⟩
  have clearOf {node other : Nat} (member : node ∈ front ++ back) (member' : other ∈ front ++ back)
      (apart : node ≠ other) : Clear node other := by
    refine laid.threads.nodes.clear node ?_ other ?_ apart
    · simp only [List.mem_append, List.mem_cons] at member ⊢
      rcases member with member | member
      · exact .inl (.inl member)
      · exact .inl (.inr (.inr member))
    · simp only [List.mem_append, List.mem_cons] at member' ⊢
      rcases member' with member' | member'
      · exact .inl (.inl member')
      · exact .inl (.inr (.inr member'))
  refine ⟨later, done, ⟨⟨sizeFront, freeFront, footFront⟩, ⟨?_, ?_, ?_⟩, ⟨?_, ?_⟩, ?_, ?_, ?_⟩⟩
  · exact (inRest (by omega) (by omega)).trans sizeRest
  · exact (inRest (by omega) (by omega)).trans freeRest
  · rw [show chunk + need + (size - need) = chunk + size by omega] at footRest
    exact (inRest (by omega) (by omega)).trans footRest
  · exact (inRest (by omega) (by omega)).trans nextRest
  · exact (inRest (by omega) (by omega)).trans prevRest
  · intro node member
    have real : node ≠ 0 := by
      have := sides node member
      omega
    have bridged' : nextAt bridged node =
        if node = prevAt memory chunk then chunk + need else nextAt resting node := by
      rw [← writtenBridge]
      exact nextAt_bridge real (by omega) (fun some => clearOf member (beforeIn some))
        fun some => clearOf member (afterIn some)
    obtain ⟨kept, old⟩ := inLinks member (show node + 8 ≤ node + 16 by omega) (by omega)
    rw [nextAt, kept]
    refine bridged'.trans ?_
    rw [show nextAt resting node = nextAt memory node from old]
  · intro node member
    have real : node ≠ 0 := by
      have := sides node member
      omega
    have bridged' : prevAt bridged node =
        if node = nextAt memory chunk then chunk + need else prevAt resting node := by
      rw [← writtenBridge]
      exact prevAt_bridge real (by omega) (fun some => clearOf member (beforeIn some))
        fun some => clearOf member (afterIn some)
    obtain ⟨kept, old⟩ := inLinks member (show node + 8 ≤ node + 8 by omega) (by omega)
    rw [prevAt, kept]
    refine bridged'.trans ?_
    rw [show prevAt resting node = prevAt memory node from old]
  · refine ((agreesRest.mono fun place there => ?_).trans
      (agreesBridge.mono fun place there => there.2)).trans (agreesFront.mono fun place there => ?_)
    · omega
    · have := there.1
      omega

/-- Headers and footers after a split. -/
theorem Halved.marks {later : Heap} {start stop : Nat}
    (halved : Halved memory later chunk size need front back)
    (tiles : Tiles stop start (left ++ ⟨chunk, size, true⟩ :: right))
    (fewer : ∀ node ∈ front ++ back, ∃ piece ∈ left ++ right, piece.address = node)
    (marks : Marks memory stop 0 (left ++ ⟨chunk, size, true⟩ :: right))
    (more : need + 40 < size) :
    Marks later stop 0
      (left ++ ⟨chunk, need, false⟩ :: ⟨chunk + need, size - need, true⟩ :: right) := by
  obtain ⟨-, -, room⟩ := tiles.middle
  -- the other pieces are as they were
  have kept {piece : Piece} (member : piece ∈ left ++ right) {address width : Nat}
      (low : piece.address ≤ address) (high : address + width ≤ piece.address + piece.size)
      (off : address + width ≤ piece.address + 8 ∨ piece.address + 24 ≤ address) :
      later.value address width = memory.value address width := by
    have sides := tiles.elsewhere member
    dsimp only at sides
    refine halved.agrees.value fun place up down => ⟨by omega, fun node listed => ?_⟩
    obtain ⟨another, known, rfl⟩ := fewer node listed
    have room := (tiles.bounds (mem_sides known)).2.2
    rcases tiles.apart (mem_sides member) (mem_sides known) with rfl | apart
    · omega
    · omega
  have cases {piece : Piece} (member : piece ∈ left ++ ⟨chunk, need, false⟩ ::
      ⟨chunk + need, size - need, true⟩ :: right) : piece = ⟨chunk, need, false⟩ ∨
        piece = ⟨chunk + need, size - need, true⟩ ∨ piece ∈ left ++ right := by
    rcases mem_middle member with same | member
    · exact .inl same
    · exact .inr (mem_middle member)
  refine ⟨fun piece member => ?_, fun piece member => ?_, fun piece member other followed => ?_⟩
  · rcases cases member with rfl | rfl | member
    · exact halved.first.1
    · exact halved.rest.1
    · have bounds := (tiles.bounds (mem_sides member)).2.2
      rw [← marks.sizes piece (mem_sides member)]
      exact kept member le_rfl (by omega) (by omega)
  · rcases cases member with rfl | rfl | member
    · exact halved.first.2.1
    · exact halved.rest.2.1
    · have bounds := (tiles.bounds (mem_sides member)).2.2
      rw [← marks.flags piece (mem_sides member)]
      exact kept member (by omega) (by omega) (by omega)
  · rcases cases member with rfl | rfl | member
    · exact halved.first.2.2
    · have foot := halved.rest.2.2
      rwa [show chunk + size = chunk + need + (size - need) by omega] at foot
    · have bounds := (tiles.bounds (mem_sides member)).2.2
      refine Eq.trans ?_ (marks.feet piece (mem_sides member) other followed)
      exact kept member (by omega) (by omega) (by omega)

/-- The lists after a split, the front part in neither of them. -/
theorem Halved.threads {later : Heap} (halved : Halved memory later chunk size need front back)
    (laid : Laid memory mm (left ++ ⟨chunk, size, true⟩ :: right) (front ++ chunk :: back) allocs)
    (least : 40 < need) (more : need + 40 < size) :
    Threads later mm.start mm.stop (front ++ (chunk + need) :: back) allocs
      (if prevAt memory chunk = 0 then chunk + need else mm.freeList) mm.allocList := by
  obtain ⟨above, below, room⟩ := laid.tiles.middle
  have sides := laid.sides
  have distinct : (chunk :: (front ++ back ++ allocs)).Nodup := by
    have perm : (front ++ chunk :: back ++ allocs).Perm (chunk :: (front ++ back ++ allocs)) :=
      List.perm_middle.append_right allocs
    exact perm.nodup_iff.mp laid.threads.distinct
  have perm : (front ++ (chunk + need) :: back ++ allocs).Perm
      ((chunk + need) :: (front ++ back ++ allocs)) := List.perm_middle.append_right allocs
  have inOld {node : Nat} (member : node ∈ front ++ back ++ allocs) :
      node ∈ front ++ chunk :: back ++ allocs := by
    simp only [List.mem_append, List.mem_cons] at member ⊢
    rcases member with (member | member) | member
    · exact .inl (.inl member)
    · exact .inl (.inr (.inr member))
    · exact .inr member
  refine ⟨⟨fun node member => ?_, fun node member other member' apart => ?_⟩, ?_, ?_, ?_⟩
  · rcases List.mem_cons.mp (perm.mem_iff.mp member) with rfl | member
    · omega
    · have := sides node member
      omega
  · rcases List.mem_cons.mp (perm.mem_iff.mp member) with rfl | member
    · rcases List.mem_cons.mp (perm.mem_iff.mp member') with rfl | member'
      · contradiction
      · have := sides other member'
        rw [Clear]
        omega
    · rcases List.mem_cons.mp (perm.mem_iff.mp member') with rfl | member'
      · have := sides node member
        rw [Clear]
        omega
      · exact laid.threads.nodes.clear node (inOld member) other (inOld member') apart
  · rw [perm.nodup_iff, List.nodup_cons]
    refine ⟨fun member => ?_, (List.nodup_cons.mp distinct).2⟩
    have := sides _ member
    omega
  · exact laid.threads.free.replace (List.nodup_append.mp laid.threads.distinct).1 (by omega)
      halved.links.1 halved.links.2 halved.forward halved.backward
  · have kept : Heap.Agrees (OnLinks allocs) memory later := by
      refine halved.agrees.mono fun place there => ⟨?_, ?_⟩
      · obtain ⟨node, member, low, high⟩ := there
        have := sides node (List.mem_append_right _ member)
        omega
      · refine offLinks_of_onLinks (fun node member other member' => ?_) there
        have other' : other ∈ front ++ chunk :: back := by
          rcases List.mem_append.mp member' with member' | member'
          · exact List.mem_append_left _ member'
          · exact List.mem_append_right _ (List.mem_cons_of_mem _ member')
        have := laid.threads.clear other' member
        rw [Clear] at this ⊢
        omega
    exact laid.threads.alloc.congr (fun _ member => (links_of_agrees kept member).1)
      fun _ member => (links_of_agrees kept member).2

/-- A free chunk is split. -/
theorem splitChunk_spec (reachable : Reachable memory mm)
    (laid : Laid memory mm (left ++ ⟨chunk, size, true⟩ :: right) (front ++ chunk :: back) allocs)
    (marks : Marks memory mm.stop 0 (left ++ ⟨chunk, size, true⟩ :: right))
    (least : 40 < need) (more : need + 40 < size) :
    ∃ later freeList, splitChunk memory mm.freeList chunk need = some (later, freeList) ∧
      Prepared later mm freeList
        (left ++ ⟨chunk, need, false⟩ :: ⟨chunk + need, size - need, true⟩ :: right)
        (front ++ (chunk + need) :: back) allocs chunk ∧
      Heap.Agrees (Beyond mm) memory later := by
  obtain ⟨later, done, halved⟩ := splitChunk_halved reachable laid marks least more
  obtain ⟨above, below, room⟩ := laid.tiles.middle
  have sides := laid.sides
  have fewer : ∀ node ∈ front ++ back, ∃ piece ∈ left ++ right, piece.address = node := by
    intro node member
    have apart := sides node (List.mem_append_left _ member)
    have listed : node ∈ front ++ chunk :: back ++ allocs := by
      simp only [List.mem_append, List.mem_cons] at member ⊢
      rcases member with member | member
      · exact .inl (.inl member)
      · exact .inl (.inr (.inr member))
    obtain ⟨piece, known, rfl⟩ := List.mem_map.mp (laid.subset node listed)
    rcases mem_middle known with rfl | known
    · dsimp only at apart
      omega
    · exact ⟨piece, known, rfl⟩
  refine ⟨later, _, done, ⟨laid.tiles.split least more false true,
    halved.marks laid.tiles fewer marks more, halved.threads laid least more,
    ?_, ?_⟩, halved.agrees.mono fun place there => ⟨?_, fun node member => ?_⟩⟩
  · have perm := laid.free
    rw [marked_append, marked_cons_self] at perm
    rw [marked_append, marked_cons_of_ne (by decide), marked_cons_self]
    have others : (front ++ back).Perm (marked true left ++ marked true right) :=
      (List.perm_cons chunk).mp ((List.perm_middle.symm.trans perm).trans List.perm_middle)
    exact (List.perm_middle.trans (others.cons (chunk + need))).trans List.perm_middle.symm
  · have perm := laid.alloc
    rw [marked_append, marked_cons_of_ne (by decide)] at perm
    rw [marked_append, marked_cons_self, marked_cons_of_ne (by decide)]
    exact (perm.cons chunk).trans List.perm_middle.symm
  · rw [Beyond] at there
    omega
  · have := sides node (List.mem_append_left _ member)
    rw [Beyond] at there
    omega

/-! ## Taking a chunk -/

/-- The allocated pieces. -/
def taken (pieces : List Piece) : List Piece := pieces.filter fun piece => !piece.free

/-- What allocating from a free piece makes of the pieces: its front part is a piece of the needed
size when the rest has more than a header and a footer, else all of it is allocated. -/
inductive Cut (need : Nat) : List Piece → Piece → List Piece → Prop
  /-- The front part is allocated. -/
  | split {left right : List Piece} {chunk size : Nat} (more : need + 40 < size) :
    Cut need (left ++ ⟨chunk, size, true⟩ :: right) ⟨chunk, need, false⟩
      (left ++ ⟨chunk, need, false⟩ :: ⟨chunk + need, size - need, true⟩ :: right)
  /-- All of it is allocated. -/
  | whole {left right : List Piece} {chunk size : Nat} :
    Cut need (left ++ ⟨chunk, size, true⟩ :: right) ⟨chunk, size, false⟩
      (left ++ ⟨chunk, size, false⟩ :: right)

/-- A descriptor of the same block. -/
def SameBlock (mm later : MPMemory) : Prop :=
  later.start = mm.start ∧ later.memPoolSize = mm.memPoolSize

/-- The same block ends at the same place. -/
theorem SameBlock.stop {later : MPMemory} (same : SameBlock mm later) : later.stop = mm.stop := by
  rw [MPMemory.stop, same.1, same.2, MPMemory.stop]

/-- A block in order under a descriptor with other lists and counters. -/
theorem SameBlock.laid {later : MPMemory} {pieces : List Piece} (same : SameBlock mm later)
    (tiles : Tiles mm.stop mm.start pieces)
    (threads : Threads memory mm.start mm.stop frees allocs later.freeList later.allocList)
    (free : frees.Perm (marked true pieces)) (alloc : allocs.Perm (marked false pieces))
    (allocMem : later.allocMem = allocated Piece.size pieces)
    (allocProgMem : later.allocProgMem = allocated Piece.prog pieces) :
    Laid memory later pieces frees allocs := by
  refine ⟨?_, ?_, free, alloc, allocMem, allocProgMem⟩
  · rw [same.stop, same.1]
    exact tiles
  · rw [same.stop, same.1]
    exact threads

/-- The chunk that is in neither list goes to the front of the allocated ones. -/
theorem Prepared.insert {pieces : List Piece} {freeList : Nat}
    (prepared : Prepared memory mm freeList pieces frees allocs chunk)
    (reachable : Reachable memory mm) :
    ∃ later, mpDlinklistInsFrt memory mm.allocList chunk = some (later, chunk) ∧
      Threads later mm.start mm.stop frees (chunk :: allocs) freeList chunk ∧
      Marks later mm.stop 0 pieces ∧ Heap.Agrees (Beyond mm) memory later := by
  have perm : (chunk :: allocs ++ frees).Perm (pieces.map Piece.address) :=
    ((prepared.alloc.append prepared.free).trans List.perm_append_comm).trans (marked_perm pieces)
  have nodes : Nodes mm.start mm.stop (chunk :: allocs ++ frees) :=
    prepared.tiles.nodes.mono fun node member => perm.mem_iff.mp member
  have real : chunk ≠ 0 := by
    have inside := nodes.inside chunk (by simp)
    have positive := reachable.positive
    omega
  obtain ⟨later, done, threads, agrees⟩ :=
    prepared.threads.symm.ins reachable.opened reachable.bounded nodes
      (perm.nodup_iff.mpr prepared.tiles.nodup) real
  have fewer : ∀ node ∈ chunk :: allocs, node ∈ pieces.map Piece.address :=
    fun node member => perm.mem_iff.mp (List.mem_append_left _ member)
  exact ⟨later, done, threads.symm,
    prepared.marks.links prepared.tiles (agrees.mono fun _ there => offLinks_mono fewer there),
    agrees.mono fun place there => offLinks_mono (fun node member => List.mem_append_left _ member)
      (nodes.beyond there)⟩

/-- What is allocated when one piece more is. -/
theorem allocated_perm {pieces later : List Piece} {piece : Piece} (weight : Piece → Nat)
    (perm : (taken later).Perm (piece :: taken pieces)) :
    allocated weight later = weight piece + allocated weight pieces := by
  have sums : ((taken later).map weight).sum = ((piece :: taken pieces).map weight).sum :=
    (perm.map weight).sum_eq
  rw [List.map_cons, List.sum_cons] at sums
  exact sums

/-- The chunk that is allocated is prepared, by its front part or whole. -/
theorem cutChunk_spec (reachable : Reachable memory mm)
    (laid : Laid memory mm (left ++ ⟨chunk, size, true⟩ :: right) (front ++ chunk :: back) allocs)
    (marks : Marks memory mm.stop 0 (left ++ ⟨chunk, size, true⟩ :: right))
    (enough : need ≤ size) (least : 40 < need) :
    ∃ later freeList pieces frees size',
      cutChunk memory mm.freeList chunk size need = some (later, freeList) ∧
      Prepared later mm freeList pieces frees allocs chunk ∧
      Heap.Agrees (Beyond mm) memory later ∧ need ≤ size' ∧
      (taken pieces).Perm (⟨chunk, size', false⟩ :: taken (left ++ ⟨chunk, size, true⟩ :: right)) ∧
      Cut need (left ++ ⟨chunk, size, true⟩ :: right) ⟨chunk, size', false⟩ pieces := by
  obtain ⟨above, below, room⟩ := laid.tiles.middle
  have bounded := reachable.bounded
  have positive := reachable.positive
  rw [cutChunk, sub64_of_le enough (by omega), chunkHeader, chunkEnd]
  by_cases more : 32 + 8 < size - need
  · obtain ⟨later, freeList, done, order, apart⟩ :=
      splitChunk_spec reachable laid marks least (by omega)
    refine ⟨later, freeList, _, _, need, ?_, order, apart, le_rfl, ?_, .split (by omega)⟩
    · rw [if_pos more, done]
    · simp only [taken, List.filter_append, List.filter_cons]
      exact List.perm_middle
  · obtain ⟨later, freeList, done, order, apart⟩ := wholeChunk_spec reachable laid marks
    refine ⟨later, freeList, _, _, size, ?_, order, apart, enough, ?_, .whole⟩
    · rw [if_neg more, done]
    · simp only [taken, List.filter_append, List.filter_cons]
      exact List.perm_middle

/-- The size of a user area. -/
theorem sub64_user (room : 40 ≤ size) (fits : size < 2 ^ 64) :
    sub64 (sub64 size chunkHeader) chunkEnd = size - 40 := by
  rw [chunkHeader, chunkEnd, sub64_of_le (by omega) fits, sub64_of_le (by omega) (by omega)]
  omega

/-- The bytes of a piece without its header and footer. -/
theorem prog_eq {free : Bool} : Piece.prog ⟨chunk, size, free⟩ = size - 40 := by
  rw [Piece.prog, chunkHeader, chunkEnd, Nat.sub_sub]

/-- `takeChunk` is its four steps. -/
theorem takeChunk_eq {cut listed : Heap} {free freeList allocList size' : Nat}
    (sized : allocMem memory free = some size)
    (done : cutChunk memory mm.freeList free size need = some (cut, freeList))
    (inserted : mpDlinklistInsFrt cut mm.allocList free = some (listed, allocList))
    (resized : allocMem listed free = some size') :
    takeChunk memory mm free need = some (listed, { mm with
      freeList, allocList, allocMem := add64 mm.allocMem size'
      allocProgMem := add64 mm.allocProgMem (sub64 (sub64 size' chunkHeader) chunkEnd) },
      free + chunkHeader) := by
  refine Option.bind_eq_some_iff.mpr ⟨size, sized, ?_⟩
  refine Option.bind_eq_some_iff.mpr ⟨(cut, freeList), done, ?_⟩
  refine Option.bind_eq_some_iff.mpr ⟨(listed, allocList), inserted, ?_⟩
  exact Option.bind_eq_some_iff.mpr ⟨size', resized, rfl⟩

/-- The part of `MemoryPoolAlloc` that allocates from the free chunk it has found. -/
theorem takeChunk_spec {pieces : List Piece} (reachable : Reachable memory mm)
    (laid : Laid memory mm pieces frees allocs) (marks : Marks memory mm.stop 0 pieces)
    (member : chunk ∈ frees) (enough : need ≤ sizeAt memory chunk) (least : 40 < need) :
    ∃ later mm' pieces' frees' allocs' size,
      takeChunk memory mm chunk need = some (later, mm', chunk + chunkHeader) ∧
      Laid later mm' pieces' frees' allocs' ∧ Marks later mm'.stop 0 pieces' ∧ SameBlock mm mm' ∧
      Heap.Agrees (Beyond mm) memory later ∧ need ≤ size ∧
      (taken pieces').Perm (⟨chunk, size, false⟩ :: taken pieces) ∧
      Cut need pieces ⟨chunk, size, false⟩ pieces' := by
  obtain ⟨⟨address, whole, free⟩, known, isFree, same⟩ :=
    mem_marked.mp (laid.free.mem_iff.mp member)
  dsimp only at isFree same
  subst isFree same
  obtain ⟨left, right, rfl⟩ := List.append_of_mem known
  obtain ⟨front, back, rfl⟩ := List.append_of_mem member
  have sizeIs : sizeAt memory address = whole := marks.sizes ⟨address, whole, true⟩ known
  rw [sizeIs] at enough
  obtain ⟨above, below, room⟩ := laid.tiles.middle
  have bounded := reachable.bounded
  have positive := reachable.positive
  obtain ⟨prepared, freeList, pieces', frees', size, done, order, apart, enough', perm, cut⟩ :=
    cutChunk_spec reachable laid marks enough least
  have reachable' := reachable.agrees apart
  obtain ⟨later, inserted, threads, marks', apart'⟩ := order.insert reachable'
  have placed : (⟨address, size, false⟩ : Piece) ∈ pieces' := by
    have : (⟨address, size, false⟩ : Piece) ∈ taken pieces' := perm.mem_iff.mpr List.mem_cons_self
    exact (List.mem_filter.mp this).1
  have bounds : mm.start ≤ address ∧ address + size ≤ mm.stop ∧ 40 ≤ size :=
    order.tiles.bounds placed
  have sizeIs' : sizeAt later address = size := marks'.sizes ⟨address, size, false⟩ placed
  have total : mm.start + allocated Piece.size pieces' ≤ mm.stop :=
    order.tiles.allocated_le fun _ _ => le_rfl
  have total' : mm.start + allocated Piece.prog pieces' ≤ mm.stop :=
    order.tiles.allocated_le fun piece _ => by
      rw [Piece.prog]
      omega
  have sum : allocated Piece.size pieces' = size + mm.allocMem := by
    rw [laid.allocMem]
    exact allocated_perm Piece.size perm
  have sum' : allocated Piece.prog pieces' = (size - 40) + mm.allocProgMem := by
    rw [laid.allocProgMem, allocated_perm Piece.prog perm, prog_eq]
  have same : SameBlock mm { mm with
      freeList, allocList := address, allocMem := add64 mm.allocMem size
      allocProgMem := add64 mm.allocProgMem (sub64 (sub64 size chunkHeader) chunkEnd) } := ⟨rfl, rfl⟩
  refine ⟨later, _,
    pieces', frees', address :: allocs, size, ?_,
    same.laid order.tiles threads order.free order.alloc ?_ ?_, ?_, same, apart.trans apart',
    enough', perm, cut⟩
  · have sized := allocMem_eq reachable.opened above (show address + 32 ≤ mm.stop by omega)
    have resized := allocMem_eq (reachable'.opened.agrees apart') above
      (show address + 32 ≤ mm.stop by omega)
    rw [sizeIs] at sized
    rw [sizeIs'] at resized
    exact takeChunk_eq sized done inserted resized
  · dsimp only
    rw [sum, add64_of_lt (by omega)]
    omega
  · dsimp only
    rw [sum', sub64_user (by omega) (by omega), add64_of_lt (by omega)]
    omega
  · rw [same.stop]
    exact marks'

/-! ## Releasing a chunk -/

/-- The part of `MemoryPoolFree` before `merge_free_chunk`. -/
theorem releaseChunk_spec (reachable : Reachable memory mm)
    (laid : Laid memory mm (left ++ ⟨chunk, size, false⟩ :: right) frees allocs)
    (marks : Marks memory mm.stop 0 (left ++ ⟨chunk, size, false⟩ :: right)) :
    ∃ later mm' allocs', releaseChunk memory mm chunk = some (later, mm') ∧
      Laid later mm' (left ++ ⟨chunk, size, true⟩ :: right) (chunk :: frees) allocs' ∧
      Marks later mm'.stop 0 (left ++ ⟨chunk, size, true⟩ :: right) ∧ SameBlock mm mm' ∧
      Heap.Agrees (Beyond mm) memory later := by
  obtain ⟨above, below, room⟩ := laid.tiles.middle
  have bounded := reachable.bounded
  have positive := reachable.positive
  have listed : chunk ∈ allocs := by
    refine laid.alloc.mem_iff.mpr (mem_marked.mpr ⟨⟨chunk, size, false⟩, ?_, rfl, rfl⟩)
    simp
  obtain ⟨front, back, rfl⟩ := List.append_of_mem listed
  have fewer : ∀ node ∈ frees ++ (front ++ chunk :: back),
      node ∈ (left ++ ⟨chunk, size, false⟩ :: right).map Piece.address := laid.subset
  have some' : ∀ node ∈ front ++ back, node ∈ front ++ chunk :: back := by
    intro node member
    rcases List.mem_append.mp member with member | member
    · exact List.mem_append_left _ member
    · exact List.mem_append_right _ (List.mem_cons_of_mem _ member)
  -- off the allocated list, onto the free list, marked free
  obtain ⟨unlinked, allocList, deleted, threads, agrees⟩ :=
    laid.threads.symm.del reachable.opened
  have marks₁ := marks.links laid.tiles (agrees.mono fun _ there =>
    offLinks_mono (fun node member => fewer node (List.mem_append_right _ (some' node member)))
      there)
  have perm : (chunk :: frees ++ (front ++ back)).Perm (frees ++ (front ++ chunk :: back)) := by
    have moved : (frees ++ (front ++ chunk :: back)).Perm (frees ++ chunk :: (front ++ back)) :=
      List.perm_middle.append_left frees
    exact (moved.trans List.perm_middle).symm
  have nodes : Nodes mm.start mm.stop (chunk :: frees ++ (front ++ back)) :=
    laid.threads.nodes.mono fun node member => perm.mem_iff.mp member
  obtain ⟨relinked, inserted, threads', agrees'⟩ :=
    threads.symm.ins (reachable.opened.agrees agrees) bounded nodes
      (perm.nodup_iff.mpr laid.threads.distinct) (by omega)
  have marks₂ := marks₁.links laid.tiles (agrees'.mono fun _ there =>
    offLinks_mono (fun node member => fewer node (perm.mem_iff.mp (List.mem_append_left _ member)))
      there)
  have opened : Open relinked mm.start mm.stop :=
    (reachable.opened.agrees agrees).agrees agrees'
  have marks₃ := marks₂.flag laid.tiles true
  have sizeIs : sizeAt (relinked.put (chunk + 24) 4 1) chunk = size :=
    marks₃.sizes ⟨chunk, size, true⟩ (by simp)
  have total : mm.start + allocated Piece.size (left ++ ⟨chunk, size, false⟩ :: right) ≤ mm.stop :=
    laid.tiles.allocated_le fun _ _ => le_rfl
  have total' : mm.start + allocated Piece.prog (left ++ ⟨chunk, size, false⟩ :: right) ≤ mm.stop :=
    laid.tiles.allocated_le fun piece _ => by
      rw [Piece.prog]
      omega
  have sum := laid.allocMem
  have sum' := laid.allocProgMem
  rw [allocated_append, allocated_cons_alloc] at total total' sum sum'
  rw [prog_eq] at total' sum'
  dsimp only at total sum
  have same : SameBlock mm { mm with
      freeList := chunk, allocList, allocMem := sub64 mm.allocMem size
      allocProgMem := sub64 mm.allocProgMem (sub64 (sub64 size chunkHeader) chunkEnd) } := ⟨rfl, rfl⟩
  refine ⟨relinked.put (chunk + 24) 4 1, _, front ++ back, ?_,
    same.laid laid.tiles.reflag ?_ ?_ ?_ ?_ ?_, ?_, same, ?_⟩
  · have opened' : Open (relinked.put (chunk + 24) 4 1) mm.start mm.stop := opened
    have sizeIs' := allocMem_eq opened' above (show chunk + 32 ≤ mm.stop by omega)
    rw [sizeIs] at sizeIs'
    rw [releaseChunk, deleted]
    simp only [Option.bind_eq_bind, Option.bind_some, inserted,
      setIsFree_eq opened above (show chunk + 32 ≤ mm.stop by omega), sizeIs', Option.pure_def]
  · refine threads'.frame ((agrees_flag laid.tiles).mono fun _ there =>
      onLinks_mono (fun node member => fewer node (perm.mem_iff.mp member)) there)
  · have order := laid.free
    rw [marked_append, marked_cons_of_ne (by decide)] at order
    rw [marked_append, marked_cons_self]
    exact (order.cons chunk).trans List.perm_middle.symm
  · have order := laid.alloc
    rw [marked_append, marked_cons_self] at order
    rw [marked_append, marked_cons_of_ne (by decide)]
    exact (List.perm_cons chunk).mp
      ((List.perm_middle.symm.trans order).trans List.perm_middle)
  · dsimp only
    rw [allocated_append, allocated_cons_free, sub64_of_le (by omega) (by omega)]
    omega
  · dsimp only
    rw [allocated_append, allocated_cons_free, sub64_user room (by omega),
      sub64_of_le (by omega) (by omega)]
    omega
  · rw [same.stop]
    exact marks₃
  · refine ((agrees.mono fun place there => ?_).trans (agrees'.mono fun place there => ?_)).trans
      (Heap.agrees_put fun place there => ?_)
    · exact offLinks_mono (fun node member => List.mem_append_right _ (some' node member))
        (laid.threads.nodes.beyond there)
    · exact offLinks_mono (fun node member => List.mem_append_left _ member) (nodes.beyond there)
    · rw [Beyond] at there
      omega

end

end UubangIot.MemoryPool
