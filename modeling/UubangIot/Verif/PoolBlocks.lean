import UubangIot.Verif.PoolChunks

/-!
# Blocks in order

A block as the list of its pieces: what its memory and its descriptor say, and what the two ways to
allocate from a free chunk and the release of an allocated one do to them.
-/

namespace UubangIot.MemoryPool

open ByteMemory DoublyLinked

/-! ## Pieces -/

/-- A chunk of a block. -/
structure Piece where
  /-- The address of its header. -/
  address : Nat
  /-- Its size with header and footer. -/
  size : Nat
  /-- It is free. -/
  free : Bool
  deriving DecidableEq, Repr

/-- `is_free` of a piece. -/
def Piece.flag (piece : Piece) : Nat := if piece.free then 1 else 0

/-- The pieces lie one after the other from the start to the stop, each with room for a header and
a footer. -/
def Tiles (stop : Nat) : (start : Nat) → List Piece → Prop
  | start, [] => start = stop
  | start, piece :: rest =>
    piece.address = start ∧ chunkHeader + chunkEnd ≤ piece.size ∧
      Tiles stop (start + piece.size) rest

/-- The headers of the pieces that are free, or of those that are not. -/
def marked (free : Bool) (pieces : List Piece) : List Nat :=
  (pieces.filter fun piece => piece.free == free).map Piece.address

/-- The sum over the allocated pieces. -/
def allocated (weight : Piece → Nat) (pieces : List Piece) : Nat :=
  ((pieces.filter fun piece => !piece.free).map weight).sum

/-- The user area of a piece. -/
def Piece.prog (piece : Piece) : Nat := piece.size - chunkHeader - chunkEnd

section

variable {start stop address size need : Nat} {free other : Bool} {piece : Piece}
  {pieces left right : List Piece} {weight : Piece → Nat}

/-- The marked pieces of two parts are those of one and the other. -/
@[simp]
theorem marked_append : marked free (left ++ right) = marked free left ++ marked free right := by
  simp [marked]

/-- A piece of the mark in front is the first of the marked ones. -/
@[simp]
theorem marked_cons_self :
    marked free (⟨address, size, free⟩ :: pieces) = address :: marked free pieces := by
  simp [marked]

/-- A piece of the other mark in front is none of them. -/
@[simp]
theorem marked_cons_of_ne (differ : other ≠ free) :
    marked free (⟨address, size, other⟩ :: pieces) = marked free pieces := by
  simp [marked, differ]

/-- The addresses of the marked pieces. -/
theorem mem_marked : address ∈ marked free pieces ↔
    ∃ piece ∈ pieces, piece.free = free ∧ piece.address = address := by
  simp [marked, and_assoc]

/-- What is allocated in two parts is what is allocated in one and the other. -/
@[simp]
theorem allocated_append :
    allocated weight (left ++ right) = allocated weight left + allocated weight right := by
  simp [allocated]

/-- An allocated piece in front counts. -/
@[simp]
theorem allocated_cons_alloc :
    allocated weight (⟨address, size, false⟩ :: pieces) =
      weight ⟨address, size, false⟩ + allocated weight pieces := by
  simp [allocated]

/-- A free piece in front does not count. -/
@[simp]
theorem allocated_cons_free :
    allocated weight (⟨address, size, true⟩ :: pieces) = allocated weight pieces := by
  simp [allocated]

/-- Pieces in two parts tile a block exactly when the parts meet at an address. -/
theorem tiles_append : Tiles stop start (left ++ right) ↔
    ∃ middle, Tiles middle start left ∧ Tiles stop middle right := by
  induction left generalizing start with
  | nil =>
    constructor
    · intro tiles
      exact ⟨start, rfl, tiles⟩
    · rintro ⟨middle, rfl, tiles⟩
      exact tiles
  | cons piece rest ih =>
    constructor
    · rintro ⟨first, room, tiles⟩
      obtain ⟨middle, before, after⟩ := ih.mp tiles
      exact ⟨middle, ⟨first, room, before⟩, after⟩
    · rintro ⟨middle, ⟨first, room, before⟩, after⟩
      exact ⟨first, room, ih.mpr ⟨middle, before, after⟩⟩

/-- Pieces end after they start. -/
theorem Tiles.le (tiles : Tiles stop start pieces) : start ≤ stop := by
  induction pieces generalizing start with
  | nil => exact le_of_eq tiles
  | cons piece rest ih =>
    have := ih tiles.2.2
    omega

/-- A piece lies between the start and the stop. -/
theorem Tiles.bounds (tiles : Tiles stop start pieces) (member : piece ∈ pieces) :
    start ≤ piece.address ∧ piece.address + piece.size ≤ stop ∧ 40 ≤ piece.size := by
  induction pieces generalizing start with
  | nil => contradiction
  | cons head rest ih =>
    obtain ⟨first, room, tiles⟩ := tiles
    rw [chunkHeader, chunkEnd] at room
    have last := tiles.le
    rcases List.mem_cons.mp member with rfl | member
    · omega
    · have := ih tiles member
      omega

/-- The pieces on either side of one. -/
theorem Tiles.around (tiles : Tiles stop start (left ++ piece :: right)) :
    Tiles piece.address start left ∧ 40 ≤ piece.size ∧
      Tiles stop (piece.address + piece.size) right := by
  obtain ⟨middle, before, rfl, room, after⟩ := tiles_append.mp tiles
  exact ⟨before, room, after⟩

/-- Every other piece lies before or after. -/
theorem Tiles.elsewhere (tiles : Tiles stop start (left ++ piece :: right)) {another : Piece}
    (member : another ∈ left ++ right) :
    another.address + another.size ≤ piece.address ∨ piece.address + piece.size ≤ another.address := by
  obtain ⟨before, -, after⟩ := tiles.around
  rcases List.mem_append.mp member with member | member
  · exact .inl (before.bounds member).2.1
  · exact .inr (after.bounds member).1

/-- Headers of two pieces are apart, unless they are the same. -/
theorem Tiles.apart (tiles : Tiles stop start pieces) {another : Piece} (member : piece ∈ pieces)
    (member' : another ∈ pieces) : piece = another ∨
      piece.address + piece.size ≤ another.address ∨
        another.address + another.size ≤ piece.address := by
  obtain ⟨left, right, rfl⟩ := List.append_of_mem member
  rcases List.mem_append.mp member' with member' | member'
  · exact .inr (tiles.elsewhere (List.mem_append_left _ member')).symm
  · rcases List.mem_cons.mp member' with rfl | member'
    · exact .inl rfl
    · exact .inr (tiles.elsewhere (List.mem_append_right _ member')).symm

/-- No header is met twice. -/
theorem Tiles.nodup (tiles : Tiles stop start pieces) : (pieces.map Piece.address).Nodup := by
  induction pieces generalizing start with
  | nil => exact List.nodup_nil
  | cons piece rest ih =>
    obtain ⟨first, room, tiles⟩ := tiles
    rw [chunkHeader, chunkEnd] at room
    rw [List.map_cons, List.nodup_cons]
    refine ⟨fun member => ?_, ih tiles⟩
    obtain ⟨another, member, same⟩ := List.mem_map.mp member
    have := (tiles.bounds member).1
    omega

/-- The headers lie in the block and do not overlap. -/
theorem Tiles.nodes (tiles : Tiles stop start pieces) :
    Nodes start stop (pieces.map Piece.address) where
  inside node member := by
    obtain ⟨piece, known, rfl⟩ := List.mem_map.mp member
    have := tiles.bounds known
    omega
  clear node member other member' apart := by
    obtain ⟨piece, known, rfl⟩ := List.mem_map.mp member
    obtain ⟨another, known', rfl⟩ := List.mem_map.mp member'
    have room := (tiles.bounds known).2.2
    have room' := (tiles.bounds known').2.2
    rcases tiles.apart known known' with rfl | sides
    · contradiction
    · rw [Clear]
      omega

/-- A header that is marked is a header. -/
theorem marked_subset (member : address ∈ marked free pieces) :
    address ∈ pieces.map Piece.address := by
  obtain ⟨piece, known, -, rfl⟩ := mem_marked.mp member
  exact List.mem_map_of_mem known

/-- The free and the allocated pieces are all pieces. -/
theorem marked_perm (pieces : List Piece) :
    (marked true pieces ++ marked false pieces).Perm (pieces.map Piece.address) := by
  induction pieces with
  | nil => exact .nil
  | cons piece rest ih =>
    obtain ⟨address, size, free⟩ := piece
    cases free with
    | true =>
      rw [marked_cons_self, marked_cons_of_ne (by decide)]
      exact ih.cons address
    | false =>
      rw [marked_cons_self, marked_cons_of_ne (by decide)]
      exact List.perm_middle.trans (ih.cons address)

/-- What is allocated fits between the start and the stop. -/
theorem Tiles.allocated_le (tiles : Tiles stop start pieces)
    (light : ∀ piece ∈ pieces, weight piece ≤ piece.size) :
    start + allocated weight pieces ≤ stop := by
  induction pieces generalizing start with
  | nil =>
    rw [Tiles] at tiles
    simp [allocated, tiles]
  | cons piece rest ih =>
    obtain ⟨first, room, tiles⟩ := tiles
    have later := ih tiles fun piece member => light piece (List.mem_cons_of_mem _ member)
    have own := light piece List.mem_cons_self
    obtain ⟨address, size, free⟩ := piece
    cases free with
    | true =>
      rw [allocated_cons_free]
      omega
    | false =>
      rw [allocated_cons_alloc]
      dsimp only at own later
      omega

end

/-! ## Memory in order -/

/-- Headers and footers: the size and the flag of every chunk, and at the end of a chunk with
another behind it its own address; the footer of one chunk may be excepted. -/
structure Marks (memory : Heap) (stop except : Nat) (pieces : List Piece) : Prop where
  /-- `alloc_mem` of the chunks. -/
  sizes : ∀ piece ∈ pieces, sizeAt memory piece.address = piece.size
  /-- `is_free` of the chunks. -/
  flags : ∀ piece ∈ pieces, freeAt memory piece.address = piece.flag
  /-- The footers. -/
  feet : ∀ piece ∈ pieces, piece.address ≠ except → piece.address + piece.size < stop →
    footAt memory (piece.address + piece.size) = piece.address

/-- A block in order but for its headers and footers: the pieces cover it, the lists hold the free
and the allocated ones, and the counters are right. -/
structure Laid (memory : Heap) (mm : MPMemory) (pieces : List Piece) (frees allocs : List Nat) :
    Prop where
  /-- The pieces cover the block. -/
  tiles : Tiles mm.stop mm.start pieces
  /-- The lists. -/
  threads : Threads memory mm.start mm.stop frees allocs mm.freeList mm.allocList
  /-- The free chunks. -/
  free : frees.Perm (marked true pieces)
  /-- The allocated chunks. -/
  alloc : allocs.Perm (marked false pieces)
  /-- `mm->alloc_mem`. -/
  allocMem : mm.allocMem = allocated Piece.size pieces
  /-- `mm->alloc_prog_mem`. -/
  allocProgMem : mm.allocProgMem = allocated Piece.prog pieces

/-- The bytes of a block. -/
def Within (mm : MPMemory) (place : Nat) : Prop := mm.start ≤ place ∧ place < mm.stop

/-- The bytes of the other blocks. -/
def Beyond (mm : MPMemory) (place : Nat) : Prop := place < mm.start ∨ mm.stop ≤ place

section

variable {memory later : Heap} {mm : MPMemory} {pieces left right : List Piece}
  {frees allocs : List Nat} {start stop except chunk size number : Nat} {piece : Piece}
  {free free' : Bool}

/-- The bytes of a piece outside its links. -/
theorem Tiles.offLinks (tiles : Tiles stop start pieces) (member : piece ∈ pieces) {place : Nat}
    (inside : piece.address ≤ place ∧ place < piece.address + piece.size)
    (off : place < piece.address + 8 ∨ piece.address + 24 ≤ place) :
    OffLinks (pieces.map Piece.address) place := by
  intro node member'
  obtain ⟨another, known, rfl⟩ := List.mem_map.mp member'
  have room := (tiles.bounds known).2.2
  rcases tiles.apart member known with rfl | sides
  · exact off
  · omega

/-- Headers and footers stay while only links change. -/
theorem Marks.links (marks : Marks memory stop except pieces) (tiles : Tiles stop start pieces)
    (agrees : Heap.Agrees (OffLinks (pieces.map Piece.address)) memory later) :
    Marks later stop except pieces where
  sizes piece member := by
    have room := (tiles.bounds member).2.2
    rw [← marks.sizes piece member]
    exact agrees.value fun place above below => tiles.offLinks member (by omega) (by omega)
  flags piece member := by
    have room := (tiles.bounds member).2.2
    rw [← marks.flags piece member]
    exact agrees.value fun place above below => tiles.offLinks member (by omega) (by omega)
  feet piece member other followed := by
    have room := (tiles.bounds member).2.2
    have same : footAt later (piece.address + piece.size) =
        footAt memory (piece.address + piece.size) :=
      agrees.value fun place above below => tiles.offLinks member (by omega) (by omega)
    exact same.trans (marks.feet piece member other followed)

/-- Headers and footers stay while the bytes of the block do. -/
theorem Marks.frame (marks : Marks memory mm.stop except pieces)
    (tiles : Tiles mm.stop mm.start pieces) (agrees : Heap.Agrees (Within mm) memory later) :
    Marks later mm.stop except pieces where
  sizes piece member := by
    have bounds := tiles.bounds member
    rw [← marks.sizes piece member]
    exact agrees.value fun place above below => ⟨by omega, by omega⟩
  flags piece member := by
    have bounds := tiles.bounds member
    rw [← marks.flags piece member]
    exact agrees.value fun place above below => ⟨by omega, by omega⟩
  feet piece member other followed := by
    have bounds := tiles.bounds member
    have same : footAt later (piece.address + piece.size) =
        footAt memory (piece.address + piece.size) :=
      agrees.value fun place above below => ⟨by omega, by omega⟩
    exact same.trans (marks.feet piece member other followed)

/-- A piece's flag is no part of where it lies. -/
theorem Tiles.reflag (tiles : Tiles stop start (left ++ ⟨chunk, size, free⟩ :: right)) :
    Tiles stop start (left ++ ⟨chunk, size, free'⟩ :: right) := by
  obtain ⟨middle, before, after⟩ := tiles_append.mp tiles
  exact tiles_append.mpr ⟨middle, before, after⟩

/-- A piece is the one in the middle or on one of its sides. -/
theorem mem_middle (member : piece ∈ left ++ ⟨chunk, size, free⟩ :: right) :
    piece = ⟨chunk, size, free⟩ ∨ piece ∈ left ++ right := by
  rcases List.mem_append.mp member with member | member
  · exact .inr (List.mem_append_left _ member)
  · rcases List.mem_cons.mp member with same | member
    · exact .inl same
    · exact .inr (List.mem_append_right _ member)

/-- A piece on one of the sides. -/
theorem mem_sides (member : piece ∈ left ++ right) :
    piece ∈ left ++ ⟨chunk, size, free⟩ :: right := by
  rcases List.mem_append.mp member with member | member
  · exact List.mem_append_left _ member
  · exact List.mem_append_right _ (List.mem_cons_of_mem _ member)

/-- Writing the flag of one chunk. -/
theorem Marks.flag (marks : Marks memory stop except (left ++ ⟨chunk, size, free⟩ :: right))
    (tiles : Tiles stop start (left ++ ⟨chunk, size, free⟩ :: right)) (free' : Bool) :
    Marks (memory.put (chunk + 24) 4 (Piece.flag ⟨chunk, size, free'⟩)) stop except
      (left ++ ⟨chunk, size, free'⟩ :: right) := by
  have room : 40 ≤ size := tiles.around.2.1
  have own : (⟨chunk, size, free⟩ : Piece) ∈ left ++ ⟨chunk, size, free⟩ :: right := by simp
  have small : Piece.flag ⟨chunk, size, free'⟩ < 256 ^ 4 := by
    rw [Piece.flag]
    split <;> decide
  refine ⟨fun piece member => ?_, fun piece member => ?_, fun piece member other followed => ?_⟩
  · rcases mem_middle member with rfl | member
    · have old : sizeAt memory chunk = size := marks.sizes ⟨chunk, size, free⟩ own
      dsimp only
      rw [← old]
      exact Heap.value_put_of_disjoint (by omega)
    · have sides := tiles.elsewhere member
      have bounds := (tiles.bounds (mem_sides member)).2.2
      dsimp only at sides
      exact (Heap.value_put_of_disjoint (by omega)).trans (marks.sizes _ (mem_sides member))
  · rcases mem_middle member with rfl | member
    · exact Heap.value_put_self small
    · have sides := tiles.elsewhere member
      have bounds := (tiles.bounds (mem_sides member)).2.2
      dsimp only at sides
      exact (Heap.value_put_of_disjoint (by omega)).trans (marks.flags _ (mem_sides member))
  · rcases mem_middle member with rfl | member
    · have old : footAt memory (chunk + size) = chunk :=
        marks.feet ⟨chunk, size, free⟩ own other followed
      dsimp only
      refine Eq.trans ?_ old
      exact Heap.value_put_of_disjoint (by omega)
    · have sides := tiles.elsewhere member
      have bounds := (tiles.bounds (mem_sides member)).2.2
      dsimp only at sides
      exact (Heap.value_put_of_disjoint (by omega)).trans
        (marks.feet _ (mem_sides member) other followed)

/-- Writing the flag of a chunk leaves all links alone. -/
theorem agrees_flag (tiles : Tiles stop start (left ++ ⟨chunk, size, free⟩ :: right)) :
    Heap.Agrees (OnLinks ((left ++ ⟨chunk, size, free⟩ :: right).map Piece.address)) memory
      (memory.put (chunk + 24) 4 number) := by
  refine Heap.agrees_put fun place there => ?_
  obtain ⟨node, member, above, below⟩ := there
  obtain ⟨piece, known, rfl⟩ := List.mem_map.mp member
  rcases mem_middle known with rfl | known
  · dsimp only at above below
    omega
  · have sides := tiles.elsewhere known
    have bounds := (tiles.bounds (mem_sides known)).2.2
    have room : 40 ≤ size := tiles.around.2.1
    dsimp only at sides
    omega

/-- The links of the chunks of a block are bytes of the block. -/
theorem Nodes.within {nodes : List Nat} (all : Nodes mm.start mm.stop nodes) {place : Nat}
    (there : OnLinks nodes place) : Within mm place := by
  obtain ⟨node, member, above, below⟩ := there
  have := all.inside node member
  exact ⟨by omega, by omega⟩

/-- The other blocks lie off the links of a block. -/
theorem Nodes.beyond {nodes : List Nat} (all : Nodes mm.start mm.stop nodes) {place : Nat}
    (there : Beyond mm place) : OffLinks nodes place := by
  intro node member
  have := all.inside node member
  rw [Beyond] at there
  omega

/-- A block stays in order while its bytes do. -/
theorem Laid.frame (laid : Laid memory mm pieces frees allocs)
    (agrees : Heap.Agrees (Within mm) memory later) : Laid later mm pieces frees allocs where
  tiles := laid.tiles
  threads := laid.threads.frame (agrees.mono fun _ there => laid.threads.nodes.within there)
  free := laid.free
  alloc := laid.alloc
  allocMem := laid.allocMem
  allocProgMem := laid.allocProgMem

/-- What is allocated from a block is no more than it has. -/
theorem Laid.allocMem_le (laid : Laid memory mm pieces frees allocs) :
    mm.allocMem ≤ mm.memPoolSize := by
  have fits : mm.start + allocated Piece.size pieces ≤ mm.stop :=
    laid.tiles.allocated_le fun _ _ => le_rfl
  rw [laid.allocMem]
  rw [MPMemory.stop] at fits
  omega

/-- A header in one of the lists is that of a piece. -/
theorem Laid.subset (laid : Laid memory mm pieces frees allocs) :
    ∀ node ∈ frees ++ allocs, node ∈ pieces.map Piece.address := by
  intro node member
  rcases List.mem_append.mp member with member | member
  · exact marked_subset (laid.free.mem_iff.mp member)
  · exact marked_subset (laid.alloc.mem_iff.mp member)

end

/-! ## Arithmetic of sizes -/

/-- A sum below 2^64 does not wrap. -/
theorem add64_of_lt {a b : Nat} (fits : a + b < 2 ^ 64) : add64 a b = a + b := Nat.mod_eq_of_lt fits

/-- A difference of a number and a smaller one does not wrap. -/
theorem sub64_of_le {a b : Nat} (less : b ≤ a) (fits : a < 2 ^ 64) : sub64 a b = a - b := by
  rw [sub64, show a + 2 ^ 64 - b = a - b + 2 ^ 64 by omega, Nat.add_mod_right]
  exact Nat.mod_eq_of_lt (by omega)

/-- What the mask of `MP_ALIGN_SIZE` takes off a size. -/
theorem lowBits (n : Nat) : (sizeofLong - 1) &&& n = n % sizeofLong := by
  have mask := Nat.and_two_pow_sub_one_eq_mod n 2
  rwa [Nat.and_comm] at mask

/-- The padded size of a request that does not wrap: room for header and footer and more, a
multiple of `sizeof(long)`. -/
theorem totalNeededSize_eq {wantsize : Nat} (fits : wantsize + 44 < 2 ^ 64) :
    totalNeededSize wantsize = wantsize + 44 - wantsize % 4 := by
  have sum : add64 (add64 wantsize chunkHeader) chunkEnd = wantsize + 40 := by
    rw [add64_of_lt (b := chunkHeader) (by rw [chunkHeader]; omega),
      add64_of_lt (by rw [chunkHeader, chunkEnd]; omega), chunkHeader, chunkEnd]
  rw [totalNeededSize, sum, mpAlignSize, lowBits, sizeofLong, add64_of_lt (by omega),
    sub64_of_le (by omega) (by omega)]
  omega

end UubangIot.MemoryPool
