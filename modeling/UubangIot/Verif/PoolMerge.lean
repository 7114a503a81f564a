import Mathlib.Data.List.Chain
import Mathlib.Data.List.Induction
import UubangIot.Verif.PoolMoves

/-!
# Merging free chunks

`merge_free_chunk` goes back over the free chunks in front of a chunk and then takes in the free
chunks behind. It stays in the block when the limit it looks up to is the end of the block, or when
an allocated chunk lies behind; else it reads the header that would begin where the block ends.
-/

namespace UubangIot.MemoryPool

open ByteMemory DoublyLinked

/-- A block in order but for the footer of one chunk, its free list at an address of its own. -/
structure Merging (memory : Heap) (mm : MPMemory) (freeList p1 : Nat) (pieces : List Piece)
    (frees allocs : List Nat) : Prop where
  /-- The pieces cover the block. -/
  tiles : Tiles mm.stop mm.start pieces
  /-- Headers and footers. -/
  marks : Marks memory mm.stop p1 pieces
  /-- The lists. -/
  threads : Threads memory mm.start mm.stop frees allocs freeList mm.allocList
  /-- The free chunks. -/
  free : frees.Perm (marked true pieces)
  /-- The allocated chunks. -/
  alloc : allocs.Perm (marked false pieces)

/-- No two adjacent pieces are free, and a piece with another beside it has room for more than a
header and a footer. -/
structure Coalesced (pieces : List Piece) : Prop where
  /-- Of two adjacent pieces one is allocated. -/
  apart : pieces.IsChain fun first second => first.free = false ∨ second.free = false
  /-- A piece is the only one or larger than a header and a footer. -/
  large : pieces.length ≤ 1 ∨ ∀ piece ∈ pieces, 40 < piece.size

section

variable {memory : Heap} {mm : MPMemory} {left right rest pieces : List Piece}
  {frees allocs : List Nat} {start stop freeList limit p0 p1 size size' fuel : Nat} {free : Bool}

/-- There are no more pieces than bytes. -/
theorem Tiles.length_le (tiles : Tiles stop start pieces) :
    start + pieces.length ≤ stop := by
  induction pieces generalizing start with
  | nil =>
    have := tiles.le
    simpa using this
  | cons piece rest ih =>
    obtain ⟨first, room, tiles⟩ := tiles
    rw [chunkHeader, chunkEnd] at room
    have := ih tiles
    rw [List.length_cons]
    omega

/-- `is_free` of a piece is the flag it is marked with. -/
theorem Marks.isFree {except : Nat} (marks : Marks memory stop except pieces)
    (opened : Open memory start stop) (tiles : Tiles stop start pieces) (piece : Piece)
    (member : piece ∈ pieces) :
    isFree memory piece.address = some piece.flag := by
  obtain ⟨above, below, room⟩ := tiles.bounds member
  rw [isFree_eq opened above (by omega), marks.flags piece member]

/-- `alloc_mem` of a piece is the size it is marked with. -/
theorem Marks.allocMem {except : Nat} (marks : Marks memory stop except pieces)
    (opened : Open memory start stop) (tiles : Tiles stop start pieces) (piece : Piece)
    (member : piece ∈ pieces) :
    allocMem memory piece.address = some piece.size := by
  obtain ⟨above, below, room⟩ := tiles.bounds member
  rw [allocMem_eq opened above (by omega), marks.sizes piece member]

/-! ## Backward -/

/-- The first loop stops at an allocated chunk. -/
theorem mergeBackLoop_alloc (flag : isFree memory p0 = some 0) :
    mergeBackLoop memory start (fuel + 1) p0 p1 = some p1 := by
  rw [mergeBackLoop, flag, Option.bind_eq_bind, Option.bind_some, if_pos rfl, Option.pure_def]

/-- The first loop stops near the start of the block. -/
theorem mergeBackLoop_start (flag : isFree memory p0 = some 1) (near : p0 ≤ start + 40) :
    mergeBackLoop memory start (fuel + 1) p0 p1 = some p0 := by
  rw [mergeBackLoop, flag, Option.bind_eq_bind, Option.bind_some, if_neg (by decide),
    if_pos (by rw [chunkEnd, chunkHeader]; omega), Option.pure_def]

/-- The first loop goes back over a free chunk. -/
theorem mergeBackLoop_back {before : Nat} (flag : isFree memory p0 = some 1)
    (far : start + 40 < p0) (foot : footer memory p0 = some before) :
    mergeBackLoop memory start (fuel + 1) p0 p1 = mergeBackLoop memory start fuel before p0 := by
  rw [mergeBackLoop, flag, Option.bind_eq_bind, Option.bind_some, if_neg (by decide),
    if_neg (by rw [chunkEnd, chunkHeader]; omega), foot, Option.bind_some]

/-- The first loop ends at a free chunk from which all chunks up to the given one are free. -/
theorem mergeBackLoop_spec (opened : Open memory start stop) (positive : 0 < start)
    (tiles : Tiles stop start (left ++ ⟨p0, size, true⟩ :: right))
    (marks : Marks memory stop 0 (left ++ ⟨p0, size, true⟩ :: right))
    (enough : left.length + 1 < fuel) :
    ∃ outer first run, left ++ [⟨p0, size, true⟩] = outer ++ first :: run ∧
      (∀ piece ∈ first :: run, piece.free = true) ∧
      mergeBackLoop memory start fuel p0 p1 = some first.address ∧
      ((∀ piece ∈ left, 40 < piece.size) → ∀ piece ∈ outer.getLast?, piece.free = false) := by
  -- the loop walks the pieces in front from the last to the first
  induction left using List.reverseRecOn generalizing p0 p1 size right fuel with
  | nil =>
    obtain ⟨fuel, rfl⟩ : ∃ fewer, fuel = fewer + 1 := ⟨fuel - 1, by omega⟩
    have flag : isFree memory p0 = some 1 :=
      marks.isFree opened tiles ⟨p0, size, true⟩ List.mem_cons_self
    have first : p0 = start := tiles.1
    exact ⟨[], ⟨p0, size, true⟩, [], rfl, by simp, mergeBackLoop_start flag (by omega), by simp⟩
  | append_singleton front piece ih =>
    rw [List.length_append, List.length_singleton] at enough
    obtain ⟨fuel, rfl⟩ : ∃ fewer, fuel = fewer + 2 := ⟨fuel - 2, by omega⟩
    have flag : isFree memory p0 = some 1 :=
      marks.isFree opened tiles ⟨p0, size, true⟩ (by simp)
    have own : ∀ piece ∈ ([⟨p0, size, true⟩] : List Piece), piece.free = true := by simp
    have member : piece ∈ front ++ [piece] ++ ⟨p0, size, true⟩ :: right := by simp
    obtain ⟨above', -, room'⟩ := tiles.bounds member
    have touch : piece.address + piece.size = p0 := by
      have before := tiles.around.1
      obtain ⟨middle, -, rfl, -, touch⟩ := tiles_append.mp before
      exact touch
    by_cases near : p0 ≤ start + 40
    · refine ⟨front ++ [piece], ⟨p0, size, true⟩, [], rfl, own, mergeBackLoop_start flag near,
        fun large => ?_⟩
      have := large piece (by simp)
      omega
    · obtain ⟨above, below, room⟩ := tiles.middle
      have foot : footer memory p0 = some piece.address := by
        rw [footer_eq opened (by omega) (by omega), ← touch,
          marks.feet piece member (by omega) (by omega)]
      have tiles' : Tiles stop start (front ++ piece :: (⟨p0, size, true⟩ :: right)) := by
        simpa using tiles
      have marks' : Marks memory stop 0 (front ++ piece :: (⟨p0, size, true⟩ :: right)) := by
        simpa using marks
      obtain ⟨address, size', free⟩ := piece
      cases free with
      | false =>
        have flag' : isFree memory address = some 0 :=
          marks.isFree opened tiles ⟨address, size', false⟩ member
        refine ⟨front ++ [⟨address, size', false⟩], ⟨p0, size, true⟩, [], rfl, own, ?_, by simp⟩
        rw [mergeBackLoop_back flag (by omega) foot, mergeBackLoop_alloc flag']
      | true =>
        obtain ⟨outer, first, run, parts, all, done, last⟩ :=
          ih tiles' marks' (show front.length + 1 < fuel + 1 by omega)
        refine ⟨outer, first, run ++ [⟨p0, size, true⟩], ?_, ?_, ?_, fun large =>
          last fun piece among => large piece (List.mem_append_left _ among)⟩
        · rw [parts]
          simp
        · intro piece among
          rw [← List.cons_append] at among
          rcases List.mem_append.mp among with among | among
          · exact all piece among
          · exact own piece among
        · rw [mergeBackLoop_back flag (by omega) foot, done]

/-! ## Forward -/

/-- Pieces when one takes in the next. -/
theorem Tiles.join {free' : Bool}
    (tiles : Tiles stop start (left ++ ⟨p1, size, free⟩ :: ⟨p0, size', free'⟩ :: right)) :
    p0 = p1 + size ∧ Tiles stop start (left ++ ⟨p1, size + size', free⟩ :: right) := by
  obtain ⟨middle, before, rfl, room, touch, room', after⟩ := tiles_append.mp tiles
  refine ⟨touch, tiles_append.mpr ⟨p1, before, rfl, ?_, ?_⟩⟩
  · dsimp only at room ⊢
    omega
  · dsimp only at after ⊢
    rwa [← Nat.add_assoc]

/-- A piece on the sides of two. -/
theorem mem_around {piece middle after : Piece} (member : piece ∈ left ++ right) :
    piece ∈ left ++ middle :: after :: right := by
  rcases List.mem_append.mp member with member | member
  · exact List.mem_append_left _ member
  · exact List.mem_append_right _ (List.mem_cons_of_mem _ (List.mem_cons_of_mem _ member))

/-- Headers and footers when the size of a chunk is written that takes in the next. -/
theorem Marks.join
    (marks : Marks memory stop p1 (left ++ ⟨p1, size, true⟩ :: ⟨p0, size', true⟩ :: right))
    (tiles : Tiles stop start (left ++ ⟨p1, size, true⟩ :: ⟨p0, size', true⟩ :: right))
    (fits : size + size' < 2 ^ 64) :
    Marks (memory.put p1 8 (size + size')) stop p1 (left ++ ⟨p1, size + size', true⟩ :: right) := by
  obtain ⟨-, -, room⟩ := tiles.middle
  -- the other pieces lie clear of the header that is written
  have clear {piece : Piece} (member : piece ∈ left ++ right) :
      piece.address + piece.size ≤ p1 ∨ p1 + 8 ≤ piece.address := by
    have sides := tiles.join.2.elsewhere member
    dsimp only at sides
    omega
  refine ⟨fun piece member => ?_, fun piece member => ?_, fun piece member other followed => ?_⟩
  · rcases mem_middle member with rfl | member
    · exact Heap.value_put_self (by omega)
    · have sides := clear member
      have bounds := (tiles.bounds (mem_around member)).2.2
      rw [← marks.sizes piece (mem_around member)]
      exact Heap.value_put_of_disjoint (by omega)
  · rcases mem_middle member with rfl | member
    · have old : freeAt memory p1 = 1 := marks.flags ⟨p1, size, true⟩ (by simp)
      refine Eq.trans ?_ old
      exact Heap.value_put_of_disjoint (by dsimp only; omega)
    · have sides := clear member
      have bounds := (tiles.bounds (mem_around member)).2.2
      rw [← marks.flags piece (mem_around member)]
      exact Heap.value_put_of_disjoint (by omega)
  · rcases mem_middle member with rfl | member
    · exact absurd rfl other
    · have sides := clear member
      have bounds := (tiles.bounds (mem_around member)).2.2
      refine Eq.trans ?_ (marks.feet piece (mem_around member) other followed)
      exact Heap.value_put_of_disjoint (by omega)

/-- The links of the chunks of a block lie off the size of any of them. -/
theorem agrees_size {piece : Piece} {number : Nat} (tiles : Tiles stop start pieces)
    (member : piece ∈ pieces) :
    Heap.Agrees (OnLinks (pieces.map Piece.address)) memory
      (memory.put piece.address 8 number) := by
  refine Heap.agrees_put fun place there => ?_
  obtain ⟨node, among, above, below⟩ := there
  obtain ⟨another, known, rfl⟩ := List.mem_map.mp among
  have room := (tiles.bounds member).2.2
  have room' := (tiles.bounds known).2.2
  rcases tiles.apart member known with rfl | sides
  · omega
  · omega

/-- One free chunk is taken in. -/
theorem mergeForwardLoop_step (reachable : Reachable memory mm)
    (merging : Merging memory mm freeList p1
      (left ++ ⟨p1, size, true⟩ :: ⟨p0, size', true⟩ :: right) frees allocs)
    (before : p0 < limit) :
    ∃ later freeList' frees',
      mergeForwardLoop limit p1 (fuel + 1) memory freeList p0 =
        mergeForwardLoop limit p1 fuel later freeList' (p0 + size') ∧
      Merging later mm freeList' p1 (left ++ ⟨p1, size + size', true⟩ :: right) frees' allocs ∧
      Heap.Agrees (Beyond mm) memory later := by
  obtain ⟨above, below, room⟩ := merging.tiles.middle
  obtain ⟨touch, joined⟩ := merging.tiles.join
  obtain ⟨-, below', -⟩ := joined.middle
  have bounded := reachable.bounded
  have positive := reachable.positive
  have second : (⟨p0, size', true⟩ : Piece) ∈
      left ++ ⟨p1, size, true⟩ :: ⟨p0, size', true⟩ :: right := by simp
  have first : (⟨p1, size, true⟩ : Piece) ∈
      left ++ ⟨p1, size, true⟩ :: ⟨p0, size', true⟩ :: right := by simp
  have room' : 40 ≤ size' := (merging.tiles.bounds second).2.2
  -- the chunk leaves the free list
  have listed : p0 ∈ frees := merging.free.mem_iff.mpr (mem_marked.mpr ⟨_, second, rfl, rfl⟩)
  obtain ⟨front, back, rfl⟩ := List.append_of_mem listed
  obtain ⟨unlinked, freeList', deleted, threads, agrees⟩ := merging.threads.del reachable.opened
  have fewer : ∀ node ∈ front ++ back ++ allocs,
      node ∈ (left ++ ⟨p1, size, true⟩ :: ⟨p0, size', true⟩ :: right).map Piece.address := by
    intro node member
    have all : ∀ node ∈ front ++ p0 :: back ++ allocs,
        node ∈ (left ++ ⟨p1, size, true⟩ :: ⟨p0, size', true⟩ :: right).map Piece.address := by
      intro node member
      rcases List.mem_append.mp member with member | member
      · exact marked_subset (merging.free.mem_iff.mp member)
      · exact marked_subset (merging.alloc.mem_iff.mp member)
    refine all node ?_
    simp only [List.mem_append, List.mem_cons] at member ⊢
    rcases member with (member | member) | member
    · exact .inl (.inl member)
    · exact .inl (.inr (.inr member))
    · exact .inr member
  have opened : Open unlinked mm.start mm.stop := reachable.opened.agrees agrees
  have marks := merging.marks.links merging.tiles (agrees.mono fun _ there =>
    offLinks_mono (fun node member => fewer node (List.mem_append_left _ member)) there)
  -- its size is added to that of the first
  have opened' : Open (unlinked.put p1 8 (size + size')) mm.start mm.stop := opened
  have sized : allocMem (unlinked.put p1 8 (size + size')) p0 = some size' := by
    rw [allocMem_eq opened' (by omega) (by omega)]
    have old : sizeAt unlinked p0 = size' := marks.sizes ⟨p0, size', true⟩ second
    refine congrArg some (Eq.trans ?_ old)
    exact Heap.value_put_of_disjoint (by omega)
  refine ⟨unlinked.put p1 8 (size + size'), freeList', front ++ back, ?_,
    ⟨joined, marks.join merging.tiles (by omega), ?_, ?_, ?_⟩, ?_⟩
  · have flag : isFree memory p0 = some 1 :=
      merging.marks.isFree reachable.opened merging.tiles ⟨p0, size', true⟩ second
    have own : allocMem unlinked p1 = some size :=
      marks.allocMem opened merging.tiles ⟨p1, size, true⟩ first
    have next : allocMem unlinked p0 = some size' :=
      marks.allocMem opened merging.tiles ⟨p0, size', true⟩ second
    have stored : setAllocMem unlinked p1 (size + size') =
        some (unlinked.put p1 8 (size + size')) := setAllocMem_eq opened above (by omega)
    rw [mergeForwardLoop, if_neg (by omega), flag]
    simp only [Option.bind_eq_bind, Option.bind_some, deleted, own, next,
      add64_of_lt (show size + size' < 2 ^ 64 by omega), stored, sized]
    rw [if_neg (by decide)]
  · exact threads.frame ((agrees_size merging.tiles first).mono fun _ there =>
      onLinks_mono fewer there)
  · have perm := merging.free
    rw [marked_append, marked_cons_self, marked_cons_self] at perm
    rw [marked_append, marked_cons_self]
    have moved : (marked true left ++ p1 :: p0 :: marked true right).Perm
        (p0 :: (marked true left ++ p1 :: marked true right)) :=
      ((List.Perm.swap p0 p1 _).append_left _).trans List.perm_middle
    exact (List.perm_cons p0).mp ((List.perm_middle.symm.trans perm).trans moved)
  · have perm := merging.alloc
    rw [marked_append, marked_cons_of_ne (by decide), marked_cons_of_ne (by decide)] at perm
    rw [marked_append, marked_cons_of_ne (by decide)]
    exact perm
  · refine (agrees.mono fun place there => ?_).trans (Heap.agrees_put fun place there => ?_)
    · exact offLinks_mono (fun node member => List.mem_append_left _ member)
        (threads.nodes.beyond there)
    · rw [Beyond] at there
      omega

/-- A free piece is not among those allocated. -/
theorem taken_free (left right : List Piece) (p1 size : Nat) :
    taken (left ++ ⟨p1, size, true⟩ :: right) = taken left ++ taken right := by
  simp [taken]

/-- The second loop takes in the free chunks behind, when it ends with the block or meets an
allocated chunk. -/
theorem mergeForwardLoop_spec (reachable : Reachable memory mm)
    (merging : Merging memory mm freeList p1 (left ++ ⟨p1, size, true⟩ :: rest) frees allocs)
    (upTo : mm.stop = limit ∨ mm.stop ≤ limit ∧ ∃ piece ∈ rest, piece.free = false)
    (enough : rest.length < fuel) :
    ∃ later freeList' size' rest' frees',
      mergeForwardLoop limit p1 fuel memory freeList (p1 + size) = some (later, freeList') ∧
      Merging later mm freeList' p1 (left ++ ⟨p1, size', true⟩ :: rest') frees' allocs ∧
      Heap.Agrees (Beyond mm) memory later ∧ taken rest' = taken rest ∧ size ≤ size' ∧
      rest' <:+ rest ∧ ∀ piece ∈ rest'.head?, piece.free = false := by
  induction rest generalizing memory freeList size frees fuel with
  | nil =>
    have last : p1 + size = mm.stop := merging.tiles.around.2.2
    have ends : mm.stop = limit := by simpa using upTo
    obtain ⟨fuel, rfl⟩ : ∃ fewer, fuel = fewer + 1 := ⟨fuel - 1, by omega⟩
    refine ⟨memory, freeList, size, [], frees, ?_, merging, .refl _ _, rfl, le_rfl,
      List.suffix_rfl, by simp⟩
    rw [mergeForwardLoop, if_pos (by omega)]
  | cons piece rest ih =>
    obtain ⟨p0, size', free⟩ := piece
    rw [List.length_cons] at enough
    obtain ⟨fuel, rfl⟩ : ∃ fewer, fuel = fewer + 1 := ⟨fuel - 1, by omega⟩
    have member : (⟨p0, size', free⟩ : Piece) ∈
        left ++ ⟨p1, size, true⟩ :: ⟨p0, size', free⟩ :: rest := by simp
    have bounds : mm.start ≤ p0 ∧ p0 + size' ≤ mm.stop ∧ 40 ≤ size' := merging.tiles.bounds member
    have reaches : mm.stop ≤ limit := by
      rcases upTo with same | ⟨reaches, -⟩
      · exact le_of_eq same
      · exact reaches
    obtain ⟨rfl, -⟩ := merging.tiles.join
    cases free with
    | false =>
      have flag : isFree memory (p1 + size) = some 0 :=
        merging.marks.isFree reachable.opened merging.tiles ⟨p1 + size, size', false⟩ member
      refine ⟨memory, freeList, size, _, frees, ?_, merging, .refl _ _, rfl, le_rfl,
        List.suffix_rfl, by simp⟩
      rw [mergeForwardLoop, if_neg (by omega), flag, Option.bind_eq_bind, Option.bind_some,
        if_pos rfl, Option.pure_def]
    | true =>
      obtain ⟨middle, freeList', frees', stepped, merging', agrees⟩ :=
        mergeForwardLoop_step reachable merging (show p1 + size < limit by omega)
      have upTo' : mm.stop = limit ∨ mm.stop ≤ limit ∧ ∃ piece ∈ rest, piece.free = false := by
        rcases upTo with same | ⟨-, piece, among, alloc⟩
        · exact .inl same
        · rcases List.mem_cons.mp among with rfl | among
          · contradiction
          · exact .inr ⟨reaches, piece, among, alloc⟩
      obtain ⟨later, freeList'', final, rest', frees'', done, merging'', agrees', same, larger,
          suffix, head⟩ :=
        ih (reachable.agrees agrees) merging' upTo' (show rest.length < fuel by omega)
      refine ⟨later, freeList'', final, rest', frees'', ?_, merging'', agrees.trans agrees', ?_,
        by omega, suffix.trans (List.suffix_cons _ _), head⟩
      · rw [stepped, Nat.add_assoc, done]
      · rw [same]
        exact (taken_free [] rest (p1 + size) size').symm

/-- When all chunks behind are free and the limit lies past the block, the second loop reads past
the block. -/
theorem mergeForwardLoop_none (reachable : Reachable memory mm)
    (merging : Merging memory mm freeList p1 (left ++ ⟨p1, size, true⟩ :: rest) frees allocs)
    (narrow : memory.high = mm.stop) (past : mm.stop < limit)
    (all : ∀ piece ∈ rest, piece.free = true) :
    mergeForwardLoop limit p1 fuel memory freeList (p1 + size) = none := by
  induction rest generalizing memory freeList size frees fuel with
  | nil =>
    have last : p1 + size = mm.stop := merging.tiles.around.2.2
    cases fuel with
    | zero => rfl
    | succ fuel =>
      have outside : isFree memory (p1 + size) = none := by
        refine Heap.load_of_not_admits fun inside => ?_
        have := inside.2
        omega
      rw [mergeForwardLoop, if_neg (by omega), outside, Option.bind_eq_bind, Option.bind_none]
  | cons piece rest ih =>
    obtain ⟨p0, size', free⟩ := piece
    obtain rfl : free = true := all _ List.mem_cons_self
    cases fuel with
    | zero => rfl
    | succ fuel =>
      have member : (⟨p0, size', true⟩ : Piece) ∈
          left ++ ⟨p1, size, true⟩ :: ⟨p0, size', true⟩ :: rest := by simp
      have bounds : mm.start ≤ p0 ∧ p0 + size' ≤ mm.stop ∧ 40 ≤ size' := merging.tiles.bounds member
      obtain ⟨rfl, -⟩ := merging.tiles.join
      obtain ⟨middle, freeList', frees', stepped, merging', agrees⟩ :=
        mergeForwardLoop_step reachable merging (show p1 + size < limit by omega)
      rw [stepped, Nat.add_assoc]
      exact ih (reachable.agrees agrees) merging' (agrees.high.trans narrow)
        fun piece among => all piece (List.mem_cons_of_mem _ among)

/-! ## The whole merge -/

/-- A block in order, with the footer of one chunk left open. -/
theorem Laid.merging (laid : Laid memory mm pieces frees allocs)
    (marks : Marks memory mm.stop 0 pieces) (positive : 0 < mm.start) (p1 : Nat) :
    Merging memory mm mm.freeList p1 pieces frees allocs := by
  refine ⟨laid.tiles, ⟨marks.sizes, marks.flags, fun piece member _ followed => ?_⟩, laid.threads,
    laid.free, laid.alloc⟩
  have bounds := laid.tiles.bounds member
  exact marks.feet piece member (by omega) followed

/-- The footer that was left open is written. -/
theorem Marks.foot (marks : Marks memory stop p1 (left ++ ⟨p1, size, true⟩ :: right))
    (tiles : Tiles stop start (left ++ ⟨p1, size, true⟩ :: right)) (small : p1 < 2 ^ 64) :
    Marks (memory.put (p1 + size - 8) 8 p1) stop 0 (left ++ ⟨p1, size, true⟩ :: right) := by
  obtain ⟨-, -, room⟩ := tiles.middle
  have own : (⟨p1, size, true⟩ : Piece) ∈ left ++ ⟨p1, size, true⟩ :: right := by simp
  refine ⟨fun piece member => ?_, fun piece member => ?_, fun piece member _ followed => ?_⟩
  · have room' := (tiles.bounds member).2.2
    refine Eq.trans ?_ (marks.sizes piece member)
    refine Heap.value_put_of_disjoint ?_
    rcases tiles.apart own member with rfl | sides
    · dsimp only at room' ⊢
      omega
    · dsimp only at sides
      omega
  · have room' := (tiles.bounds member).2.2
    refine Eq.trans ?_ (marks.flags piece member)
    refine Heap.value_put_of_disjoint ?_
    rcases tiles.apart own member with rfl | sides
    · dsimp only at room' ⊢
      omega
    · dsimp only at sides
      omega
  · have room' := (tiles.bounds member).2.2
    rcases tiles.apart own member with rfl | sides
    · exact Heap.value_put_self (by omega)
    · dsimp only at sides
      have other : piece.address ≠ p1 := by omega
      refine Eq.trans ?_ (marks.feet piece member other followed)
      exact Heap.value_put_of_disjoint (by omega)

/-- The links lie off the footer of a chunk. -/
theorem agrees_foot {number : Nat}
    (tiles : Tiles stop start (left ++ ⟨p1, size, free⟩ :: right)) :
    Heap.Agrees (OnLinks ((left ++ ⟨p1, size, free⟩ :: right).map Piece.address)) memory
      (memory.put (p1 + size - 8) 8 number) := by
  obtain ⟨-, -, room⟩ := tiles.middle
  refine Heap.agrees_put fun place there => ?_
  obtain ⟨node, among, above, below⟩ := there
  obtain ⟨another, known, rfl⟩ := List.mem_map.mp among
  have room' := (tiles.bounds known).2.2
  have own : (⟨p1, size, free⟩ : Piece) ∈ left ++ ⟨p1, size, free⟩ :: right := by simp
  rcases tiles.apart own known with rfl | sides
  · dsimp only at above below room'
    omega
  · dsimp only at sides
    omega

variable {mp : Pool} {chunk : Nat}

/-- The first loop of `merge_free_chunk` in a block in order: where it ends, the pieces up to the
released one are free. -/
theorem mergeBack_spec (reachable : Reachable memory mm)
    (laid : Laid memory mm (left ++ ⟨chunk, size, true⟩ :: right) frees allocs)
    (marks : Marks memory mm.stop 0 (left ++ ⟨chunk, size, true⟩ :: right)) :
    ∃ outer run p1 size',
      left ++ ⟨chunk, size, true⟩ :: right = outer ++ ⟨p1, size', true⟩ :: (run ++ right) ∧
      (∀ piece ∈ run, piece.free = true) ∧ (left ++ ⟨chunk, size, true⟩ :: right).length ≤
        mm.memPoolSize ∧
      mergeBackLoop memory mm.start (mm.memPoolSize + 1) chunk chunk = some p1 ∧
      allocMem memory p1 = some size' ∧ outer <+: left ∧
      ((∀ piece ∈ left, 40 < piece.size) → ∀ piece ∈ outer.getLast?, piece.free = false) := by
  have length := laid.tiles.length_le
  rw [MPMemory.stop] at length
  have enough : left.length + 1 < mm.memPoolSize + 1 := by
    rw [List.length_append, List.length_cons] at length
    omega
  obtain ⟨outer, ⟨p1, size', free⟩, run, parts, all, done, last⟩ :=
    mergeBackLoop_spec reachable.opened reachable.positive laid.tiles marks enough
  obtain rfl : free = true := all _ List.mem_cons_self
  have whole : left ++ ⟨chunk, size, true⟩ :: right = outer ++ ⟨p1, size', true⟩ :: (run ++ right) := by
    rw [List.append_cons, parts, List.append_assoc, List.cons_append]
  have shorter : outer.length ≤ left.length := by
    have sizes := congrArg List.length parts
    simp only [List.length_append, List.length_cons, List.length_nil] at sizes
    omega
  refine ⟨outer, run, p1, size', whole, fun piece member => all piece (.tail _ member), by omega,
    done, ?_, ?_, last⟩
  · exact marks.allocMem reachable.opened laid.tiles ⟨p1, size', true⟩ (by simp [whole])
  · exact List.prefix_of_prefix_length_le ⟨_, parts.symm⟩ (List.prefix_append left _) shorter

/-- What follows a run of free pieces and does not begin with a free one lies behind the run. -/
theorem suffix_behind {run : List Piece} (suffix : rest <:+ run ++ right)
    (all : ∀ piece ∈ run, piece.free = true) (head : ∀ piece ∈ rest.head?, piece.free = false) :
    rest <:+ right := by
  induction run with
  | nil => exact suffix
  | cons piece run ih =>
    rcases List.suffix_cons_iff.mp suffix with rfl | shorter
    · have free := all piece List.mem_cons_self
      have alloc := head piece rfl
      rw [free] at alloc
      contradiction
    · exact ih shorter fun other member => all other (List.mem_cons_of_mem _ member)

/-- Pieces around one into which its free neighbours have gone. -/
theorem Coalesced.merge {chunk : Nat} {outer : List Piece} {last : Nat} {flag : Bool}
    (coalesced : Coalesced (left ++ ⟨chunk, size, flag⟩ :: right)) (fore : outer <+: left)
    (behind : rest <:+ right) (before : ∀ piece ∈ outer.getLast?, piece.free = false)
    (after : ∀ piece ∈ rest.head?, piece.free = false)
    (large : left.length + right.length = 0 ∨ 40 < last) :
    Coalesced (outer ++ ⟨p1, last, true⟩ :: rest) := by
  obtain ⟨chainLeft, chainRight, -⟩ := List.isChain_append.mp coalesced.apart
  constructor
  · have apart : List.IsChain (fun first second => first.free = false ∨ second.free = false) outer := by
      obtain ⟨more, rfl⟩ := fore
      exact (List.isChain_append.mp chainLeft).1
    refine List.isChain_append.mpr ⟨apart, ?_, fun piece member _ _ => .inl (before piece member)⟩
    exact List.isChain_cons.mpr ⟨fun piece member => .inr (after piece member),
      (List.isChain_cons.mp chainRight).2.suffix behind⟩
  · have shorter := fore.length_le
    have shorter' := behind.length_le
    by_cases alone : left.length + right.length = 0
    · left
      rw [List.length_append, List.length_cons]
      omega
    · right
      have sizes := coalesced.large.resolve_left (by
        rw [List.length_append, List.length_cons]
        omega)
      intro piece member
      rcases mem_middle member with rfl | member
      · exact large.resolve_left alone
      · apply sizes
        apply mem_sides
        rcases List.mem_append.mp member with member | member
        · exact List.mem_append_left _ (fore.subset member)
        · exact List.mem_append_right _ (behind.subset member)

/-- `merge_free_chunk` when its limit is the end of the block, or an allocated chunk lies behind. -/
theorem mergeFreeChunk_spec (reachable : Reachable memory mm)
    (laid : Laid memory mm (left ++ ⟨chunk, size, true⟩ :: right) frees allocs)
    (marks : Marks memory mm.stop 0 (left ++ ⟨chunk, size, true⟩ :: right))
    (upTo : mm.stop = mm.start + mp.memPoolSize ∨
      mm.stop ≤ mm.start + mp.memPoolSize ∧ ∃ piece ∈ right, piece.free = false) :
    ∃ later mm' pieces frees', mergeFreeChunk mp memory mm chunk = some (later, mm') ∧
      Laid later mm' pieces frees' allocs ∧ Marks later mm'.stop 0 pieces ∧ SameBlock mm mm' ∧
      Heap.Agrees (Beyond mm) memory later ∧ taken pieces = taken left ++ taken right ∧
      (Coalesced (left ++ ⟨chunk, size, false⟩ :: right) → Coalesced pieces) := by
  have bounded := reachable.bounded
  obtain ⟨outer, run, p1, first, whole, all, length, back, sized, fore, before⟩ :=
    mergeBack_spec reachable laid marks
  have sum : allocated Piece.size (left ++ ⟨chunk, size, true⟩ :: right) =
      ((taken (left ++ ⟨chunk, size, true⟩ :: right)).map Piece.size).sum := rfl
  have sum' : allocated Piece.prog (left ++ ⟨chunk, size, true⟩ :: right) =
      ((taken (left ++ ⟨chunk, size, true⟩ :: right)).map Piece.prog).sum := rfl
  have used := laid.allocMem
  have used' := laid.allocProgMem
  rw [sum, taken_free] at used
  rw [sum', taken_free] at used'
  have kept : taken outer ++ taken (run ++ right) = taken left ++ taken right := by
    rw [← taken_free outer (run ++ right) p1 first, ← whole, taken_free]
  have merging := laid.merging marks reachable.positive p1
  rw [whole] at merging length
  have upTo' : mm.stop = mm.start + mp.memPoolSize ∨ mm.stop ≤ mm.start + mp.memPoolSize ∧
      ∃ piece ∈ run ++ right, piece.free = false := by
    rcases upTo with same | ⟨reaches, piece, member, alloc⟩
    · exact .inl same
    · exact .inr ⟨reaches, piece, List.mem_append_right _ member, alloc⟩
  rw [List.length_append, List.length_cons] at length
  obtain ⟨merged, freeList, last, rest, frees', forward, merging', agrees, same, larger, suffix,
      after⟩ :=
    mergeForwardLoop_spec reachable merging upTo'
      (show (run ++ right).length < mm.memPoolSize + 1 by omega)
  obtain ⟨above, below, room⟩ := merging'.tiles.middle
  have opened : Open merged mm.start mm.stop := reachable.opened.agrees agrees
  have resized : allocMem merged p1 = some last :=
    merging'.marks.allocMem opened merging'.tiles ⟨p1, last, true⟩ (by simp)
  have footed : setFooter merged (p1 + last) p1 = some (merged.put (p1 + last - 8) 8 p1) :=
    setFooter_eq opened (by omega) (by omega)
  have block : SameBlock mm { mm with freeList } := ⟨rfl, rfl⟩
  have kept' : taken (outer ++ ⟨p1, last, true⟩ :: rest) = taken left ++ taken right := by
    rw [taken_free, same, kept]
  refine ⟨merged.put (p1 + last - 8) 8 p1, { mm with freeList }, outer ++ ⟨p1, last, true⟩ :: rest,
    frees', ?_, block.laid merging'.tiles ?_ merging'.free merging'.alloc ?_ ?_, ?_, block, ?_, kept',
    fun coalesced => ?_⟩
  · refine Option.bind_eq_some_iff.mpr ⟨p1, back, ?_⟩
    refine Option.bind_eq_some_iff.mpr ⟨first, sized, ?_⟩
    refine Option.bind_eq_some_iff.mpr ⟨(merged, freeList), forward, ?_⟩
    refine Option.bind_eq_some_iff.mpr ⟨last, resized, ?_⟩
    exact Option.bind_eq_some_iff.mpr ⟨_, footed, rfl⟩
  · refine merging'.threads.frame ((agrees_foot merging'.tiles).mono fun _ there =>
      onLinks_mono (fun node member => ?_) there)
    rcases List.mem_append.mp member with member | member
    · exact marked_subset (merging'.free.mem_iff.mp member)
    · exact marked_subset (merging'.alloc.mem_iff.mp member)
  · exact used.trans (congrArg (fun kept => (kept.map Piece.size).sum) kept'.symm)
  · exact used'.trans (congrArg (fun kept => (kept.map Piece.prog).sum) kept'.symm)
  · rw [block.stop]
    exact merging'.marks.foot merging'.tiles (by omega)
  · refine agrees.trans (Heap.agrees_put fun place there => ?_)
    rw [Beyond] at there
    omega
  · have sizes : left.length + right.length = 0 ∨
        ∀ piece ∈ left ++ ⟨chunk, size, true⟩ :: right, 40 < piece.size := by
      rcases coalesced.large with few | large
      · left
        rw [List.length_append, List.length_cons] at few
        omega
      · right
        intro piece member
        rcases mem_middle member with rfl | member
        · exact large ⟨chunk, size, false⟩ (by simp)
        · exact large piece (mem_sides member)
    refine coalesced.merge fore (suffix_behind suffix all after) (before ?_) after ?_
    · rcases sizes with few | large
      · obtain rfl : left = [] := List.eq_nil_of_length_eq_zero (by omega)
        simp
      · exact fun piece member => large piece (List.mem_append_left _ member)
    · refine sizes.imp id fun large => ?_
      have own : (⟨p1, first, true⟩ : Piece) ∈ left ++ ⟨chunk, size, true⟩ :: right := by simp [whole]
      have := large _ own
      dsimp only at this
      omega

/-- `merge_free_chunk` leaves the block when its limit lies past the block and no allocated chunk
lies behind. -/
theorem mergeFreeChunk_none (reachable : Reachable memory mm)
    (laid : Laid memory mm (left ++ ⟨chunk, size, true⟩ :: right) frees allocs)
    (marks : Marks memory mm.stop 0 (left ++ ⟨chunk, size, true⟩ :: right))
    (narrow : memory.high = mm.stop) (past : mm.stop < mm.start + mp.memPoolSize)
    (all : ∀ piece ∈ right, piece.free = true) : mergeFreeChunk mp memory mm chunk = none := by
  obtain ⟨outer, run, p1, first, whole, allRun, -, back, sized, -⟩ :=
    mergeBack_spec reachable laid marks
  have merging := laid.merging marks reachable.positive p1
  rw [whole] at merging
  have free : ∀ piece ∈ run ++ right, piece.free = true := by
    intro piece member
    rcases List.mem_append.mp member with member | member
    · exact allRun piece member
    · exact all piece member
  rw [mergeFreeChunk, back, Option.bind_eq_bind, Option.bind_some, sized, Option.bind_eq_bind,
    Option.bind_some, mergeForwardLoop_none reachable merging narrow past free,
    Option.bind_eq_bind, Option.bind_none]

end

end UubangIot.MemoryPool
