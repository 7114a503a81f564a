import UubangIot.Verif.PoolRuns

/-!
# Chunks tile their blocks

The pool under the calls of its interface. The live allocations are the allocated pieces of the
blocks (`Booked`), so their user areas lie in their blocks, apart from each other and from all
headers and footers. When all blocks are of one size this holds in every run, and every call
returns.
-/

namespace UubangIot.MemoryPool

open ByteMemory DoublyLinked Transition

/-! ## Live allocations -/

/-- The live allocations and the allocated pieces. -/
structure Booked (live : List (Nat × Nat)) (pieces : List Piece) : Prop where
  /-- An allocation is the user area of a piece that is large enough. -/
  homes : ∀ allocation ∈ live, ∃ piece ∈ pieces,
    allocation.1 = piece.address + 32 ∧ allocation.2 + 40 ≤ piece.size
  /-- A piece is that of an allocation. -/
  known : ∀ piece ∈ pieces, piece.address + 32 ∈ live.map Prod.fst
  /-- No pointer is live twice. -/
  distinct : (live.map Prod.fst).Nodup

section

variable {live : List (Nat × Nat)} {pieces pieces' : List Piece} {piece : Piece} {wantsize : Nat}

/-- An allocation is booked. -/
theorem Booked.alloc (booked : Booked live pieces) (perm : pieces'.Perm (piece :: pieces))
    (distinct : (pieces'.map Piece.address).Nodup) (enough : wantsize + 40 ≤ piece.size) :
    Booked ((piece.address + 32, wantsize) :: live) pieces' := by
  have fresh : piece.address + 32 ∉ live.map Prod.fst := by
    intro member
    obtain ⟨allocation, known, same⟩ := List.mem_map.mp member
    obtain ⟨another, among, pointer, -⟩ := booked.homes allocation known
    have apart : (piece.address :: pieces.map Piece.address).Nodup :=
      (perm.map Piece.address).nodup_iff.mp distinct
    refine (List.nodup_cons.mp apart).1 (List.mem_map.mpr ⟨another, among, ?_⟩)
    omega
  refine ⟨fun allocation member => ?_, fun another member => ?_, ?_⟩
  · rcases List.mem_cons.mp member with rfl | member
    · exact ⟨piece, perm.mem_iff.mpr List.mem_cons_self, rfl, enough⟩
    · obtain ⟨another, among, home⟩ := booked.homes allocation member
      exact ⟨another, perm.mem_iff.mpr (List.mem_cons_of_mem _ among), home⟩
  · rcases List.mem_cons.mp (perm.mem_iff.mp member) with rfl | member
    · exact List.mem_cons_self
    · exact List.mem_cons_of_mem _ (booked.known another member)
  · exact List.nodup_cons.mpr ⟨fresh, booked.distinct⟩

/-- A piece that is released leaves the books. -/
theorem Booked.free (booked : Booked live pieces) (perm : pieces.Perm (piece :: pieces'))
    (distinct : (pieces.map Piece.address).Nodup) :
    Booked (live.filter fun allocation => allocation.1 ≠ piece.address + 32) pieces' := by
  have apart : (piece.address :: pieces'.map Piece.address).Nodup :=
    (perm.map Piece.address).nodup_iff.mp distinct
  refine ⟨fun allocation member => ?_, fun another member => ?_, ?_⟩
  · obtain ⟨member, other⟩ := List.mem_filter.mp member
    obtain ⟨another, among, pointer, enough⟩ := booked.homes allocation member
    rcases List.mem_cons.mp (perm.mem_iff.mp among) with rfl | among
    · simp [pointer] at other
    · exact ⟨another, among, pointer, enough⟩
  · have known := booked.known another (perm.mem_iff.mpr (List.mem_cons_of_mem _ member))
    obtain ⟨allocation, among, pointer⟩ := List.mem_map.mp known
    refine List.mem_map.mpr ⟨allocation, List.mem_filter.mpr ⟨among, ?_⟩, pointer⟩
    have other : another.address ≠ piece.address := by
      intro same
      exact (List.nodup_cons.mp apart).1 (same ▸ List.mem_map_of_mem member)
    simp only [ne_eq, decide_not, Bool.not_eq_eq_eq_not, Bool.not_true, decide_eq_false_iff_not]
    omega
  · exact booked.distinct.sublist (List.filter_sublist.map _)

end

/-! ## Calls -/

/-- A pool in order with its live allocations. -/
structure Kept (state : PoolState) (blocks : List (MPMemory × List Piece)) : Prop where
  /-- The pool is in order. -/
  sound : Sound state.mp blocks
  /-- Its live allocations are the allocated pieces. -/
  booked : Booked state.live (allTaken blocks)

section

variable {state next : PoolState} {blocks : List (MPMemory × List Piece)} {wantsize p : Nat}
  {mallocs : List (Option Nat)}

/-- A new pool has no live allocations. -/
theorem Sound.kept {mp : Pool} (sound : Sound mp blocks) (untaken : allTaken blocks = []) :
    Kept ⟨mp, []⟩ blocks := by
  refine ⟨sound, ?_⟩
  rw [untaken]
  exact ⟨by simp, by simp, List.nodup_nil⟩

/-- `MemoryPoolAlloc` in a run keeps the blocks tiled and returns a piece that serves. -/
theorem Kept.alloc (kept : Kept state blocks) (unwrapped : wantsize + 44 < 2 ^ 64)
    (stepped : state.call (.alloc wantsize mallocs) = some next) :
    ∃ blocks', Kept next blocks' ∧ (Settled blocks → Settled blocks') ∧
      ∃ result, Served state.mp blocks (totalNeededSize wantsize) next.mp result blocks' := by
  rw [PoolState.call] at stepped
  by_cases placed : Placed (answered state.mp mallocs ++ state.mp.mlist)
  · rw [if_pos placed] at stepped
    obtain ⟨⟨mp', result⟩, done, stepped⟩ := Option.bind_eq_some_iff.mp stepped
    obtain rfl := Option.some.inj stepped
    obtain ⟨blocks', served, allotted⟩ := memoryPoolAlloc_spec kept.sound unwrapped placed done
    have needed := totalNeededSize_eq unwrapped
    refine ⟨blocks', ⟨served.sound, ?_⟩, allotted.settled (by omega), result, served⟩
    cases result with
    | none =>
      rw [served.null rfl]
      exact kept.booked
    | some p =>
      obtain ⟨piece, rfl, enough, perm⟩ := served.pointer p rfl
      exact kept.booked.alloc perm served.sound.order.distinct (by omega)
  · rw [if_neg placed] at stepped
    contradiction

/-- Two blocks that share a place are one. -/
theorem Blocks.unique {memory : Heap} (all : Blocks memory blocks)
    {first second : MPMemory × List Piece} {place : Nat} (member : first ∈ blocks)
    (member' : second ∈ blocks) (within : Within first.1 place) (within' : Within second.1 place) :
    first = second := by
  obtain ⟨front, back, rfl⟩ := List.append_of_mem member
  obtain ⟨-, apartBack, across⟩ := List.pairwise_append.mp all.apart
  obtain ⟨behind, -⟩ := List.pairwise_cons.mp apartBack
  have sides (apart : first.1.Apart second.1) : False := by
    have beyond := apart.beyond within
    rw [Beyond] at beyond
    rw [Within] at within'
    omega
  rcases List.mem_append.mp member' with member' | member'
  · exact (sides (across second member' first List.mem_cons_self).symm).elim
  · rcases List.mem_cons.mp member' with same | member'
    · exact same.symm
    · exact (sides (behind second member')).elim

/-- The block and the piece of a live pointer. -/
theorem Kept.home (kept : Kept state blocks) (live : p ∈ state.live.map Prod.fst) :
    ∃ front mm left chunk size right back,
      blocks = front ++ (mm, left ++ ⟨chunk, size, false⟩ :: right) :: back ∧
      p = chunk + 32 ∧ Within mm p := by
  obtain ⟨allocation, member, rfl⟩ := List.mem_map.mp live
  obtain ⟨⟨chunk, size, free⟩, among, pointer, enough⟩ := kept.booked.homes allocation member
  obtain ⟨⟨mm, pieces⟩, known, taken'⟩ := mem_allTaken.mp among
  have bounds := (kept.sound.order.order _ known).within taken'
  obtain ⟨inside, alloc⟩ := List.mem_filter.mp taken'
  obtain rfl : free = false := by simpa using alloc
  obtain ⟨left, right, whole⟩ := List.append_of_mem inside
  obtain ⟨front, back, rfl⟩ := List.append_of_mem known
  dsimp only at whole bounds pointer enough
  subst whole
  refine ⟨front, mm, left, chunk, size, right, back, rfl, pointer, ?_⟩
  rw [Within]
  omega

/-- The block `MemoryPoolFree` takes a pointer to belong to is a block of the pool. -/
theorem blockOf_mem {mp : Pool} {mm : MPMemory} (found : blockOf mp p = some mm) :
    mm ∈ mp.mlist := by
  rw [blockOf] at found
  split at found
  · exact List.mem_of_find?_eq_some found
  · exact List.mem_of_mem_head? found

/-- An allocated piece lies behind another one exactly when a live pointer of the block does. -/
theorem Kept.behind {mm : MPMemory} {left right : List Piece} {chunk size : Nat}
    (kept : Kept state blocks) (member : (mm, left ++ ⟨chunk, size, false⟩ :: right) ∈ blocks) :
    (∃ piece ∈ right, piece.free = false) ↔
      ∃ q ∈ state.live.map Prod.fst, chunk + 32 < q ∧ Within mm q := by
  obtain ⟨_, _, laid, -⟩ :=
    (kept.sound.order.order _ member).laid_of_mem List.mem_append_cons_self
  have tiles : Tiles mm.stop mm.start (left ++ ⟨chunk, size, false⟩ :: right) := laid.tiles
  obtain ⟨-, room, after⟩ := tiles.around
  constructor
  · rintro ⟨piece, behind, alloc⟩
    have inside : piece ∈ left ++ ⟨chunk, size, false⟩ :: right :=
      List.mem_append_right _ (List.mem_cons_of_mem _ behind)
    have bounds := after.bounds behind
    have bounds' := tiles.bounds inside
    have among : piece ∈ allTaken blocks :=
      mem_allTaken.mpr ⟨_, member, List.mem_filter.mpr ⟨inside, by simp [alloc]⟩⟩
    refine ⟨piece.address + 32, kept.booked.known piece among, ?_, ?_⟩
    · dsimp only at bounds room
      omega
    · rw [Within]
      omega
  · rintro ⟨q, live, later, within⟩
    obtain ⟨front, mm', left', chunk', size', right', back, parts, rfl, within'⟩ := kept.home live
    have member' : (mm', left' ++ ⟨chunk', size', false⟩ :: right') ∈ blocks := by simp [parts]
    have same := kept.sound.order.unique member member' within within'
    obtain ⟨rfl, pieces⟩ := Prod.mk.inj same
    have inside : (⟨chunk', size', false⟩ : Piece) ∈ left ++ ⟨chunk, size, false⟩ :: right := by
      simp [pieces]
    rcases List.mem_append.mp inside with before | inside
    · have bounds := tiles.around.1.bounds before
      dsimp only at bounds
      omega
    · rcases List.mem_cons.mp inside with equal | inside
      · simp only [Piece.mk.injEq] at equal
        omega
      · exact ⟨_, inside, rfl⟩

/-- `MemoryPoolFree` in a run, when the block of the pointer is found and the merge stays in it. -/
theorem Kept.free {mm : MPMemory} (kept : Kept state blocks)
    (live : p ∈ state.live.map Prod.fst) (found : blockOf state.mp p = some mm)
    (within : Within mm p) (upTo : mm.memPoolSize = state.mp.memPoolSize ∨
      ∃ q ∈ state.live.map Prod.fst, p < q ∧ Within mm q) :
    ∃ next blocks', state.call (.free p) = some next ∧ Kept next blocks' ∧
      SameConfig state.mp next.mp ∧ SamePlaces blocks blocks' ∧ (Settled blocks → Settled blocks') := by
  obtain ⟨front, mm', left, chunk, size, right, back, rfl, rfl, within'⟩ := kept.home live
  have own : (mm', left ++ ⟨chunk, size, false⟩ :: right) ∈
      front ++ (mm', left ++ ⟨chunk, size, false⟩ :: right) :: back := by simp
  -- the block that is found is the one the pointer lies in
  have known := blockOf_mem found
  rw [kept.sound.mlist] at known
  obtain ⟨⟨mm'', pieces⟩, member, rfl⟩ := List.mem_map.mp known
  obtain ⟨rfl, -⟩ := Prod.mk.inj (kept.sound.order.unique member own within within')
  have upTo' : mm''.memPoolSize = state.mp.memPoolSize ∨ ∃ piece ∈ right, piece.free = false := by
    rcases upTo with whole | behind
    · exact .inl whole
    · exact .inr ((kept.behind own).mpr behind)
  obtain ⟨mp', blocks', done, sound, config, places, perm, settled⟩ :=
    memoryPoolFree_spec kept.sound found upTo'
  refine ⟨⟨mp', state.live.filter fun allocation => allocation.1 ≠ chunk + 32⟩, blocks', ?_,
    ⟨sound, kept.booked.free perm kept.sound.order.distinct⟩, config, places, settled⟩
  rw [PoolState.call, if_pos live]
  exact Option.bind_eq_some_iff.mpr ⟨mp', done, rfl⟩

/-- `MemoryPoolClear` in a run keeps the blocks in their places, and settled. -/
theorem Kept.clear (kept : Kept state blocks) :
    ∃ next blocks', state.call .clear = some next ∧ Kept next blocks' ∧
      SameConfig state.mp next.mp ∧ SamePlaces blocks blocks' ∧ Settled blocks' := by
  obtain ⟨mp', blocks', done, sound, config, places, untaken, settled⟩ :=
    memoryPoolClear_spec kept.sound
  refine ⟨⟨mp', []⟩, blocks', ?_, ⟨sound, ?_⟩, config, places, settled⟩
  · exact Option.bind_eq_some_iff.mpr ⟨mp', done, rfl⟩
  · rw [untaken]
    exact ⟨by simp, by simp, List.nodup_nil⟩

/-- Pieces of blocks are one piece or lie apart. -/
theorem Blocks.separate {memory : Heap} (all : Blocks memory blocks)
    {block block' : MPMemory × List Piece} {piece another : Piece} (member : block ∈ blocks)
    (member' : block' ∈ blocks) (inside : piece ∈ block.2) (inside' : another ∈ block'.2) :
    piece = another ∨ piece.address + piece.size ≤ another.address ∨
      another.address + another.size ≤ piece.address := by
  obtain ⟨_, _, laid, -⟩ := (all.order block member).laid_of_mem inside
  obtain ⟨_, _, laid', -⟩ := (all.order block' member').laid_of_mem inside'
  have bounds := laid.tiles.bounds inside
  have bounds' := laid'.tiles.bounds inside'
  by_cases same : block = block'
  · subst same
    exact laid.tiles.apart inside inside'
  · obtain ⟨front, back, rfl⟩ := List.append_of_mem member
    obtain ⟨-, apartBack, across⟩ := List.pairwise_append.mp all.apart
    obtain ⟨behind, -⟩ := List.pairwise_cons.mp apartBack
    have apart : block.1.Apart block'.1 := by
      rcases List.mem_append.mp member' with member' | member'
      · exact (across block' member' block List.mem_cons_self).symm
      · rcases List.mem_cons.mp member' with equal | member'
        · exact absurd equal.symm same
        · exact behind block' member'
    rw [MPMemory.Apart] at apart
    right
    omega

/-! ## Tiling -/

/-- Two stretches of memory do not overlap. -/
def Separate (first length second length' : Nat) : Prop :=
  first + length ≤ second ∨ second + length' ≤ first

/-- Every block is tiled by its chunks, which the lists, the footers and the counters agree with,
and the user areas of the live allocations lie in their chunks. -/
structure Tiled (state : PoolState) : Prop where
  /-- The chunks of a block tile it; no user area overlaps a header or a footer. -/
  blocks : ∀ mm ∈ state.mp.mlist, ∃ pieces frees allocs,
    Laid state.mp.memory mm pieces frees allocs ∧ Marks state.mp.memory mm.stop 0 pieces ∧
    ∀ allocation ∈ state.live, ∀ piece ∈ pieces,
      Separate allocation.1 allocation.2 piece.address chunkHeader ∧
      Separate allocation.1 allocation.2 (piece.address + piece.size - chunkEnd) chunkEnd
  /-- The chunk of an allocation is marked allocated and large enough, and the user area lies in a
  block. -/
  homes : ∀ allocation ∈ state.live, ∃ mm ∈ state.mp.mlist, ∃ chunk,
    allocation.1 = chunk + chunkHeader ∧ freeAt state.mp.memory chunk = 0 ∧
    allocation.2 + chunkHeader + chunkEnd ≤ sizeAt state.mp.memory chunk ∧
    mm.start ≤ allocation.1 ∧ allocation.1 + allocation.2 ≤ mm.stop
  /-- No two user areas overlap. -/
  apart : state.live.Pairwise fun first second => Separate first.1 first.2 second.1 second.2

/-- A pool in order whose blocks have room for a chunk is tiled. -/
theorem Kept.tiled (kept : Kept state blocks)
    (room : ∀ block ∈ blocks, 40 ≤ block.1.memPoolSize) : Tiled state := by
  have all := kept.sound.order
  -- the piece of an allocation, and the block of the piece
  have homes (allocation : Nat × Nat) (member : allocation ∈ state.live) :
      ∃ block ∈ blocks, ∃ piece ∈ block.2, piece.free = false ∧
        allocation.1 = piece.address + 32 ∧ allocation.2 + 40 ≤ piece.size := by
    obtain ⟨piece, among, home⟩ := kept.booked.homes allocation member
    obtain ⟨block, known, taken'⟩ := mem_allTaken.mp among
    obtain ⟨inside, alloc⟩ := List.mem_filter.mp taken'
    exact ⟨block, known, piece, inside, by simpa using alloc, home⟩
  refine ⟨fun mm member => ?_, fun allocation member => ?_, ?_⟩
  · rw [kept.sound.mlist] at member
    obtain ⟨⟨mm, pieces⟩, known, rfl⟩ := List.mem_map.mp member
    have order := all.order _ known
    cases order with
    | idle _ small =>
      have := room _ known
      dsimp only at this small
      omega
    | laid laid marks =>
      refine ⟨_, _, _, laid, marks, fun allocation live piece inside => ?_⟩
      obtain ⟨block, known', another, inside', -, pointer, enough⟩ := homes allocation live
      have bounds := (laid.tiles.bounds inside).2.2
      rw [Separate, Separate, chunkHeader, chunkEnd]
      rcases all.separate known known' inside inside' with rfl | sides
      · omega
      · omega
  · obtain ⟨block, known, piece, inside, alloc, pointer, enough⟩ := homes allocation member
    obtain ⟨_, _, laid, marks⟩ := (all.order block known).laid_of_mem inside
    have bounds := laid.tiles.bounds inside
    refine ⟨block.1, ?_, piece.address, pointer, ?_, ?_, ?_, ?_⟩
    · rw [kept.sound.mlist]
      exact List.mem_map_of_mem known
    · rw [marks.flags piece inside, Piece.flag, alloc]
      rfl
    · rw [marks.sizes piece inside, chunkHeader, chunkEnd]
      omega
    · omega
    · omega
  · refine (List.Nodup.of_map _ kept.booked.distinct).pairwise_of_forall_ne ?_
    intro first member second member' differ
    obtain ⟨block, known, piece, inside, -, pointer, enough⟩ := homes first member
    obtain ⟨block', known', another, inside', -, pointer', enough'⟩ := homes second member'
    rw [Separate]
    rcases all.separate known known' inside inside' with rfl | sides
    · have same : first = second := List.inj_on_of_nodup_map kept.booked.distinct member member'
        (pointer.trans pointer'.symm)
      exact absurd same differ
    · omega

/-- A request whose padded total does not wrap. -/
def Unwrapped (_ : PoolState) : PoolCall → Prop
  | .alloc wantsize _ => wantsize + chunkHeader + chunkEnd + sizeofLong < 2 ^ 64
  | .free _ => True
  | .clear => True

instance decidableUnwrapped (state : PoolState) : (label : PoolCall) →
    Decidable (Unwrapped state label)
  | .alloc wantsize _ => inferInstanceAs (Decidable (wantsize + _ + _ + _ < 2 ^ 64))
  | .free _ => .isTrue trivial
  | .clear => .isTrue trivial

/-- Every call that may be made returns: a request, when `malloc` gives an answer, the release of a
live pointer and the release of all of them. -/
def Returns (state : PoolState) : Prop :=
  (∀ wantsize answer mallocs, Unwrapped state (.alloc wantsize (answer :: mallocs)) →
    Placed (answered state.mp (answer :: mallocs) ++ state.mp.mlist) →
    (state.call (.alloc wantsize (answer :: mallocs))).isSome) ∧
  (∀ p ∈ state.live.map Prod.fst, (state.call (.free p)).isSome) ∧ (state.call .clear).isSome

/-- A pool in order all of whose blocks have one size. -/
structure Even (state : PoolState) (blocks : List (MPMemory × List Piece)) : Prop where
  /-- It is in order. -/
  kept : Kept state blocks
  /-- The blocks have one size. -/
  sizes : ∀ block ∈ blocks, block.1.memPoolSize = state.mp.memPoolSize
  /-- They have room for a chunk. -/
  room : 40 ≤ state.mp.memPoolSize
  /-- The maximum is that size or at least twice that size. -/
  ratio : state.mp.maxMemPoolSize = state.mp.memPoolSize ∨
    2 * state.mp.memPoolSize ≤ state.mp.maxMemPoolSize
  /-- There is one block when the pool does not grow. -/
  single : state.mp.autoExtend = true ∨ blocks.length = 1

/-- The block of a live pointer is found. -/
theorem Even.found (even : Even state blocks) (live : p ∈ state.live.map Prod.fst) :
    ∃ mm, blockOf state.mp p = some mm ∧ Within mm p ∧
      mm.memPoolSize = state.mp.memPoolSize := by
  obtain ⟨front, mm, left, chunk, size, right, back, parts, -, within⟩ := even.kept.home live
  have member : (mm, left ++ ⟨chunk, size, false⟩ :: right) ∈ blocks := by simp [parts]
  have sizeIs : mm.memPoolSize = state.mp.memPoolSize := even.sizes _ member
  have known : mm ∈ state.mp.mlist := by
    rw [even.kept.sound.mlist]
    exact List.mem_map.mpr ⟨_, member, rfl⟩
  rw [blockOf]
  by_cases auto : state.mp.autoExtend = true
  · rw [if_pos auto, findMemoryList]
    have some : (state.mp.mlist.find? fun mm =>
        mm.start ≤ p && p < mm.start + state.mp.memPoolSize).isSome := by
      refine List.find?_isSome.mpr ⟨mm, known, ?_⟩
      rw [Within, MPMemory.stop, sizeIs] at within
      simpa using within
    obtain ⟨other, found⟩ := Option.isSome_iff_exists.mp some
    have window := List.find?_some found
    have among := List.mem_of_find?_eq_some found
    rw [even.kept.sound.mlist] at among
    obtain ⟨block, known', rfl⟩ := List.mem_map.mp among
    have sizeIs' := even.sizes block known'
    refine ⟨block.1, found, ?_, sizeIs'⟩
    rw [Within, MPMemory.stop, sizeIs']
    simpa using window
  · rw [if_neg auto]
    have one := even.single.resolve_left auto
    rw [even.kept.sound.mlist] at known ⊢
    obtain ⟨block, rfl⟩ := List.length_eq_one_iff.mp one
    obtain rfl : mm = block.1 := by simpa using known
    exact ⟨block.1, rfl, within, sizeIs⟩

/-- A pool whose blocks lie where they lay has blocks of one size as before. -/
theorem Even.same {blocks' : List (MPMemory × List Piece)} (even : Even state blocks)
    (kept : Kept next blocks') (config : SameConfig state.mp next.mp)
    (places : SamePlaces blocks blocks') : Even next blocks' where
  kept := kept
  sizes block member := by
    obtain ⟨other, known, same⟩ := places.of_mem member
    rw [same.2, config.size]
    exact even.sizes other known
  room := by
    rw [config.size]
    exact even.room
  ratio := by
    rw [config.size, config.max]
    exact even.ratio
  single := by
    have length := congrArg List.length places
    rw [List.length_map, List.length_map] at length
    rw [config.auto, length]
    exact even.single

/-- A request leaves all blocks of one size. -/
theorem Even.alloc (even : Even state blocks) (unwrapped : Unwrapped state (.alloc wantsize mallocs))
    (stepped : state.call (.alloc wantsize mallocs) = some next) :
    ∃ blocks', Even next blocks' ∧ (Settled blocks → Settled blocks') := by
  rw [Unwrapped, chunkHeader, chunkEnd, sizeofLong] at unwrapped
  obtain ⟨blocks', kept, settled, result, served⟩ := even.kept.alloc (by omega) stepped
  refine ⟨blocks', ?_, settled⟩
  have config := served.config
  rcases served.grown with places | ⟨-, growing, start, places⟩
  · exact even.same kept config places
  · -- the pool has grown, so it may, by a block of the same size
    have base := even.kept.sound.base
    obtain ⟨le, fits⟩ := even.kept.sound.config
    rw [Full, not_or, Bool.not_eq_false] at growing
    obtain ⟨auto, below⟩ := growing
    have twice : 2 * state.mp.memPoolSize ≤ state.mp.maxMemPoolSize := by
      rcases even.ratio with same | twice
      · omega
      · exact twice
    have added : addMemSz state.mp = state.mp.memPoolSize := by
      rw [addMemSz, sub64_of_le le fits, if_pos (by omega)]
    refine ⟨kept, fun block member => ?_, ?_, ?_, ?_⟩
    · have image : block.1.place ∈ blocks'.map fun block => block.1.place :=
        List.mem_map.mpr ⟨block, member, rfl⟩
      rw [places] at image
      rw [config.size]
      rcases List.mem_cons.mp image with fresh | image
      · exact (congrArg Prod.snd fresh).trans added
      · obtain ⟨other, known, place⟩ := List.mem_map.mp image
        exact (congrArg Prod.snd place).symm.trans (even.sizes other known)
    · rw [config.size]
      exact even.room
    · rw [config.size, config.max]
      exact even.ratio
    · rw [config.auto]
      exact .inl auto

/-- A release leaves all blocks of one size. -/
theorem Even.free (even : Even state blocks) (live : p ∈ state.live.map Prod.fst) :
    ∃ next blocks', state.call (.free p) = some next ∧ Even next blocks' ∧
      (Settled blocks → Settled blocks') := by
  obtain ⟨mm, found, within, whole⟩ := even.found live
  obtain ⟨next, blocks', done, kept, config, places, settled⟩ :=
    even.kept.free live found within (.inl whole)
  exact ⟨next, blocks', done, even.same kept config places, settled⟩

/-- Every call leaves all blocks of one size. -/
theorem Even.step {label : PoolCall} (even : Even state blocks) (unwrapped : Unwrapped state label)
    (stepped : state.call label = some next) :
    ∃ blocks', Even next blocks' ∧ (Settled blocks → Settled blocks') := by
  cases label with
  | alloc wantsize mallocs => exact even.alloc unwrapped stepped
  | free p =>
    have live : p ∈ state.live.map Prod.fst := by
      by_contra dead
      rw [PoolState.call, if_neg dead] at stepped
      contradiction
    obtain ⟨later, blocks', done, even', settled⟩ := even.free live
    obtain rfl := Option.some.inj (done.symm.trans stepped)
    exact ⟨blocks', even', settled⟩
  | clear =>
    obtain ⟨later, blocks', done, kept, config, places, settled⟩ := even.kept.clear
    obtain rfl := Option.some.inj (done.symm.trans stepped)
    exact ⟨blocks', even.same kept config places, fun _ => settled⟩

/-- In a pool with blocks of one size every call that may be made returns. -/
theorem Even.returns (even : Even state blocks) : Returns state := by
  refine ⟨fun wantsize answer mallocs unwrapped placed => ?_, fun p live => ?_, ?_⟩
  · rw [Unwrapped, chunkHeader, chunkEnd, sizeofLong] at unwrapped
    obtain ⟨⟨mp', result⟩, done⟩ :=
      memoryPoolAlloc_returns even.kept.sound (by omega) answer placed
    rw [PoolState.call, if_pos placed]
    exact Option.isSome_iff_exists.mpr ⟨_, Option.bind_eq_some_iff.mpr ⟨_, done, rfl⟩⟩
  · obtain ⟨next, -, done, -⟩ := even.free live
    exact Option.isSome_iff_exists.mpr ⟨next, done⟩
  · obtain ⟨next, -, done, -⟩ := even.kept.clear
    exact Option.isSome_iff_exists.mpr ⟨next, done⟩

/-- A pool in order all of whose blocks have one size, whatever their pieces. -/
def EvenPool (state : PoolState) : Prop := ∃ blocks, Even state blocks

/-- The chunks of such a pool tile their blocks, and every call returns. -/
theorem EvenPool.tiled (pool : EvenPool state) : Tiled state ∧ Returns state := by
  obtain ⟨blocks, even⟩ := pool
  have room (block : MPMemory × List Piece) (member : block ∈ blocks) :
      40 ≤ block.1.memPoolSize := by
    rw [even.sizes block member]
    exact even.room
  exact ⟨even.kept.tiled room, even.returns⟩

/-- Every call leaves such a pool. -/
theorem EvenPool.step {label : PoolCall} (unwrapped : Unwrapped state label)
    (pool : EvenPool state) (stepped : state.call label = some next) : EvenPool next := by
  obtain ⟨blocks, even⟩ := pool
  obtain ⟨blocks', even', -⟩ := even.step unwrapped stepped
  exact ⟨blocks', even'⟩

end

/-- `MemoryPoolInit` with a maximum of the first block's size, or of twice that and more, makes a pool
whose blocks have one size. -/
theorem even_made {maxmempoolsize mempoolsize s : Nat} (uninitialised : Bool) (byte : Nat → UInt8)
    (ratio : maxmempoolsize = mempoolsize ∨ 2 * mempoolsize ≤ maxmempoolsize)
    (room : chunkHeader + chunkEnd ≤ mempoolsize) (fits : maxmempoolsize < 2 ^ 64)
    (positive : 0 < s) (inside : s + sizeofMemory + mempoolsize ≤ 2 ^ 64) :
    ∃ mp blocks, memoryPoolInit maxmempoolsize mempoolsize uninitialised s byte = some mp ∧
      Even ⟨mp, []⟩ blocks ∧ Settled blocks := by
  rw [chunkHeader, chunkEnd] at room
  have makes : Makes maxmempoolsize mempoolsize s := by
    refine ⟨?_, fits, by omega, ?_, positive, inside⟩
    · omega
    · omega
  obtain ⟨mp, blocks, made, sound, untaken, sizeIs, maxIs, auto, places, settled⟩ :=
    memoryPoolInit_spec makes uninitialised byte
  have kept : Kept ⟨mp, []⟩ blocks := sound.kept untaken
  refine ⟨mp, blocks, made, ⟨kept, fun block member => ?_, ?_, ?_, ?_⟩, settled⟩
  · have image : block.1.place ∈ blocks.map fun block => block.1.place :=
      List.mem_map.mpr ⟨block, member, rfl⟩
    rw [places] at image
    exact (congrArg Prod.snd (List.mem_singleton.mp image)).trans sizeIs.symm
  · exact room.trans (le_of_eq sizeIs.symm)
  · dsimp only
    rw [sizeIs, maxIs]
    exact ratio
  · have length := congrArg List.length places
    rw [List.length_map] at length
    exact .inr length

/-- A pool whose blocks have one size is made, and in every run of it the chunks tile their blocks
and every call returns. -/
theorem chunks_tile_blocks (maxmempoolsize mempoolsize s : Nat) (uninitialised : Bool)
    (byte : Nat → UInt8)
    (ratio : maxmempoolsize = mempoolsize ∨ 2 * mempoolsize ≤ maxmempoolsize)
    (room : chunkHeader + chunkEnd ≤ mempoolsize) (fits : maxmempoolsize < 2 ^ 64)
    (positive : 0 < s) (inside : s + sizeofMemory + mempoolsize ≤ 2 ^ 64) :
    ∃ mp, memoryPoolInit maxmempoolsize mempoolsize uninitialised s byte = some mp ∧
      ∀ calls, poolSystem.Meets Unwrapped ⟨mp, []⟩ calls →
        poolSystem.Always (fun state => Tiled state ∧ Returns state) ⟨mp, []⟩ calls := by
  obtain ⟨mp, blocks, made, even, -⟩ :=
    even_made uninitialised byte ratio room fits positive inside
  refine ⟨mp, made, fun calls meets => ?_⟩
  exact System.always_of_meets (fun _ => EvenPool.tiled) (fun _ _ _ => EvenPool.step)
    ⟨blocks, even⟩ meets

/-- Two requests and a release of all in a pool of one block. -/
theorem chunks_tile_blocks_small :
    ∃ mp, memoryPoolInit 1000 1000 false 4096 (fun _ => 0) = some mp ∧
      poolSystem.Always (fun state => Tiled state ∧ Returns state) ⟨mp, []⟩
        [.alloc 100 [], .alloc 7 [], .clear] := by
  obtain ⟨mp, made, always⟩ := chunks_tile_blocks 1000 1000 4096 false (fun _ => 0) (.inl rfl)
    (by decide) (by decide) (by decide) (by decide)
  have first : 100 + chunkHeader + chunkEnd + sizeofLong < 2 ^ 64 := by decide
  have second : 7 + chunkHeader + chunkEnd + sizeofLong < 2 ^ 64 := by decide
  exact ⟨mp, made, always _
    ⟨first, fun _ _ => ⟨second, fun _ _ => ⟨trivial, fun _ _ => trivial⟩⟩⟩⟩

end UubangIot.MemoryPool
