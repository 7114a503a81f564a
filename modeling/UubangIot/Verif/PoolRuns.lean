import Mathlib.Order.Interval.Finset.Nat
import UubangIot.Verif.PoolCalls

/-!
# Runs of the pool

The invariant of the pool over its calls (`Sound`): the blocks are in order and lie apart, and the
total is the sum of their sizes. One lemma for each call says which pieces are allocated after it.
-/

namespace UubangIot.MemoryPool

open ByteMemory DoublyLinked

/-- The pool may not grow, or by blocks with room for a header. -/
def Extendable (mp : Pool) : Prop := 32 ≤ addMemSz mp ∨ mp.maxMemPoolSize ≤ mp.totalMemPoolSize

/-- The sum of the sizes of some blocks. -/
def sumOfSizes (mlist : List MPMemory) : Nat := (mlist.map MPMemory.memPoolSize).sum

/-- A pool in order, with the pieces of its blocks. -/
structure Sound (mp : Pool) (blocks : List (MPMemory × List Piece)) : Prop where
  /-- The blocks are the ones with the pieces. -/
  mlist : mp.mlist = blocks.map Prod.fst
  /-- They are in order. -/
  order : Blocks mp.memory blocks
  /-- All memory may be accessed. -/
  range : mp.memory.low = 0 ∧ mp.memory.high = 2 ^ 64
  /-- No block is larger than the first. -/
  sizes : ∀ block ∈ blocks, block.1.memPoolSize ≤ mp.memPoolSize
  /-- A new block has room for a header. -/
  extendable : Extendable mp
  /-- `total_mem_pool_size` is the sum of the sizes. -/
  total : mp.totalMemPoolSize = sumOfSizes mp.mlist
  /-- It is at least the size of the first block. -/
  base : mp.memPoolSize ≤ mp.totalMemPoolSize
  /-- `mem_pool_size` is no more than the maximum, which is a `mem_size_t`. -/
  config : mp.memPoolSize ≤ mp.maxMemPoolSize ∧ mp.maxMemPoolSize < 2 ^ 64

/-- What no call changes. -/
structure SameConfig (mp mp' : Pool) : Prop where
  /-- `mem_pool_size`. -/
  size : mp'.memPoolSize = mp.memPoolSize
  /-- `max_mem_pool_size`. -/
  max : mp'.maxMemPoolSize = mp.maxMemPoolSize
  /-- `auto_extend`. -/
  auto : mp'.autoExtend = mp.autoExtend

section

variable {mlist : List MPMemory} {mm : MPMemory} {mp mp' : Pool}

/-! ## Blocks in the address space -/

/-- The addresses of the bytes of some blocks. -/
def covered (mlist : List MPMemory) : Finset Nat :=
  mlist.foldr (fun mm rest => Finset.Ico mm.start mm.stop ∪ rest) ∅

/-- The places of some block. -/
theorem mem_covered {place : Nat} : place ∈ covered mlist ↔ ∃ mm ∈ mlist, Within mm place := by
  induction mlist with
  | nil => simp [covered]
  | cons mm rest ih =>
    have unfolded : covered (mm :: rest) = Finset.Ico mm.start mm.stop ∪ covered rest := rfl
    rw [unfolded, Finset.mem_union, Finset.mem_Ico, ih]
    simp [Within]

/-- Blocks that lie apart have as many bytes as the sum of their sizes says. -/
theorem card_covered (apart : mlist.Pairwise MPMemory.Apart) :
    (covered mlist).card = sumOfSizes mlist := by
  induction mlist with
  | nil => rfl
  | cons mm rest ih =>
    obtain ⟨ahead, apart⟩ := List.pairwise_cons.mp apart
    have unfolded : covered (mm :: rest) = Finset.Ico mm.start mm.stop ∪ covered rest := rfl
    have disjoint : Disjoint (Finset.Ico mm.start mm.stop) (covered rest) := by
      refine Finset.disjoint_left.mpr fun place own other => ?_
      obtain ⟨another, member, within⟩ := mem_covered.mp other
      have beyond := (ahead another member).beyond (Finset.mem_Ico.mp own)
      rw [Within] at within
      rw [Beyond] at beyond
      omega
    have size : mm.stop - mm.start = mm.memPoolSize := by
      rw [MPMemory.stop]
      omega
    rw [unfolded, Finset.card_union_of_disjoint disjoint, ih apart, Nat.card_Ico, size, sumOfSizes,
      sumOfSizes, List.map_cons, List.sum_cons]

/-- Blocks in the address space are smaller than it together. -/
theorem sumOfSizes_lt (inside : ∀ mm ∈ mlist, 0 < mm.start ∧ mm.stop ≤ 2 ^ 64)
    (apart : mlist.Pairwise MPMemory.Apart) : sumOfSizes mlist < 2 ^ 64 := by
  have few : covered mlist ⊆ Finset.Ico 1 (2 ^ 64) := by
    intro place member
    obtain ⟨mm, known, within⟩ := mem_covered.mp member
    have bounds := inside mm known
    rw [Within] at within
    rw [Finset.mem_Ico]
    omega
  have card := Finset.card_le_card few
  rw [card_covered apart, Nat.card_Ico] at card
  omega

/-- Blocks in the address space do not sum up to all of it. -/
theorem Placed.sum_lt (placed : Placed mlist) : sumOfSizes mlist < 2 ^ 64 := by
  refine sumOfSizes_lt (fun mm member => ?_) placed.2
  have bounds := placed.1 mm member
  omega

/-- Whether blocks are placed is told by where they lie. -/
theorem placed_congr {mlist' : List MPMemory}
    (same : mlist'.map MPMemory.place = mlist.map MPMemory.place) (placed : Placed mlist) :
    Placed mlist' := by
  obtain ⟨inside, apart⟩ := placed
  -- both parts are statements about the places
  have apartIs : (mlist.map MPMemory.place).Pairwise fun first second =>
      first.1 + first.2 ≤ second.1 - sizeofMemory ∨ second.1 + second.2 ≤ first.1 - sizeofMemory :=
    List.pairwise_map.mpr apart
  have insideIs : ∀ place ∈ mlist.map MPMemory.place,
      sizeofMemory < place.1 ∧ place.1 + place.2 ≤ 2 ^ 64 := by
    intro place member
    obtain ⟨mm, known, rfl⟩ := List.mem_map.mp member
    exact inside mm known
  rw [← same] at apartIs insideIs
  have apart' := List.pairwise_map.mp apartIs
  exact ⟨fun mm member => insideIs mm.place (List.mem_map_of_mem member), apart'⟩

/-- Some of the blocks are placed when all are. -/
theorem Placed.sublist {mlist' : List MPMemory} (placed : Placed mlist)
    (fewer : mlist'.Sublist mlist) : Placed mlist' :=
  ⟨fun mm member => placed.1 mm (fewer.subset member), placed.2.sublist fewer⟩

/-- A placed block may be accessed. -/
theorem Placed.reachable {memory : Heap} (placed : Placed mlist)
    (range : memory.low = 0 ∧ memory.high = 2 ^ 64) (member : mm ∈ mlist) :
    Reachable memory mm := by
  have bounds := placed.1 mm member
  refine ⟨⟨?_, ?_⟩, bounds.2, by omega⟩
  · omega
  · omega

/-! ## Extension -/

variable {blocks : List (MPMemory × List Piece)}

/-- The same settings extend by the same size. -/
theorem SameConfig.addMemSz (same : SameConfig mp mp') : addMemSz mp' = addMemSz mp := by
  rw [MemoryPool.addMemSz, MemoryPool.addMemSz, same.size, same.max]

/-- `add_mem_sz` is at most the size of the first block. -/
theorem addMemSz_le (mp : Pool) : addMemSz mp ≤ mp.memPoolSize := by
  rw [addMemSz]
  split
  · exact le_rfl
  · omega

/-- `extend_memory_list` adds a free block in front. -/
theorem extendMemoryList_spec {s : Nat} (sound : Sound mp blocks)
    (placed : Placed ({ MPMemory.fresh s 0 with memPoolSize := addMemSz mp } :: mp.mlist))
    (room : 32 ≤ addMemSz mp) :
    ∃ mp' mm pieces, extendMemoryList mp (addMemSz mp) s = some mp' ∧
      Sound { mp' with totalMemPoolSize := add64 mp'.totalMemPoolSize (addMemSz mp) }
        ((mm, pieces) :: blocks) ∧
      taken pieces = [] ∧ SameConfig mp mp' ∧ Fresh mp'.memory mm ∧
      mm.place = (s + sizeofMemory, addMemSz mp) ∧
      pieces.Sublist [⟨mm.start, addMemSz mp, true⟩] := by
  obtain ⟨above, below⟩ := placed.1 _ List.mem_cons_self
  obtain ⟨apart, -⟩ := List.pairwise_cons.mp placed.2
  have sum := placed.sum_lt
  have opened : Open mp.memory (s + sizeofMemory) (s + sizeofMemory + addMemSz mp) := by
    rw [Open, sound.range.1, sound.range.2]
    exact ⟨Nat.zero_le _, below⟩
  obtain ⟨later, mm, pieces, done, startIs, sizeIs, order, untaken, agrees, fresh, single⟩ :=
    mpInitMemoryStruct_spec (.fresh s mp.lastId) opened below
      (show 0 < s + sizeofMemory by rw [sizeofMemory]; omega) room
  have same : SameBlock { MPMemory.fresh s 0 with memPoolSize := addMemSz mp } mm :=
    ⟨startIs, sizeIs⟩
  have apart' : ∀ other ∈ blocks, mm.Apart other.1 := by
    intro other member
    refine (apart other.1 ?_).same same
    rw [sound.mlist]
    exact List.mem_map_of_mem member
  have old : Blocks later blocks :=
    sound.order.frame agrees fun other member place within =>
      (apart' other member).symm.beyond within
  have range : later.low = 0 ∧ later.high = 2 ^ 64 := by
    rw [agrees.low, agrees.high]
    exact sound.range
  have reach : Reachable later mm := (placed.reachable range List.mem_cons_self).same same
  rw [sumOfSizes, List.map_cons, List.sum_cons, ← sumOfSizes, ← sound.total] at sum
  dsimp only at sum
  have config : SameConfig mp { mp with
      memory := later, mlist := mm :: mp.mlist, lastId := (mp.lastId + 1) % 2 ^ 32
      totalMemPoolSize := add64 mp.totalMemPoolSize (addMemSz mp) } := ⟨rfl, rfl, rfl⟩
  refine ⟨{ mp with
      memory := later, mlist := mm :: mp.mlist, lastId := (mp.lastId + 1) % 2 ^ 32 }, mm, pieces,
    ?_, ⟨?_, ?_, range, ?_, ?_, ?_, ?_, sound.config⟩, untaken, ⟨rfl, rfl, rfl⟩, fresh, ?_, ?_⟩
  · exact Option.bind_eq_some_iff.mpr ⟨_, done, rfl⟩
  · rw [List.map_cons, ← sound.mlist]
  · exact old.cons order reach (by rw [sizeIs]; exact room) apart'
  · intro block member
    rcases List.mem_cons.mp member with rfl | member
    · rw [sizeIs]
      exact addMemSz_le mp
    · exact sound.sizes block member
  · exact .inl (by rw [config.addMemSz]; exact room)
  · rw [sumOfSizes, List.map_cons, List.sum_cons, ← sumOfSizes, ← sound.total, sizeIs]
    dsimp only
    rw [add64_of_lt (by omega), Nat.add_comm]
  · have base := sound.base
    dsimp only
    rw [add64_of_lt (by omega)]
    omega
  · rw [MPMemory.place, startIs, sizeIs]
    rfl
  · rw [startIs]
    exact single

/-! ## Allocation -/

variable {need : Nat} {mallocs : List (Option Nat)}

/-- The loop of `MemoryPoolAlloc` when a chunk is found. -/
theorem allocLoop_found {memory : Heap} {p : Nat}
    (found : findFreeChunk mp.memPoolSize need mp.memory mp.mlist = some (some (memory, mlist, p))) :
    allocLoop need mp mallocs = some ({ mp with memory, mlist }, some p) := by
  rw [allocLoop.eq_def]
  exact Option.bind_eq_some_iff.mpr ⟨_, found, rfl⟩

/-- The pool is at its limit, or may not grow. -/
def Full (mp : Pool) : Prop := mp.autoExtend = false ∨ mp.maxMemPoolSize ≤ mp.totalMemPoolSize

instance (mp : Pool) : Decidable (Full mp) := inferInstanceAs (Decidable (_ ∨ _))

section

variable (missed : findFreeChunk mp.memPoolSize need mp.memory mp.mlist = some none)
include missed

/-- The loop when no chunk is found in a pool at its limit. -/
theorem allocLoop_full (full : Full mp) : allocLoop need mp mallocs = some (mp, none) := by
  rw [allocLoop.eq_def]
  refine Option.bind_eq_some_iff.mpr ⟨_, missed, ?_⟩
  exact if_pos full

/-- The loop when `malloc` has no memory. -/
theorem allocLoop_null (open' : ¬Full mp) :
    allocLoop need mp (none :: mallocs) = some (mp, none) := by
  rw [allocLoop.eq_def]
  refine Option.bind_eq_some_iff.mpr ⟨_, missed, ?_⟩
  exact if_neg open'

/-- The loop when the answer of `malloc` is not known. -/
theorem allocLoop_nil (open' : ¬Full mp) : allocLoop need mp [] = none := by
  rw [allocLoop.eq_def, missed, Option.bind_eq_bind, Option.bind_some]
  exact if_neg open'

/-- The loop when the pool is extended. -/
theorem allocLoop_extended {s : Nat} (open' : ¬Full mp)
    (extended : extendMemoryList mp (addMemSz mp) s = some mp') :
    allocLoop need mp (some s :: mallocs) = allocLoop need
      { mp' with totalMemPoolSize := add64 mp'.totalMemPoolSize (addMemSz mp) } mallocs := by
  rw [allocLoop.eq_def, missed, Option.bind_eq_bind, Option.bind_some]
  refine (if_neg open').trans ?_
  dsimp only
  rw [extended, Option.bind_eq_bind, Option.bind_some]

end

/-- What a request has done: the pool is in order, and one piece more is allocated unless the
result is NULL. -/
structure Served (mp : Pool) (blocks : List (MPMemory × List Piece)) (need : Nat) (mp' : Pool)
    (result : Option Nat) (blocks' : List (MPMemory × List Piece)) : Prop where
  /-- The sizes of the pool are the same. -/
  config : SameConfig mp mp'
  /-- The pool is in order. -/
  sound : Sound mp' blocks'
  /-- The blocks lie where they lay, and where none had room the pool may have one more. -/
  grown : SamePlaces blocks blocks' ∨
    findFreeChunk mp.memPoolSize need mp.memory mp.mlist = some none ∧ ¬Full mp ∧
      ∃ start, blocks'.map (fun block => block.1.place) =
        (start, addMemSz mp) :: blocks.map fun block => block.1.place
  /-- Nothing is allocated when the result is NULL. -/
  null : result = none → allTaken blocks' = allTaken blocks
  /-- A piece for the request is allocated when the result is a pointer. -/
  pointer : ∀ p, result = some p → ∃ piece, p = piece.address + 32 ∧ need ≤ piece.size ∧
    (allTaken blocks').Perm (piece :: allTaken blocks)

/-- The sum of sizes is told by where the blocks lie. -/
theorem sumOfSizes_congr {mlist' : List MPMemory}
    (same : mlist'.map MPMemory.place = mlist.map MPMemory.place) :
    sumOfSizes mlist' = sumOfSizes mlist := by
  have sizes (mlist : List MPMemory) :
      mlist.map MPMemory.memPoolSize = (mlist.map MPMemory.place).map Prod.snd := by
    simp [MPMemory.place]
  rw [sumOfSizes, sumOfSizes, sizes, sizes, same]

/-- The places of the blocks are the same. -/
theorem SamePlaces.map_place {blocks' : List (MPMemory × List Piece)}
    (same : SamePlaces blocks blocks') : (blocks'.map Prod.fst).map MPMemory.place =
      (blocks.map Prod.fst).map MPMemory.place := by
  rw [List.map_map, List.map_map]
  exact same

/-- A pool stays in order when its blocks do, where they lie. -/
theorem Sound.keep {memory : Heap} {blocks' : List (MPMemory × List Piece)}
    (sound : Sound mp blocks) (order : Blocks memory blocks') (places : SamePlaces blocks blocks')
    (range : memory.low = mp.memory.low ∧ memory.high = mp.memory.high)
    (is : mlist = blocks'.map Prod.fst) : Sound { mp with memory, mlist } blocks' where
  mlist := is
  order := order
  range := by
    dsimp only
    rw [range.1, range.2]
    exact sound.range
  sizes block member := by
    obtain ⟨other, known, same⟩ := places.of_mem member
    rw [same.2]
    exact sound.sizes other known
  extendable := sound.extendable
  total := by
    dsimp only
    rw [sound.total, sound.mlist, is]
    exact (sumOfSizes_congr places.map_place).symm
  base := sound.base
  config := sound.config

/-- The blocks at the answers of `malloc`, the first answer apart. -/
theorem answered_cons (s : Nat) (same : SameConfig mp mp') :
    answered mp (some s :: mallocs) = answered mp' mallocs ++
      [{ MPMemory.fresh s 0 with memPoolSize := addMemSz mp }] := by
  simp [answered, same.addMemSz]

/-- Nothing is allocated from a block in front that is new. -/
theorem allTaken_cons_fresh {pieces : List Piece} (untaken : taken pieces = []) :
    allTaken ((mm, pieces) :: blocks) = allTaken blocks := by
  rw [allTaken, List.flatMap_cons, untaken, List.nil_append, ← allTaken]

/-- The search in a pool in order finds a chunk and allocates it, or finds none. -/
theorem Sound.search (sound : Sound mp blocks) (least : 40 < need) :
    findFreeChunk mp.memPoolSize need mp.memory mp.mlist = some none ∨
      ∃ memory mlist p blocks' piece,
        findFreeChunk mp.memPoolSize need mp.memory mp.mlist = some (some (memory, mlist, p)) ∧
        Granted mp.memory blocks need memory mlist p blocks' piece ∧
        Carved need blocks piece blocks' := by
  obtain ⟨found, search, right⟩ := findFreeChunk_spec mp.memPoolSize sound.order least
  rw [sound.mlist]
  cases found with
  | none => exact .inl search
  | some result =>
    obtain ⟨memory, mlist, p⟩ := result
    obtain ⟨blocks', piece, granted⟩ := right memory mlist p rfl
    exact .inr ⟨memory, mlist, p, blocks', piece, search, granted⟩

/-- What a request has made of the blocks: new blocks of one free piece are in front, and one piece
is allocated from the pieces of a block unless the result is NULL. -/
def Allotted (mp : Pool) (need : Nat) (blocks : List (MPMemory × List Piece)) (result : Option Nat)
    (blocks' : List (MPMemory × List Piece)) : Prop :=
  ∃ added, (∀ block ∈ added, block.2.Sublist [⟨block.1.start, addMemSz mp, true⟩]) ∧
    (result = none → blocks' = added ++ blocks) ∧
    ∀ p, result = some p → ∃ piece, p = piece.address + 32 ∧ Carved need (added ++ blocks) piece blocks'

/-- Nothing is made of the blocks when nothing is found. -/
theorem Allotted.missed : Allotted mp need blocks none blocks :=
  ⟨[], by simp, fun _ => rfl, by simp⟩

/-- A request after the pool has been extended. -/
theorem Allotted.extended {pieces : List Piece} {result : Option Nat} {extended : Pool}
    {blocks' : List (MPMemory × List Piece)} (config : SameConfig mp extended)
    (allotted : Allotted extended need ((mm, pieces) :: blocks) result blocks')
    (single : pieces.Sublist [⟨mm.start, addMemSz mp, true⟩]) :
    Allotted mp need blocks result blocks' := by
  obtain ⟨added, fresh, null, pointer⟩ := allotted
  refine ⟨added ++ [(mm, pieces)], fun block member => ?_, fun none => ?_, fun p some => ?_⟩
  · rcases List.mem_append.mp member with member | member
    · have := fresh block member
      rwa [config.addMemSz] at this
    · obtain rfl := List.mem_singleton.mp member
      exact single
  · rw [null none, List.append_assoc, List.singleton_append]
  · rw [List.append_assoc, List.singleton_append]
    exact pointer p some

/-- In every block the free chunks are coalesced. -/
def Settled (blocks : List (MPMemory × List Piece)) : Prop := ∀ block ∈ blocks, Coalesced block.2

/-- At most one piece is coalesced. -/
theorem Coalesced.single {pieces : List Piece} {piece : Piece}
    (single : pieces.Sublist [piece]) : Coalesced pieces := by
  have few : pieces.length ≤ 1 := single.length_le
  refine ⟨?_, .inl few⟩
  rcases List.sublist_singleton.mp single with rfl | rfl
  · exact .nil
  · exact .singleton _

/-- Allocating from a free piece leaves the pieces coalesced: what is left of it was free before. -/
theorem Cut.coalesced {pieces pieces' : List Piece} {piece : Piece} (cut : Cut need pieces piece pieces')
    (least : 40 < need) (coalesced : Coalesced pieces) : Coalesced pieces' := by
  cases cut with
  | @split left right chunk size more =>
    obtain ⟨chainLeft, chainRight, -⟩ := List.isChain_append.mp coalesced.apart
    obtain ⟨after, chain⟩ := List.isChain_cons.mp chainRight
    constructor
    · refine List.isChain_append.mpr ⟨chainLeft, ?_, fun _ _ second head => ?_⟩
      · exact List.isChain_cons_cons.mpr ⟨.inl rfl, List.isChain_cons.mpr
          ⟨fun second head => .inr ((after second head).resolve_left (by simp)), chain⟩⟩
      · obtain rfl : ⟨chunk, need, false⟩ = second := by simpa using head
        exact .inr rfl
    · right
      have sizes : ∀ piece ∈ left ++ right, 40 < piece.size := by
        intro piece member
        rcases coalesced.large with few | large
        · rw [List.length_append, List.length_cons] at few
          obtain rfl : left = [] := List.eq_nil_of_length_eq_zero (by omega)
          obtain rfl : right = [] := List.eq_nil_of_length_eq_zero (by omega)
          simp at member
        · exact large piece (mem_sides member)
      intro piece member
      rcases List.mem_append.mp member with member | member
      · exact sizes piece (List.mem_append_left _ member)
      · rcases List.mem_cons.mp member with rfl | member
        · exact least
        · rcases List.mem_cons.mp member with rfl | member
          · dsimp only
            omega
          · exact sizes piece (List.mem_append_right _ member)
  | @whole left right chunk size =>
    obtain ⟨chainLeft, chainRight, -⟩ := List.isChain_append.mp coalesced.apart
    obtain ⟨-, chain⟩ := List.isChain_cons.mp chainRight
    constructor
    · refine List.isChain_append.mpr ⟨chainLeft, List.isChain_cons.mpr ⟨fun _ _ => .inl rfl, chain⟩,
        fun _ _ second head => ?_⟩
      obtain rfl : ⟨chunk, size, false⟩ = second := by simpa using head
      exact .inr rfl
    · refine coalesced.large.imp (fun few => ?_) fun large piece member => ?_
      · simpa using few
      · rcases mem_middle member with rfl | member
        · exact large ⟨chunk, size, true⟩ (by simp)
        · exact large piece (mem_sides member)

/-- A request leaves the free chunks coalesced. -/
theorem Allotted.settled {result : Option Nat} {blocks' : List (MPMemory × List Piece)}
    (allotted : Allotted mp need blocks result blocks') (least : 40 < need)
    (settled : Settled blocks) : Settled blocks' := by
  obtain ⟨added, fresh, null, pointer⟩ := allotted
  have before : Settled (added ++ blocks) := by
    intro block member
    rcases List.mem_append.mp member with member | member
    · exact .single (fresh block member)
    · exact settled block member
  cases result with
  | none =>
    rw [null rfl]
    exact before
  | some p =>
    obtain ⟨piece, -, front, mm, pieces, mm', pieces', back, parts, rfl, cut⟩ := pointer p rfl
    rw [parts] at before
    intro block member
    rcases List.mem_append.mp member with member | member
    · exact before block (List.mem_append_left _ member)
    · rcases List.mem_cons.mp member with rfl | member
      · exact cut.coalesced least (before (mm, pieces) (by simp))
      · exact before block (List.mem_append_right _ (List.mem_cons_of_mem _ member))

/-- An allocation in one of the blocks serves a request. -/
theorem Granted.served {memory : Heap} {p : Nat} {blocks' : List (MPMemory × List Piece)}
    {piece : Piece} (sound : Sound mp blocks)
    (granted : Granted mp.memory blocks need memory mlist p blocks' piece) :
    Served mp blocks need { mp with memory, mlist } (some p) blocks' where
  config := ⟨rfl, rfl, rfl⟩
  sound := sound.keep granted.order granted.places ⟨granted.agrees.low, granted.agrees.high⟩
    granted.mlist
  grown := .inl granted.places
  null none := by simp at none
  pointer p' same := by
    obtain rfl := Option.some.inj same
    exact ⟨piece, granted.pointer, granted.enough, granted.perm⟩

/-- A request that returns NULL at once. -/
theorem Sound.unserved (sound : Sound mp blocks) : Served mp blocks need mp none blocks where
  config := ⟨rfl, rfl, rfl⟩
  sound := sound
  grown := .inl rfl
  null _ := rfl
  pointer p some := by simp at some

/-- A request after the pool has been extended, which it is once. -/
theorem Served.extended {pieces : List Piece} {result : Option Nat} {extended : Pool}
    {blocks' : List (MPMemory × List Piece)}
    (served : Served extended ((mm, pieces) :: blocks) need mp' result blocks')
    (config : SameConfig mp extended) (untaken : taken pieces = [])
    (missed : findFreeChunk mp.memPoolSize need mp.memory mp.mlist = some none)
    (growing : ¬Full mp) (size : mm.memPoolSize = addMemSz mp)
    (once : findFreeChunk extended.memPoolSize need extended.memory extended.mlist = some none →
      Full extended) : Served mp blocks need mp' result blocks' where
  config := ⟨served.config.size.trans config.size, served.config.max.trans config.max,
    served.config.auto.trans config.auto⟩
  sound := served.sound
  grown := by
    rcases served.grown with places | ⟨missed', growing', -⟩
    · refine .inr ⟨missed, growing, mm.start, ?_⟩
      rw [← size]
      exact places
    · exact absurd (once missed') growing'
  null none := by
    rw [served.null none, allTaken_cons_fresh untaken]
  pointer p some := by
    obtain ⟨piece, pointer, enough, perm⟩ := served.pointer p some
    rw [allTaken_cons_fresh untaken] at perm
    exact ⟨piece, pointer, enough, perm⟩

/-- `add_mem_sz` is the size of the first block, or fills the pool up. -/
theorem Sound.added (sound : Sound mp blocks) :
    addMemSz mp = mp.memPoolSize ∨ mp.memPoolSize + addMemSz mp = mp.maxMemPoolSize := by
  obtain ⟨le, fits⟩ := sound.config
  rw [addMemSz, sub64_of_le le fits]
  split
  · exact .inl rfl
  · right
    omega

/-- One pass of the loop serves the request, or the pool is to be extended. -/
theorem Sound.pass (sound : Sound mp blocks) (least : 40 < need) {result : Option Nat}
    (done : allocLoop need mp mallocs = some (mp', result)) :
    (∃ blocks', Served mp blocks need mp' result blocks' ∧ Allotted mp need blocks result blocks') ∨
      findFreeChunk mp.memPoolSize need mp.memory mp.mlist = some none ∧ ¬Full mp := by
  rcases sound.search least with missed | ⟨memory, mlist, p, blocks', piece, found, granted, carved⟩
  · by_cases full : Full mp
    · rw [allocLoop_full missed full] at done
      simp only [Option.some.injEq, Prod.mk.injEq] at done
      obtain ⟨rfl, rfl⟩ := done
      exact .inl ⟨blocks, sound.unserved, .missed⟩
    · exact .inr ⟨missed, full⟩
  · rw [allocLoop_found found] at done
    simp only [Option.some.injEq, Prod.mk.injEq] at done
    obtain ⟨rfl, rfl⟩ := done
    refine .inl ⟨blocks', granted.served sound, [], by simp, by simp, fun p' same => ?_⟩
    obtain rfl := Option.some.inj same
    exact ⟨piece, granted.pointer, carved⟩

/-- A pool in order that is extended with an answer of `malloc`: it need not be extended again, and
the other answers are still good. -/
theorem Sound.extend {s : Nat} (sound : Sound mp blocks) (least : 40 < need)
    (enough : need ≤ mp.memPoolSize) (growing : ¬Full mp)
    (placed : Placed (answered mp (some s :: mallocs) ++ mp.mlist)) :
    ∃ mp' mm pieces, extendMemoryList mp (addMemSz mp) s = some mp' ∧
      Sound { mp' with totalMemPoolSize := add64 mp'.totalMemPoolSize (addMemSz mp) }
        ((mm, pieces) :: blocks) ∧
      taken pieces = [] ∧ SameConfig mp mp' ∧
      (findFreeChunk mp'.memPoolSize need mp'.memory mp'.mlist = some none →
        Full { mp' with totalMemPoolSize := add64 mp'.totalMemPoolSize (addMemSz mp) }) ∧
      mm.memPoolSize = addMemSz mp ∧ Placed (answered mp' mallocs ++ mp'.mlist) ∧
      pieces.Sublist [⟨mm.start, addMemSz mp, true⟩] := by
  have room : 32 ≤ addMemSz mp := by
    rcases sound.extendable with room | full
    · exact room
    · exact absurd (.inr full) growing
  rw [answered_cons s ⟨rfl, rfl, rfl⟩, List.append_assoc, List.singleton_append] at placed
  obtain ⟨mp', mm, pieces, extended, sound', untaken, config, fresh, place, single⟩ :=
    extendMemoryList_spec sound (placed.sublist (List.sublist_append_right _ _)) room
  have list : mp'.mlist = mm :: mp.mlist := by
    have := sound'.mlist
    rwa [List.map_cons, ← sound.mlist] at this
  have answers : answered mp' mallocs = answered mp mallocs := by
    rw [answered, answered, config.addMemSz]
  have size : mm.memPoolSize = addMemSz mp := congrArg Prod.snd place
  refine ⟨mp', mm, pieces, extended, sound', untaken, config, fun missed => ?_, size, ?_, single⟩
  · rcases sound.added with whole | fills
    · have reachable := sound'.order.reach (mm, pieces) List.mem_cons_self
      rw [list] at missed
      exact absurd missed (findFreeChunk_fresh reachable fresh
        ((size.trans whole).trans config.size.symm) least (by rwa [config.size]) mp.mlist)
    · right
      have total := sound'.total
      have sum := sound.total
      have base := sound.base
      dsimp only at total ⊢
      rw [list, sumOfSizes, List.map_cons, List.sum_cons, ← sumOfSizes, ← sum, size] at total
      rw [total, config.max]
      omega
  · refine placed_congr ?_ placed
    rw [answers, list, List.map_append, List.map_append, List.map_cons, List.map_cons, place]
    rfl

/-- The loop of `MemoryPoolAlloc` leaves the pool in order. -/
theorem allocLoop_spec (sound : Sound mp blocks) (least : 40 < need)
    (enough : need ≤ mp.memPoolSize) (placed : Placed (answered mp mallocs ++ mp.mlist))
    {result : Option Nat}
    (done : allocLoop need mp mallocs = some (mp', result)) :
    ∃ blocks', Served mp blocks need mp' result blocks' ∧ Allotted mp need blocks result blocks' := by
  induction mallocs generalizing mp blocks with
  | nil =>
    rcases sound.pass least done with served | ⟨missed, growing⟩
    · exact served
    · rw [allocLoop_nil missed growing] at done
      contradiction
  | cons answer mallocs ih =>
    rcases sound.pass least done with served | ⟨missed, growing⟩
    · exact served
    · cases answer with
      | none =>
        rw [allocLoop_null missed growing] at done
        simp only [Option.some.injEq, Prod.mk.injEq] at done
        obtain ⟨rfl, rfl⟩ := done
        exact ⟨blocks, sound.unserved, .missed⟩
      | some s =>
        obtain ⟨extended, mm, pieces, done', sound', untaken, config, once, size, placed', single⟩ :=
          sound.extend least enough growing placed
        rw [allocLoop_extended missed growing done'] at done
        have enough' : need ≤ extended.memPoolSize := by rwa [config.size]
        obtain ⟨blocks', served, allotted⟩ := ih sound' enough' placed' done
        have config' : SameConfig mp { extended with
            totalMemPoolSize := add64 extended.totalMemPoolSize (addMemSz mp) } :=
          ⟨config.size, config.max, config.auto⟩
        exact ⟨blocks', served.extended config' untaken missed growing size once,
          allotted.extended config' single⟩

/-- `MemoryPoolAlloc` of a size whose padded total does not wrap leaves the pool in order. -/
theorem memoryPoolAlloc_spec {wantsize : Nat} (sound : Sound mp blocks)
    (unwrapped : wantsize + 44 < 2 ^ 64) (placed : Placed (answered mp mallocs ++ mp.mlist))
    {result : Option Nat} (done : memoryPoolAlloc mp wantsize mallocs = some (mp', result)) :
    ∃ blocks', Served mp blocks (totalNeededSize wantsize) mp' result blocks' ∧
      Allotted mp (totalNeededSize wantsize) blocks result blocks' := by
  by_cases zero : wantsize = 0
  · rw [memoryPoolAlloc, if_pos zero] at done
    simp only [Option.some.injEq, Prod.mk.injEq] at done
    obtain ⟨rfl, rfl⟩ := done
    exact ⟨blocks, sound.unserved, .missed⟩
  · rw [memoryPoolAlloc, if_neg zero] at done
    by_cases large : mp.memPoolSize < totalNeededSize wantsize
    · rw [if_pos large] at done
      simp only [Option.some.injEq, Prod.mk.injEq] at done
      obtain ⟨rfl, rfl⟩ := done
      exact ⟨blocks, sound.unserved, .missed⟩
    · rw [if_neg large] at done
      have needed := totalNeededSize_eq unwrapped
      exact allocLoop_spec sound (by omega) (by omega) placed done

/-- The loop of `MemoryPoolAlloc` ends, with at most one answer of `malloc`. -/
theorem allocLoop_returns (sound : Sound mp blocks) (least : 40 < need)
    (enough : need ≤ mp.memPoolSize) (answer : Option Nat)
    (placed : Placed (answered mp (answer :: mallocs) ++ mp.mlist)) :
    ∃ result, allocLoop need mp (answer :: mallocs) = some result := by
  rcases sound.search least with missed | ⟨memory, mlist, p, -, -, found, -⟩
  · by_cases full : Full mp
    · exact ⟨_, allocLoop_full missed full⟩
    · cases answer with
      | none => exact ⟨_, allocLoop_null missed full⟩
      | some s =>
        obtain ⟨extended, mm, pieces, done, sound', -, config, once, -⟩ :=
          sound.extend least enough full placed
        rw [allocLoop_extended missed full done]
        rcases sound'.search least with missed' | ⟨memory, mlist, p, -, -, found, -⟩
        · exact ⟨_, allocLoop_full missed' (once missed')⟩
        · exact ⟨_, allocLoop_found found⟩
  · exact ⟨_, allocLoop_found found⟩

/-- `MemoryPoolAlloc` returns, with at most one answer of `malloc`. -/
theorem memoryPoolAlloc_returns {wantsize : Nat} (sound : Sound mp blocks)
    (unwrapped : wantsize + 44 < 2 ^ 64) (answer : Option Nat)
    (placed : Placed (answered mp (answer :: mallocs) ++ mp.mlist)) :
    ∃ result, memoryPoolAlloc mp wantsize (answer :: mallocs) = some result := by
  rw [memoryPoolAlloc]
  split
  · exact ⟨_, rfl⟩
  · split
    · exact ⟨_, rfl⟩
    · have needed := totalNeededSize_eq unwrapped
      exact allocLoop_returns sound (by omega) (by omega) answer placed

/-! ## Release -/

/-- A descriptor is written back into the blocks. -/
theorem updateBlock_middle {memory : Heap} {mm mm' : MPMemory} {pieces : List Piece}
    {front back : List (MPMemory × List Piece)}
    (order : Blocks memory (front ++ (mm, pieces) :: back)) (same : SameBlock mm mm')
    (pieces' : List Piece) :
    updateBlock ((front ++ (mm, pieces) :: back).map Prod.fst) mm' =
      (front ++ (mm', pieces') :: back).map Prod.fst := by
  obtain ⟨-, apartBack, across⟩ := List.pairwise_append.mp order.apart
  obtain ⟨behind, -⟩ := List.pairwise_cons.mp apartBack
  -- the other blocks start elsewhere
  have elsewhere {block : MPMemory × List Piece} (member : block ∈ front ++ (mm, pieces) :: back)
      (apart : block.1.Apart mm) : ¬block.1.start = mm'.start := by
    have room := order.room block member
    have room' := order.room (mm, pieces) (by simp)
    have first := same.1
    rw [MPMemory.Apart, MPMemory.stop, MPMemory.stop] at apart
    dsimp only at room'
    omega
  have frontIs : updateBlock (front.map Prod.fst) mm' = front.map Prod.fst := by
    rw [updateBlock, List.map_map]
    refine List.map_congr_left fun block member => if_neg (elsewhere ?_ ?_)
    · exact List.mem_append_left _ member
    · exact across block member (mm, pieces) List.mem_cons_self
  have backIs : updateBlock (back.map Prod.fst) mm' = back.map Prod.fst := by
    rw [updateBlock, List.map_map]
    refine List.map_congr_left fun block member => if_neg (elsewhere ?_ ?_)
    · exact List.mem_append_right _ (List.mem_cons_of_mem _ member)
    · exact (behind block member).symm
  rw [updateBlock] at frontIs backIs ⊢
  rw [List.map_append, List.map_append, frontIs, List.map_cons, List.map_cons, backIs,
    if_pos same.1.symm, List.map_append, List.map_cons]

/-- `MemoryPoolFree` of an allocated chunk, when its block is found and the merge stays in it. -/
theorem memoryPoolFree_spec {front back : List (MPMemory × List Piece)} {left right : List Piece}
    {chunk size : Nat}
    (sound : Sound mp (front ++ (mm, left ++ ⟨chunk, size, false⟩ :: right) :: back))
    (found : blockOf mp (chunk + 32) = some mm)
    (upTo : mm.memPoolSize = mp.memPoolSize ∨ ∃ piece ∈ right, piece.free = false) :
    ∃ mp' blocks', memoryPoolFree mp (chunk + 32) = some mp' ∧ Sound mp' blocks' ∧
      SameConfig mp mp' ∧
      SamePlaces (front ++ (mm, left ++ ⟨chunk, size, false⟩ :: right) :: back) blocks' ∧
      (allTaken (front ++ (mm, left ++ ⟨chunk, size, false⟩ :: right) :: back)).Perm
        (⟨chunk, size, false⟩ :: allTaken blocks') ∧
      (Settled (front ++ (mm, left ++ ⟨chunk, size, false⟩ :: right) :: back) → Settled blocks') := by
  have own : (mm, left ++ ⟨chunk, size, false⟩ :: right) ∈
      front ++ (mm, left ++ ⟨chunk, size, false⟩ :: right) :: back := by simp
  have reachable : Reachable mp.memory mm := sound.order.reach _ own
  have shorter : mm.memPoolSize ≤ mp.memPoolSize := sound.sizes _ own
  obtain ⟨frees, allocs, laid, marks⟩ : ∃ frees allocs,
      Laid mp.memory mm (left ++ ⟨chunk, size, false⟩ :: right) frees allocs ∧
      Marks mp.memory mm.stop 0 (left ++ ⟨chunk, size, false⟩ :: right) := by
    exact (sound.order.order _ own).laid_of_mem List.mem_append_cons_self
  obtain ⟨released, mm₁, allocs', done₁, laid₁, marks₁, same₁, agrees₁⟩ :=
    releaseChunk_spec reachable laid marks
  have reachable₁ : Reachable released mm₁ := (reachable.agrees agrees₁).same same₁
  have upTo₁ : mm₁.stop = mm₁.start + mp.memPoolSize ∨
      mm₁.stop ≤ mm₁.start + mp.memPoolSize ∧ ∃ piece ∈ right, piece.free = false := by
    have stopIs : mm₁.stop = mm₁.start + mm.memPoolSize := by rw [MPMemory.stop, same₁.2]
    rcases upTo with whole | behind
    · left
      omega
    · exact .inr ⟨by omega, behind⟩
  obtain ⟨merged, mm₂, pieces, frees₂, done₂, laid₂, marks₂, same₂, agrees₂, kept, merge⟩ :=
    mergeFreeChunk_spec reachable₁ laid₁ marks₁ upTo₁
  have same : SameBlock mm mm₂ := ⟨same₂.1.trans same₁.1, same₂.2.trans same₁.2⟩
  have agrees : Heap.Agrees (Beyond mm) mp.memory merged := by
    refine agrees₁.trans (agrees₂.mono fun place there => ?_)
    rw [Beyond, same₁.stop, same₁.1]
    exact there
  have order := sound.order.replace (.laid laid₂ marks₂) same agrees
  have places : SamePlaces (front ++ (mm, left ++ ⟨chunk, size, false⟩ :: right) :: back)
      (front ++ (mm₂, pieces) :: back) := by
    simp [SamePlaces, same.place]
  have list : updateBlock mp.mlist mm₂ = (front ++ (mm₂, pieces) :: back).map Prod.fst := by
    rw [sound.mlist]
    exact updateBlock_middle sound.order same pieces
  refine ⟨{ mp with memory := merged, mlist := updateBlock mp.mlist mm₂ },
    front ++ (mm₂, pieces) :: back, ?_,
    sound.keep order places ⟨agrees.low, agrees.high⟩ list, ⟨rfl, rfl, rfl⟩, places, ?_,
    fun settled block member => ?_⟩
  · refine Option.bind_eq_some_iff.mpr ⟨mm, found, ?_⟩
    refine Option.bind_eq_some_iff.mpr ⟨(released, mm₁), done₁, ?_⟩
    exact Option.bind_eq_some_iff.mpr ⟨(merged, mm₂), done₂, rfl⟩
  · rw [allTaken_middle, allTaken_middle, kept]
    have opened : taken (left ++ ⟨chunk, size, false⟩ :: right) =
        taken left ++ ⟨chunk, size, false⟩ :: taken right := by simp [taken]
    rw [opened]
    have moved : (taken left ++ ⟨chunk, size, false⟩ :: taken right ++ allTaken back).Perm
        (⟨chunk, size, false⟩ :: (taken left ++ taken right ++ allTaken back)) :=
      List.perm_middle.append_right _
    exact (moved.append_left _).trans List.perm_middle
  · rcases List.mem_append.mp member with member | member
    · exact settled block (List.mem_append_left _ member)
    · rcases List.mem_cons.mp member with rfl | member
      · exact merge (settled _ own)
      · exact settled block (List.mem_append_right _ (List.mem_cons_of_mem _ member))

/-! ## The pool as a whole -/

/-- `MemoryPoolClear` makes one free chunk of every block. -/
theorem clearLoop_spec {memory : Heap} (all : Blocks memory blocks) :
    ∃ later blocks', clearLoop memory (blocks.map Prod.fst) = some (later, blocks'.map Prod.fst) ∧
      Blocks later blocks' ∧ SamePlaces blocks blocks' ∧
      Heap.Agrees (BeyondAll blocks) memory later ∧ allTaken blocks' = [] ∧ Settled blocks' := by
  induction blocks generalizing memory with
  | nil => exact ⟨memory, [], rfl, all, rfl, .refl _ _, rfl, by simp [Settled]⟩
  | cons block rest ih =>
    obtain ⟨mm, pieces⟩ := block
    have reachable : Reachable memory mm := all.reach (mm, pieces) List.mem_cons_self
    have room : 32 ≤ mm.memPoolSize := all.room (mm, pieces) List.mem_cons_self
    obtain ⟨ahead, -⟩ := List.pairwise_cons.mp all.apart
    obtain ⟨first, mm', pieces', done, startIs, sizeIs, order, untaken, agrees, -, single⟩ :=
      mpInitMemoryStruct_spec mm reachable.opened reachable.bounded reachable.positive room
    have same : SameBlock mm mm' := ⟨startIs, sizeIs⟩
    have ahead' : ∀ other ∈ rest, mm'.Apart other.1 :=
      fun other member => (ahead other member).same same
    obtain ⟨later, rest', done', order', places, agrees', untaken', settled⟩ :=
      ih (all.tail.frame agrees fun other member place within =>
        (ahead' other member).symm.beyond within)
    have kept : Heap.Agrees (Within mm') first later :=
      agrees'.mono fun place within other member => (ahead' other member).beyond within
    refine ⟨later, (mm', pieces') :: rest', ?_, ?_, ?_, ?_, ?_, ?_⟩
    · rw [List.map_cons, clearLoop]
      refine Option.bind_eq_some_iff.mpr ⟨(first, mm'), done, ?_⟩
      exact Option.bind_eq_some_iff.mpr ⟨_, done', rfl⟩
    · refine order'.cons (order.frame kept) ?_ ?_ ?_
      · exact ((reachable.agrees agrees).agrees kept).same same
      · dsimp only
        rw [sizeIs]
        exact room
      · intro other member
        obtain ⟨former, known, place⟩ := places.of_mem member
        exact ((ahead' former known).symm.same place).symm
    · rw [SamePlaces] at places ⊢
      rw [List.map_cons, List.map_cons, places, same.place]
    · refine (agrees.mono fun place there => ?_).trans (agrees'.mono fun place there => ?_)
      · have beyond := there (mm, pieces) List.mem_cons_self
        rw [Beyond] at beyond ⊢
        rw [same.stop, startIs]
        exact beyond
      · exact fun other member => there other (List.mem_cons_of_mem _ member)
    · rw [allTaken_cons_fresh untaken, untaken']
    · intro block member
      rcases List.mem_cons.mp member with rfl | member
      · exact .single single
      · exact settled block member

/-- `MemoryPoolClear` leaves the pool in order, with nothing allocated. -/
theorem memoryPoolClear_spec (sound : Sound mp blocks) :
    ∃ mp' blocks', memoryPoolClear mp = some mp' ∧ Sound mp' blocks' ∧ SameConfig mp mp' ∧
      SamePlaces blocks blocks' ∧ allTaken blocks' = [] ∧ Settled blocks' := by
  obtain ⟨later, blocks', done, order, places, agrees, untaken, settled⟩ :=
    clearLoop_spec sound.order
  rw [← sound.mlist] at done
  exact ⟨{ mp with memory := later, mlist := blocks'.map Prod.fst }, blocks',
    Option.bind_eq_some_iff.mpr ⟨_, done, rfl⟩,
    sound.keep order places ⟨agrees.low, agrees.high⟩ rfl, ⟨rfl, rfl, rfl⟩, places, untaken, settled⟩

/-- A pool may be made at an address: the sizes are of eight bytes and have room for headers, and
the first block lies in the address space. -/
structure Makes (maxmempoolsize mempoolsize s : Nat) : Prop where
  /-- `mempoolsize` is no more than `maxmempoolsize`. -/
  le : mempoolsize ≤ maxmempoolsize
  /-- `mem_size_t`. -/
  fits : maxmempoolsize < 2 ^ 64
  /-- The first block has room for a header. -/
  room : 32 ≤ mempoolsize
  /-- The first extension has room for a header. -/
  extension : mempoolsize = maxmempoolsize ∨ mempoolsize + 32 ≤ maxmempoolsize
  /-- The first block does not begin at address zero. -/
  positive : 0 < s
  /-- The first block ends in the address space. -/
  inside : s + sizeofMemory + mempoolsize ≤ 2 ^ 64

/-- `MemoryPoolInit` makes a pool in order. -/
theorem memoryPoolInit_spec {maxmempoolsize mempoolsize s : Nat}
    (makes : Makes maxmempoolsize mempoolsize s) (uninitialised : Bool) (byte : Nat → UInt8) :
    ∃ mp blocks, memoryPoolInit maxmempoolsize mempoolsize uninitialised s byte = some mp ∧
      Sound mp blocks ∧ allTaken blocks = [] ∧ mp.memPoolSize = mempoolsize ∧
      mp.maxMemPoolSize = maxmempoolsize ∧ (mempoolsize < maxmempoolsize → mp.autoExtend = true) ∧
      blocks.map (fun block => block.1.place) = [(s + sizeofMemory, mempoolsize)] ∧
      Settled blocks := by
  have le := makes.le
  have fits := makes.fits
  have room := makes.room
  have positive := makes.positive
  have opened : Open ⟨byte, 0, 2 ^ 64⟩ (s + sizeofMemory) (s + sizeofMemory + mempoolsize) :=
    ⟨Nat.zero_le _, makes.inside⟩
  obtain ⟨later, mm, pieces, done, startIs, sizeIs, order, untaken, agrees, -, single⟩ :=
    mpInitMemoryStruct_spec (.fresh s 0) opened makes.inside (Nat.lt_of_lt_of_le positive
      (Nat.le_add_right _ _)) room
  have startIs' : mm.start = s + sizeofMemory := startIs
  have range : later.low = 0 ∧ later.high = 2 ^ 64 := ⟨agrees.low, agrees.high⟩
  have reach : Reachable later mm := by
    refine ⟨⟨?_, ?_⟩, ?_, by omega⟩
    · rw [range.1]
      exact Nat.zero_le _
    · rw [range.2, MPMemory.stop, startIs', sizeIs]
      exact makes.inside
    · rw [MPMemory.stop, startIs', sizeIs]
      exact makes.inside
  have empty : Blocks later [] := by
    refine ⟨?_, ?_, ?_, .nil⟩
    · simp
    · simp
    · simp
  refine ⟨{ lastId := 1
            autoExtend := if mempoolsize < maxmempoolsize then true else uninitialised
            memPoolSize := mempoolsize, totalMemPoolSize := mempoolsize
            maxMemPoolSize := maxmempoolsize, mlist := [mm], memory := later },
    [(mm, pieces)], ?_, ⟨rfl, ?_, range, ?_, ?_, ?_, le_rfl, le, fits⟩, ?_, rfl, rfl,
    fun less => if_pos less, ?_, ?_⟩
  · rw [memoryPoolInit, if_neg (by omega)]
    exact Option.bind_eq_some_iff.mpr ⟨(later, mm), done, rfl⟩
  · exact empty.cons order reach (by rw [sizeIs]; exact room) (by simp)
  · intro block member
    obtain rfl := List.mem_singleton.mp member
    exact le_of_eq sizeIs
  · rcases makes.extension with same | more
    · exact .inr (le_of_eq same.symm)
    · left
      rw [addMemSz]
      dsimp only
      rw [sub64_of_le le fits]
      split
      · exact room
      · omega
  · rw [sumOfSizes, List.map_singleton, List.sum_singleton, sizeIs]
  · rw [allTaken_cons_fresh untaken]
    rfl
  · rw [List.map_singleton, MPMemory.place, startIs', sizeIs]
  · intro block member
    obtain rfl := List.mem_singleton.mp member
    exact .single single

end

end UubangIot.MemoryPool
