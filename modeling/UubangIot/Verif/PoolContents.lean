import UubangIot.Verif.PoolRequests
import UubangIot.Verif.PoolTiling

/-!
# What allocations hold

The pool writes headers and footers and nothing else: the bytes of the user areas of the chunks
that stay allocated (`Areas`) are the same after every call. The other way round a client that
writes into its user area changes no header, no footer and no link.
-/

namespace UubangIot.MemoryPool

open ByteMemory DoublyLinked

/-- The bytes of the user areas of some chunks. -/
def Areas (pieces : List Piece) (place : Nat) : Prop :=
  ∃ piece ∈ pieces, piece.address + 32 ≤ place ∧ place + 8 < piece.address + piece.size

section

variable {memory later : Heap} {mm mm' : MPMemory} {pieces others left right rest : List Piece}
  {frees allocs front back : List Nat} {start stop place chunk size need : Nat} {piece : Piece}
  {free : Bool}

/-! ## Where user areas lie -/

/-- Some of the areas are areas. -/
theorem Areas.mono (fewer : ∀ piece ∈ others, piece ∈ pieces) (there : Areas others place) :
    Areas pieces place := by
  obtain ⟨piece, member, inside⟩ := there
  exact ⟨piece, fewer piece member, inside⟩

/-- An allocated piece is a piece. -/
theorem mem_of_taken (member : piece ∈ taken pieces) : piece ∈ pieces :=
  (List.mem_filter.mp member).1

/-- The header and the footer of a piece lie in no user area. -/
theorem Tiles.not_areas (tiles : Tiles stop start pieces) (member : piece ∈ pieces)
    (inside : piece.address ≤ place ∧ place < piece.address + piece.size)
    (edge : place < piece.address + 32 ∨ piece.address + piece.size ≤ place + 8) :
    ¬Areas pieces place := by
  rintro ⟨another, known, above, below⟩
  rcases tiles.apart member known with rfl | sides
  · omega
  · omega

/-- User areas lie off the links of all pieces. -/
theorem Tiles.offLinks_areas (tiles : Tiles stop start pieces) (there : Areas pieces place) :
    OffLinks (pieces.map Piece.address) place := by
  obtain ⟨piece, member, above, below⟩ := there
  exact tiles.offLinks member (by omega) (by omega)

/-- Links lie in no user area. -/
theorem Tiles.not_areas_of_onLinks (tiles : Tiles stop start pieces)
    (there : OnLinks (pieces.map Piece.address) place) : ¬Areas pieces place := by
  obtain ⟨node, member, above, below⟩ := there
  intro areas
  have off := tiles.offLinks_areas areas node member
  omega

/-- The user areas of the other pieces lie outside a piece. -/
theorem Tiles.areas_sides (tiles : Tiles stop start (left ++ ⟨chunk, size, free⟩ :: right))
    (there : Areas (left ++ right) place) : place < chunk ∨ chunk + size ≤ place := by
  obtain ⟨piece, member, above, below⟩ := there
  have sides := tiles.elsewhere member
  dsimp only at sides
  omega

/-- The allocated pieces are on the sides of a free one. -/
theorem areas_of_taken_free (there : Areas (taken (left ++ ⟨chunk, size, true⟩ :: right)) place) :
    Areas (left ++ right) place := by
  refine there.mono fun piece member => ?_
  rw [taken_free] at member
  rcases List.mem_append.mp member with member | member
  · exact List.mem_append_left _ (mem_of_taken member)
  · exact List.mem_append_right _ (mem_of_taken member)

/-! ## Allocation -/

/-- Allocating a free chunk whole writes links and one flag. -/
theorem wholeChunk_areas {freeList : Nat} (reachable : Reachable memory mm)
    (laid : Laid memory mm (left ++ ⟨chunk, size, true⟩ :: right) (front ++ chunk :: back) allocs)
    (done : wholeChunk memory mm.freeList chunk = some (later, freeList)) :
    Heap.Agrees (Areas (left ++ ⟨chunk, size, true⟩ :: right)) memory later := by
  obtain ⟨above, below, room⟩ := laid.tiles.middle
  obtain ⟨unlinked, freeList', deleted, -, agrees⟩ := laid.threads.del reachable.opened
  have opened : Open unlinked mm.start mm.stop := reachable.opened.agrees agrees
  have flagged : setIsFree unlinked chunk 0 = some (unlinked.put (chunk + 24) 4 0) :=
    setIsFree_eq opened above (by omega)
  rw [wholeChunk, deleted] at done
  simp only [Option.bind_eq_bind, Option.bind_some, flagged, Option.pure_def, Option.some.injEq,
    Prod.mk.injEq] at done
  obtain ⟨rfl, -⟩ := done
  have listed : ∀ node ∈ front ++ back,
      node ∈ (left ++ ⟨chunk, size, true⟩ :: right).map Piece.address := by
    intro node member
    apply laid.subset node
    apply List.mem_append_left
    rcases List.mem_append.mp member with member | member
    · exact List.mem_append_left _ member
    · exact List.mem_append_right _ (List.mem_cons_of_mem _ member)
  have links : Heap.Agrees (Areas (left ++ ⟨chunk, size, true⟩ :: right)) memory unlinked :=
    agrees.mono fun _ there => offLinks_mono listed (laid.tiles.offLinks_areas there)
  refine links.trans (Heap.agrees_put fun place there => ?_)
  have own : (⟨chunk, size, true⟩ : Piece) ∈ left ++ ⟨chunk, size, true⟩ :: right := by simp
  by_contra inside
  have edge : ¬Areas (left ++ ⟨chunk, size, true⟩ :: right) place := by
    apply laid.tiles.not_areas own
    · dsimp only
      omega
    · dsimp only
      omega
  exact edge there

/-- Splitting a free chunk writes inside it and to the links of others. -/
theorem splitChunk_areas {freeList : Nat} (reachable : Reachable memory mm)
    (laid : Laid memory mm (left ++ ⟨chunk, size, true⟩ :: right) (front ++ chunk :: back) allocs)
    (marks : Marks memory mm.stop 0 (left ++ ⟨chunk, size, true⟩ :: right))
    (least : 40 < need) (more : need + 40 < size)
    (done : splitChunk memory mm.freeList chunk need = some (later, freeList)) :
    Heap.Agrees (Areas (left ++ right)) memory later := by
  obtain ⟨halfway, done', halved⟩ := splitChunk_halved reachable laid marks least more
  rw [done'] at done
  simp only [Option.some.injEq, Prod.mk.injEq] at done
  obtain ⟨rfl, -⟩ := done
  refine halved.agrees.mono fun place there => ⟨laid.tiles.areas_sides there, ?_⟩
  have listed : ∀ node ∈ front ++ back,
      node ∈ (left ++ ⟨chunk, size, true⟩ :: right).map Piece.address := by
    intro node member
    apply laid.subset node
    apply List.mem_append_left
    rcases List.mem_append.mp member with member | member
    · exact List.mem_append_left _ member
    · exact List.mem_append_right _ (List.mem_cons_of_mem _ member)
  apply offLinks_mono listed
  apply laid.tiles.offLinks_areas
  exact there.mono fun piece member => mem_sides member

/-- A chunk is put into the allocated list by links alone. -/
theorem Prepared.insert_areas {freeList allocList : Nat}
    (prepared : Prepared memory mm freeList pieces frees allocs chunk)
    (reachable : Reachable memory mm)
    (done : mpDlinklistInsFrt memory mm.allocList chunk = some (later, allocList)) :
    Heap.Agrees (Areas pieces) memory later := by
  have perm : (chunk :: allocs ++ frees).Perm (pieces.map Piece.address) :=
    ((prepared.alloc.append prepared.free).trans List.perm_append_comm).trans (marked_perm pieces)
  have nodes : Nodes mm.start mm.stop (chunk :: allocs ++ frees) :=
    prepared.tiles.nodes.mono fun node member => perm.mem_iff.mp member
  have real : chunk ≠ 0 := by
    have inside := nodes.inside chunk (by simp)
    have positive := reachable.positive
    omega
  obtain ⟨linked, done', -, agrees⟩ :=
    prepared.threads.symm.ins reachable.opened reachable.bounded nodes
      (perm.nodup_iff.mpr prepared.tiles.nodup) real
  rw [done'] at done
  simp only [Option.some.injEq, Prod.mk.injEq] at done
  obtain ⟨rfl, -⟩ := done
  refine agrees.mono fun place there => offLinks_mono (fun node member => ?_)
    (prepared.tiles.offLinks_areas there)
  exact perm.mem_iff.mp (List.mem_append_left _ member)

/-- Allocating from a free chunk leaves the user areas of the allocated ones alone. -/
theorem takeChunk_areas {p : Nat} (reachable : Reachable memory mm)
    (laid : Laid memory mm pieces frees allocs) (marks : Marks memory mm.stop 0 pieces)
    (member : chunk ∈ frees) (enough : need ≤ sizeAt memory chunk) (least : 40 < need)
    (done : takeChunk memory mm chunk need = some (later, mm', p)) :
    Heap.Agrees (Areas (taken pieces)) memory later := by
  obtain ⟨⟨address, whole, free⟩, known, isFree, same⟩ :=
    mem_marked.mp (laid.free.mem_iff.mp member)
  dsimp only at isFree same
  subst isFree same
  obtain ⟨left, right, rfl⟩ := List.append_of_mem known
  obtain ⟨front, back, rfl⟩ := List.append_of_mem member
  have sizeIs : sizeAt memory address = whole := marks.sizes ⟨address, whole, true⟩ known
  rw [sizeIs] at enough
  obtain ⟨above, below, room⟩ := laid.tiles.middle
  have bounded := reachable.bounded
  have positive := reachable.positive
  have sized : allocMem memory address = some whole := by
    rw [allocMem_eq reachable.opened above (by omega), sizeIs]
  obtain ⟨prepared, freeList, pieces', frees', size, cut, order, apart, -, perm, -⟩ :=
    cutChunk_spec reachable laid marks enough least
  have reachable' : Reachable prepared mm := reachable.agrees apart
  obtain ⟨linked, inserted, -, -, apart'⟩ := order.insert reachable'
  have resized := allocMem_eq (reachable'.opened.agrees apart') above
    (show address + 32 ≤ mm.stop by omega)
  have same := (takeChunk_eq sized cut inserted resized).symm.trans done
  obtain rfl := congrArg Prod.fst (Option.some.inj same)
  have first : Heap.Agrees (Areas (left ++ right)) memory prepared := by
    rw [cutChunk, sub64_of_le enough (by omega), chunkHeader, chunkEnd] at cut
    by_cases more : 32 + 8 < whole - need
    · rw [if_pos more] at cut
      exact splitChunk_areas reachable laid marks least (by omega) cut
    · rw [if_neg more] at cut
      refine (wholeChunk_areas reachable laid cut).mono fun place there => ?_
      exact there.mono fun piece member => mem_sides member
  have second : Heap.Agrees (Areas pieces') prepared linked :=
    order.insert_areas reachable' inserted
  refine (first.mono fun _ there => areas_of_taken_free there).trans
    (second.mono fun _ there => there.mono fun piece member => ?_)
  exact mem_of_taken (perm.mem_iff.mpr (List.mem_cons_of_mem _ member))

variable {blocks blocks' : List (MPMemory × List Piece)} {mp mp' : Pool} {mlist : List MPMemory}

/-- User areas of the first block's chunks and of the others'. -/
theorem areas_allTaken_cons
    (there : Areas (allTaken ((mm, pieces) :: blocks)) place) :
    Areas (taken pieces) place ∨ Areas (allTaken blocks) place := by
  obtain ⟨piece, member, inside⟩ := there
  rw [allTaken, List.flatMap_cons, List.mem_append, ← allTaken] at member
  exact member.imp (fun member => ⟨piece, member, inside⟩) fun member => ⟨piece, member, inside⟩

/-- The user areas of allocated pieces lie in their block. -/
theorem InOrder.areas_within (order : InOrder memory mm pieces)
    (there : Areas (taken pieces) place) : Within mm place := by
  obtain ⟨piece, member, above, below⟩ := there
  have bounds := order.within member
  rw [Within]
  omega

/-- The user areas of other blocks lie beyond a block. -/
theorem Blocks.areas_beyond (all : Blocks memory ((mm, pieces) :: blocks))
    (there : Areas (allTaken blocks) place) : Beyond mm place := by
  obtain ⟨piece, member, inside⟩ := there
  obtain ⟨block, known, taken'⟩ := mem_allTaken.mp member
  obtain ⟨apart, -⟩ := List.pairwise_cons.mp all.apart
  have order := all.order block (List.mem_cons_of_mem _ known)
  have within : Within block.1 place := order.areas_within ⟨piece, taken', inside⟩
  exact (apart block known).symm.beyond within

/-- The search that allocates a chunk leaves the user areas of the allocated ones alone. -/
theorem findFreeChunk_areas {memPoolSize p : Nat} (all : Blocks memory blocks) (least : 40 < need)
    (done : findFreeChunk memPoolSize need memory (blocks.map Prod.fst) =
      some (some (later, mlist, p))) :
    Heap.Agrees (Areas (allTaken blocks)) memory later := by
  induction blocks generalizing mlist with
  | nil => simp [findFreeChunk] at done
  | cons block rest ih =>
    obtain ⟨mm, pieces⟩ := block
    have reachable := all.reach (mm, pieces) List.mem_cons_self
    have order : InOrder memory mm pieces := all.order (mm, pieces) List.mem_cons_self
    obtain ⟨found, searched, right⟩ := searchBlock_spec memPoolSize reachable order least
    rw [List.map_cons, findFreeChunk, searched, Option.bind_eq_bind, Option.bind_some] at done
    cases found with
    | some free =>
      obtain ⟨frees, allocs, laid, marks, member, enough⟩ := right free rfl
      obtain ⟨next, mm', pieces', frees', allocs', size, taken', -, -, -, agrees, -⟩ :=
        takeChunk_spec reachable laid marks member enough least
      have own : Heap.Agrees (Areas (taken pieces)) memory next :=
        takeChunk_areas reachable laid marks member enough least taken'
      dsimp only at done
      rw [taken'] at done
      simp only [Option.bind_eq_bind, Option.bind_some, Option.pure_def, Option.some.injEq,
        Prod.mk.injEq] at done
      obtain ⟨rfl, -⟩ := done
      exact (own.either agrees).mono fun place there =>
        (areas_allTaken_cons there).imp_right all.areas_beyond
    | none =>
      obtain ⟨found, searched', right'⟩ := findFreeChunk_spec memPoolSize all.tail least
      dsimp only at done
      rw [searched'] at done
      obtain ⟨⟨later', mlist', p'⟩, same, result⟩ :=
        Option.map_eq_some_iff.mp (Option.some.inj done)
      simp only [Prod.mk.injEq] at result
      obtain ⟨rfl, -, rfl⟩ := result
      subst same
      obtain ⟨blocks', piece, granted, -⟩ := right' _ _ _ rfl
      have others : Heap.Agrees (Areas (allTaken rest)) memory later' := ih all.tail searched'
      refine (granted.agrees.either others).mono fun place there => ?_
      refine (areas_allTaken_cons there).imp_left fun own other member => ?_
      obtain ⟨apart, -⟩ := List.pairwise_cons.mp all.apart
      exact (apart other member).beyond (order.areas_within own)

/-- An extension writes a header outside all blocks. -/
theorem Sound.extend_areas {s : Nat} {mallocs : List (Option Nat)} (sound : Sound mp blocks)
    (placed : Placed (answered mp (some s :: mallocs) ++ mp.mlist))
    (growing : ¬Full mp) (done : extendMemoryList mp (addMemSz mp) s = some mp') :
    Heap.Agrees (Areas (allTaken blocks)) mp.memory mp'.memory := by
  have room : 32 ≤ addMemSz mp := by
    rcases sound.extendable with room | full
    · exact room
    · exact absurd (.inr full) growing
  have high : s + sizeofMemory + chunkHeader ≤ 2 ^ 64 := by
    have placed' := placed
    rw [answered_cons s ⟨rfl, rfl, rfl⟩, List.append_assoc, List.singleton_append] at placed'
    have inside := (placed'.1 { MPMemory.fresh s 0 with memPoolSize := addMemSz mp } (by simp)).2
    rw [MPMemory.stop, MPMemory.fresh] at inside
    rw [chunkHeader]
    dsimp only at inside
    omega
  obtain ⟨extended, mm, extended', -, -, -, -, -, -, agrees, clear⟩ :=
    extendMemoryList_headed sound.range placed high
  obtain rfl := Option.some.inj (extended'.symm.trans done)
  refine agrees.mono fun place there => ?_
  obtain ⟨piece, member, inside⟩ := there
  obtain ⟨block, known, taken'⟩ := mem_allTaken.mp member
  have within : Within block.1 place :=
    (sound.order.order block known).areas_within ⟨piece, taken', inside⟩
  have sides := clear block.1 (by rw [sound.mlist]; exact List.mem_map_of_mem known)
  rw [Within] at within
  omega

/-- The loop of `MemoryPoolAlloc` leaves the user areas of the allocated chunks alone. -/
theorem allocLoop_areas {mallocs : List (Option Nat)} {result : Option Nat}
    (sound : Sound mp blocks) (least : 40 < need) (enough : need ≤ mp.memPoolSize)
    (placed : Placed (answered mp mallocs ++ mp.mlist))
    (done : allocLoop need mp mallocs = some (mp', result)) :
    Heap.Agrees (Areas (allTaken blocks)) mp.memory mp'.memory := by
  induction mallocs generalizing mp blocks with
  | nil =>
    rcases sound.search least with missed | ⟨memory, mlist, p, -, -, found, -⟩
    · by_cases full : Full mp
      · rw [allocLoop_full missed full] at done
        simp only [Option.some.injEq, Prod.mk.injEq] at done
        obtain ⟨rfl, -⟩ := done
        exact .refl _ _
      · rw [allocLoop_nil missed full] at done
        contradiction
    · rw [allocLoop_found found] at done
      simp only [Option.some.injEq, Prod.mk.injEq] at done
      obtain ⟨rfl, -⟩ := done
      rw [sound.mlist] at found
      exact findFreeChunk_areas sound.order least found
  | cons answer mallocs ih =>
    rcases sound.search least with missed | ⟨memory, mlist, p, -, -, found, -⟩
    · by_cases full : Full mp
      · rw [allocLoop_full missed full] at done
        simp only [Option.some.injEq, Prod.mk.injEq] at done
        obtain ⟨rfl, -⟩ := done
        exact .refl _ _
      · cases answer with
        | none =>
          rw [allocLoop_null missed full] at done
          simp only [Option.some.injEq, Prod.mk.injEq] at done
          obtain ⟨rfl, -⟩ := done
          exact .refl _ _
        | some s =>
          obtain ⟨extended, mm, pieces, done', sound', untaken, config, -, -, placed', -⟩ :=
            sound.extend least enough full placed
          have first := sound.extend_areas placed full done'
          rw [allocLoop_extended missed full done'] at done
          have second := ih sound' (by rw [config.size]; exact enough) placed' done
          rw [allTaken_cons_fresh untaken] at second
          exact first.trans second
    · rw [allocLoop_found found] at done
      simp only [Option.some.injEq, Prod.mk.injEq] at done
      obtain ⟨rfl, -⟩ := done
      rw [sound.mlist] at found
      exact findFreeChunk_areas sound.order least found

/-- `MemoryPoolAlloc` leaves the user areas of the allocated chunks alone. -/
theorem memoryPoolAlloc_areas {wantsize : Nat} {mallocs : List (Option Nat)} {result : Option Nat}
    (sound : Sound mp blocks) (unwrapped : wantsize + 44 < 2 ^ 64)
    (placed : Placed (answered mp mallocs ++ mp.mlist))
    (done : memoryPoolAlloc mp wantsize mallocs = some (mp', result)) :
    Heap.Agrees (Areas (allTaken blocks)) mp.memory mp'.memory := by
  rw [memoryPoolAlloc] at done
  by_cases zero : wantsize = 0
  · rw [if_pos zero] at done
    simp only [Option.some.injEq, Prod.mk.injEq] at done
    obtain ⟨rfl, -⟩ := done
    exact .refl _ _
  · rw [if_neg zero] at done
    by_cases large : mp.memPoolSize < totalNeededSize wantsize
    · rw [if_pos large] at done
      simp only [Option.some.injEq, Prod.mk.injEq] at done
      obtain ⟨rfl, -⟩ := done
      exact .refl _ _
    · rw [if_neg large] at done
      have needed := totalNeededSize_eq unwrapped
      exact allocLoop_areas sound (by omega) (by omega) placed done

/-! ## Release -/

/-- The release of a chunk writes links and one flag. -/
theorem releaseChunk_areas (reachable : Reachable memory mm)
    (laid : Laid memory mm (left ++ ⟨chunk, size, false⟩ :: right) frees allocs)
    (done : releaseChunk memory mm chunk = some (later, mm')) :
    Heap.Agrees (Areas (left ++ right)) memory later := by
  obtain ⟨above, below, room⟩ := laid.tiles.middle
  have positive := reachable.positive
  have listed : chunk ∈ allocs := by
    refine laid.alloc.mem_iff.mpr (mem_marked.mpr ⟨⟨chunk, size, false⟩, ?_, rfl, rfl⟩)
    simp
  obtain ⟨front, back, rfl⟩ := List.append_of_mem listed
  have perm : (chunk :: frees ++ (front ++ back)).Perm (frees ++ (front ++ chunk :: back)) := by
    have moved : (frees ++ (front ++ chunk :: back)).Perm (frees ++ chunk :: (front ++ back)) :=
      List.perm_middle.append_left frees
    exact (moved.trans List.perm_middle).symm
  obtain ⟨unlinked, allocList, deleted, threads, agrees⟩ :=
    laid.threads.symm.del reachable.opened
  have nodes : Nodes mm.start mm.stop (chunk :: frees ++ (front ++ back)) :=
    laid.threads.nodes.mono fun node member => perm.mem_iff.mp member
  obtain ⟨relinked, inserted, -, agrees'⟩ :=
    threads.symm.ins (reachable.opened.agrees agrees) reachable.bounded nodes
      (perm.nodup_iff.mpr laid.threads.distinct) (by omega)
  have opened : Open relinked mm.start mm.stop :=
    (reachable.opened.agrees agrees).agrees agrees'
  have flagged : setIsFree relinked chunk 1 = some (relinked.put (chunk + 24) 4 1) :=
    setIsFree_eq opened above (by omega)
  rw [releaseChunk, deleted] at done
  simp only [Option.bind_eq_bind, Option.bind_some, inserted, flagged] at done
  obtain ⟨size', -, done⟩ := Option.bind_eq_some_iff.mp done
  obtain rfl := congrArg Prod.fst (Option.some.inj done)
  have whole : ∀ piece ∈ left ++ right, piece ∈ left ++ ⟨chunk, size, false⟩ :: right :=
    fun piece member => mem_sides member
  have off {place : Nat} (there : Areas (left ++ right) place) :
      OffLinks ((left ++ ⟨chunk, size, false⟩ :: right).map Piece.address) place :=
    laid.tiles.offLinks_areas (there.mono whole)
  refine ((agrees.mono fun place there => ?_).trans (agrees'.mono fun place there => ?_)).trans
    (Heap.agrees_put fun place there => ?_)
  · refine offLinks_mono (fun node member => laid.subset node (perm.mem_iff.mp ?_)) (off there)
    exact List.mem_append_right _ member
  · refine offLinks_mono (fun node member => laid.subset node (perm.mem_iff.mp ?_)) (off there)
    exact List.mem_append_left _ member
  · have sides := laid.tiles.areas_sides there
    omega

variable {freeList limit p0 p1 size' fuel : Nat}

/-- One free chunk is taken in, whatever the limit past it: links and a size are written. -/
theorem mergeForwardLoop_areas_step (reachable : Reachable memory mm)
    (merging : Merging memory mm freeList p1
      (left ++ ⟨p1, size, true⟩ :: ⟨p0, size', true⟩ :: right) frees allocs) :
    ∃ next freeList' frees', (∀ limit fuel, p0 < limit →
        mergeForwardLoop limit p1 (fuel + 1) memory freeList p0 =
          mergeForwardLoop limit p1 fuel next freeList' (p0 + size')) ∧
      Merging next mm freeList' p1 (left ++ ⟨p1, size + size', true⟩ :: right) frees' allocs ∧
      Heap.Agrees (Beyond mm) memory next ∧ Heap.Agrees (Areas (left ++ right)) memory next := by
  have second : (⟨p0, size', true⟩ : Piece) ∈
      left ++ ⟨p1, size, true⟩ :: ⟨p0, size', true⟩ :: right := by simp
  have first : (⟨p1, size, true⟩ : Piece) ∈
      left ++ ⟨p1, size, true⟩ :: ⟨p0, size', true⟩ :: right := by simp
  have room : 40 ≤ size := (merging.tiles.bounds first).2.2
  have room' : 40 ≤ size' := (merging.tiles.bounds second).2.2
  obtain ⟨touch, joined⟩ := merging.tiles.join
  obtain ⟨above, below, -⟩ := merging.tiles.middle
  obtain ⟨-, below', -⟩ := joined.middle
  have listed : p0 ∈ frees := merging.free.mem_iff.mpr (mem_marked.mpr ⟨_, second, rfl, rfl⟩)
  obtain ⟨front, back, rfl⟩ := List.append_of_mem listed
  obtain ⟨unlinked, freeList'', deleted, -, agrees⟩ := merging.threads.del reachable.opened
  have headers : ∀ node ∈ front ++ back,
      node ∈ (left ++ ⟨p1, size, true⟩ :: ⟨p0, size', true⟩ :: right).map Piece.address := by
    intro node member
    apply marked_subset
    apply merging.free.mem_iff.mp
    rcases List.mem_append.mp member with member | member
    · exact List.mem_append_left _ member
    · exact List.mem_append_right _ (List.mem_cons_of_mem _ member)
  have marks := merging.marks.links merging.tiles
    (agrees.mono fun _ there => offLinks_mono headers there)
  have opened : Open unlinked mm.start mm.stop := reachable.opened.agrees agrees
  have opened' (number : Nat) : Open (unlinked.put p1 8 number) mm.start mm.stop := opened
  have flag : isFree memory p0 = some 1 :=
    merging.marks.isFree reachable.opened merging.tiles ⟨p0, size', true⟩ second
  have own : allocMem unlinked p1 = some size :=
    marks.allocMem opened merging.tiles ⟨p1, size, true⟩ first
  have next : allocMem unlinked p0 = some size' :=
    marks.allocMem opened merging.tiles ⟨p0, size', true⟩ second
  have stored (number : Nat) : setAllocMem unlinked p1 number = some (unlinked.put p1 8 number) :=
    setAllocMem_eq opened above (by omega)
  have sized (number : Nat) : allocMem (unlinked.put p1 8 number) p0 = some size' := by
    have old : sizeAt unlinked p0 = size' := marks.sizes ⟨p0, size', true⟩ second
    rw [allocMem_eq (opened' number) (by omega) (by omega)]
    exact congrArg some ((Heap.value_put_of_disjoint (by omega)).trans old)
  have round (limit fuel : Nat) (before : p0 < limit) :
      mergeForwardLoop limit p1 (fuel + 1) memory freeList p0 =
        mergeForwardLoop limit p1 fuel (unlinked.put p1 8 (add64 size size')) freeList''
          (p0 + size') := by
    rw [mergeForwardLoop, if_neg (by omega), flag]
    simp only [Option.bind_eq_bind, Option.bind_some, deleted, own, next, stored, sized]
    rw [if_neg (by decide)]
  -- a loop whose limit lies before the next chunk stops after this round, and so shows its memory
  have short : ∃ after freeList' frees', mergeForwardLoop (p0 + 1) p1 (1 + 1) memory freeList p0 =
        mergeForwardLoop (p0 + 1) p1 1 after freeList' (p0 + size') ∧
      Merging after mm freeList' p1 (left ++ ⟨p1, size + size', true⟩ :: right) frees' allocs ∧
      Heap.Agrees (Beyond mm) memory after :=
    mergeForwardLoop_step reachable merging (Nat.lt_succ_self p0)
  obtain ⟨after, freeList', frees', stepped, merging', beyond⟩ := short
  have stops (memory : Heap) (freeList : Nat) :
      mergeForwardLoop (p0 + 1) p1 1 memory freeList (p0 + size') = some (memory, freeList) := by
    rw [mergeForwardLoop, if_pos (by omega)]
  rw [round (p0 + 1) 1 (Nat.lt_succ_self p0), stops, stops] at stepped
  obtain ⟨rfl, rfl⟩ := Prod.mk.inj (Option.some.inj stepped)
  refine ⟨_, _, frees', round, merging', beyond, ?_⟩
  refine (agrees.mono fun place there => ?_).trans (Heap.agrees_put fun place there => ?_)
  · apply offLinks_mono headers
    apply merging.tiles.offLinks_areas
    exact there.mono fun piece member => mem_around member
  · have sides := joined.areas_sides there
    omega

/-- An allocated piece is not a free one. -/
theorem areas_taken_append (there : Areas (taken left ++ taken right) place) :
    Areas (left ++ right) place := by
  refine there.mono fun piece member => ?_
  rcases List.mem_append.mp member with member | member
  · exact List.mem_append_left _ (mem_of_taken member)
  · exact List.mem_append_right _ (mem_of_taken member)

/-- The second loop of `merge_free_chunk` leaves the user areas of the allocated chunks alone. -/
theorem mergeForwardLoop_areas {freeList' : Nat} (reachable : Reachable memory mm)
    (merging : Merging memory mm freeList p1 (left ++ ⟨p1, size, true⟩ :: rest) frees allocs)
    (upTo : mm.stop = limit ∨ mm.stop ≤ limit ∧ ∃ piece ∈ rest, piece.free = false)
    (done : mergeForwardLoop limit p1 fuel memory freeList (p1 + size) = some (later, freeList')) :
    Heap.Agrees (Areas (taken left ++ taken rest)) memory later := by
  induction rest generalizing memory freeList size frees fuel with
  | nil =>
    have last : p1 + size = mm.stop := merging.tiles.around.2.2
    have ends : mm.stop = limit := by simpa using upTo
    cases fuel with
    | zero => simp [mergeForwardLoop] at done
    | succ fuel =>
      rw [mergeForwardLoop, if_pos (by omega)] at done
      obtain rfl := congrArg Prod.fst (Option.some.inj done)
      exact .refl _ _
  | cons piece rest ih =>
    obtain ⟨p0, size', free⟩ := piece
    have member : (⟨p0, size', free⟩ : Piece) ∈
        left ++ ⟨p1, size, true⟩ :: ⟨p0, size', free⟩ :: rest := by simp
    have bounds : mm.start ≤ p0 ∧ p0 + size' ≤ mm.stop ∧ 40 ≤ size' := merging.tiles.bounds member
    have reaches : mm.stop ≤ limit := by
      rcases upTo with same | ⟨reaches, -⟩
      · exact le_of_eq same
      · exact reaches
    obtain ⟨rfl, -⟩ := merging.tiles.join
    cases fuel with
    | zero => simp [mergeForwardLoop] at done
    | succ fuel =>
      cases free with
      | false =>
        have flag : isFree memory (p1 + size) = some 0 :=
          merging.marks.isFree reachable.opened merging.tiles ⟨p1 + size, size', false⟩ member
        rw [mergeForwardLoop, if_neg (by omega), flag, Option.bind_eq_bind, Option.bind_some,
          if_pos rfl] at done
        obtain rfl := congrArg Prod.fst (Option.some.inj done)
        exact .refl _ _
      | true =>
        obtain ⟨next, freeList'', frees', round, merging', beyond, areas⟩ :=
          mergeForwardLoop_areas_step reachable merging
        rw [round limit fuel (by omega), Nat.add_assoc] at done
        have upTo' : mm.stop = limit ∨ mm.stop ≤ limit ∧ ∃ piece ∈ rest, piece.free = false := by
          rcases upTo with same | ⟨-, piece, among, alloc⟩
          · exact .inl same
          · rcases List.mem_cons.mp among with rfl | among
            · contradiction
            · exact .inr ⟨reaches, piece, among, alloc⟩
        have later := ih (reachable.agrees beyond) merging' upTo' done
        have same : taken (⟨p1 + size, size', true⟩ :: rest) = taken rest :=
          taken_free [] rest (p1 + size) size'
        rw [same]
        exact (areas.mono fun _ there => areas_taken_append there).trans later

/-- `merge_free_chunk` leaves the user areas of the allocated chunks alone. -/
theorem mergeFreeChunk_areas (reachable : Reachable memory mm)
    (laid : Laid memory mm (left ++ ⟨chunk, size, true⟩ :: right) frees allocs)
    (marks : Marks memory mm.stop 0 (left ++ ⟨chunk, size, true⟩ :: right))
    (upTo : mm.stop = mm.start + mp.memPoolSize ∨
      mm.stop ≤ mm.start + mp.memPoolSize ∧ ∃ piece ∈ right, piece.free = false)
    (done : mergeFreeChunk mp memory mm chunk = some (later, mm')) :
    Heap.Agrees (Areas (taken left ++ taken right)) memory later := by
  obtain ⟨outer, run, p1, first, whole, all, length, back, sized, -⟩ :=
    mergeBack_spec reachable laid marks
  have kept : taken outer ++ taken (run ++ right) = taken left ++ taken right := by
    rw [← taken_free outer (run ++ right) p1 first, ← whole, taken_free]
  have merging := laid.merging marks reachable.positive p1
  rw [whole] at merging length
  have upTo' : mm.stop = mm.start + mp.memPoolSize ∨ mm.stop ≤ mm.start + mp.memPoolSize ∧
      ∃ piece ∈ run ++ right, piece.free = false := by
    rcases upTo with same | ⟨reaches, piece, member, alloc⟩
    · exact .inl same
    · exact .inr ⟨reaches, piece, List.mem_append_right _ member, alloc⟩
  rw [List.length_append, List.length_cons] at length
  obtain ⟨merged, freeList, last, rest, frees', forward, merging', agrees, same, -⟩ :=
    mergeForwardLoop_spec reachable merging upTo'
      (show (run ++ right).length < mm.memPoolSize + 1 by omega)
  have areas := mergeForwardLoop_areas reachable merging upTo' forward
  obtain ⟨above, below, room⟩ := merging'.tiles.middle
  have opened : Open merged mm.start mm.stop := reachable.opened.agrees agrees
  have resized : allocMem merged p1 = some last :=
    merging'.marks.allocMem opened merging'.tiles ⟨p1, last, true⟩ (by simp)
  have footed : setFooter merged (p1 + last) p1 = some (merged.put (p1 + last - 8) 8 p1) :=
    setFooter_eq opened (by omega) (by omega)
  rw [mergeFreeChunk, back, Option.bind_eq_bind, Option.bind_some, sized, Option.bind_eq_bind,
    Option.bind_some, forward, Option.bind_eq_bind, Option.bind_some] at done
  simp only [resized, Option.bind_some, footed, Option.pure_def] at done
  obtain rfl := congrArg Prod.fst (Option.some.inj done)
  rw [kept] at areas
  refine areas.trans (Heap.agrees_put fun place there => ?_)
  have there' : Areas (outer ++ rest) place := by
    apply areas_taken_append
    rw [same, kept]
    exact there
  have sides := merging'.tiles.areas_sides there'
  omega

/-- `MemoryPoolFree` leaves the user areas of the other allocated chunks alone. -/
theorem memoryPoolFree_areas {front back : List (MPMemory × List Piece)}
    (sound : Sound mp (front ++ (mm, left ++ ⟨chunk, size, false⟩ :: right) :: back))
    (found : blockOf mp (chunk + 32) = some mm)
    (upTo : mm.memPoolSize = mp.memPoolSize ∨ ∃ piece ∈ right, piece.free = false)
    (done : memoryPoolFree mp (chunk + 32) = some mp') :
    Heap.Agrees (fun place => Areas (taken left ++ taken right) place ∨ Beyond mm place)
      mp.memory mp'.memory := by
  have own : (mm, left ++ ⟨chunk, size, false⟩ :: right) ∈
      front ++ (mm, left ++ ⟨chunk, size, false⟩ :: right) :: back := by simp
  have reachable : Reachable mp.memory mm := sound.order.reach _ own
  have shorter : mm.memPoolSize ≤ mp.memPoolSize := sound.sizes _ own
  obtain ⟨frees, allocs, laid, marks⟩ : ∃ frees allocs,
      Laid mp.memory mm (left ++ ⟨chunk, size, false⟩ :: right) frees allocs ∧
      Marks mp.memory mm.stop 0 (left ++ ⟨chunk, size, false⟩ :: right) := by
    exact (sound.order.order _ own).laid_of_mem List.mem_append_cons_self
  obtain ⟨released, mm₁, allocs', done₁, laid₁, marks₁, same₁, agrees₁⟩ :=
    releaseChunk_spec reachable laid marks
  have reachable₁ : Reachable released mm₁ := (reachable.agrees agrees₁).same same₁
  have upTo₁ : mm₁.stop = mm₁.start + mp.memPoolSize ∨
      mm₁.stop ≤ mm₁.start + mp.memPoolSize ∧ ∃ piece ∈ right, piece.free = false := by
    have stopIs : mm₁.stop = mm₁.start + mm.memPoolSize := by rw [MPMemory.stop, same₁.2]
    rcases upTo with whole | behind
    · left
      omega
    · exact .inr ⟨by omega, behind⟩
  obtain ⟨merged, mm₂, pieces, frees₂, done₂, laid₂, marks₂, same₂, agrees₂, -⟩ :=
    mergeFreeChunk_spec reachable₁ laid₁ marks₁ upTo₁
  have first : Heap.Agrees (Areas (taken left ++ taken right)) mp.memory released :=
    (releaseChunk_areas reachable laid done₁).mono fun _ there => areas_taken_append there
  have second : Heap.Agrees (Areas (taken left ++ taken right)) released merged :=
    mergeFreeChunk_areas reachable₁ laid₁ marks₁ upTo₁ done₂
  have beyond : Heap.Agrees (Beyond mm) mp.memory merged := by
    refine agrees₁.trans (agrees₂.mono fun place there => ?_)
    rw [Beyond, same₁.stop, same₁.1]
    exact there
  rw [memoryPoolFree, found, Option.bind_eq_bind, Option.bind_some] at done
  have called : chunk + 32 - chunkHeader = chunk := Nat.add_sub_cancel _ _
  rw [called, done₁, Option.bind_eq_bind, Option.bind_some] at done
  simp only [done₂, Option.bind_some, Option.pure_def] at done
  obtain rfl := Option.some.inj done
  exact (first.trans second).either beyond

/-! ## Writes of clients -/

/-- Headers and footers stay while only user areas change. -/
theorem Marks.write {except : Nat} (marks : Marks memory mm.stop except pieces)
    (tiles : Tiles mm.stop mm.start pieces)
    (agrees : Heap.Agrees (fun place => Within mm place ∧ ¬Areas pieces place) memory later) :
    Marks later mm.stop except pieces where
  sizes piece member := by
    have bounds := tiles.bounds member
    rw [← marks.sizes piece member]
    refine agrees.value fun place above below => ⟨⟨by omega, by omega⟩, ?_⟩
    exact tiles.not_areas member (by omega) (by omega)
  flags piece member := by
    have bounds := tiles.bounds member
    rw [← marks.flags piece member]
    refine agrees.value fun place above below => ⟨⟨by omega, by omega⟩, ?_⟩
    exact tiles.not_areas member (by omega) (by omega)
  feet piece member other followed := by
    have bounds := tiles.bounds member
    refine Eq.trans ?_ (marks.feet piece member other followed)
    refine agrees.value fun place above below => ⟨⟨by omega, by omega⟩, ?_⟩
    exact tiles.not_areas member (by omega) (by omega)

/-- A block stays in order while only user areas of allocated chunks change. -/
theorem InOrder.write (order : InOrder memory mm pieces)
    (agrees : Heap.Agrees (fun place => Within mm place ∧ ¬Areas (taken pieces) place)
      memory later) : InOrder later mm pieces := by
  cases order with
  | laid laid marks =>
    have agrees' : Heap.Agrees (fun place => Within mm place ∧ ¬Areas pieces place)
        memory later := agrees.mono fun place there => ⟨there.1, fun areas => there.2 (areas.mono
      fun piece member => mem_of_taken member)⟩
    refine .laid ⟨laid.tiles, laid.threads.frame (agrees'.mono fun place there => ⟨?_, ?_⟩),
      laid.free, laid.alloc, laid.allocMem, laid.allocProgMem⟩ (marks.write laid.tiles agrees')
    · exact laid.threads.nodes.within there
    · exact laid.tiles.not_areas_of_onLinks (onLinks_mono laid.subset there)
  | idle room small unused listed sized last =>
    have none (place : Nat) : ¬Areas (taken []) place := by
      rintro ⟨piece, member, -⟩
      simp [taken] at member
    have idle : InOrder memory mm [] := .idle room small unused listed sized last
    exact idle.frame (agrees.mono fun place there => ⟨there, none place⟩)

/-- Blocks stay in order while only user areas of allocated chunks change. -/
theorem Blocks.write (all : Blocks memory blocks)
    (agrees : Heap.Agrees (fun place => ¬Areas (allTaken blocks) place) memory later) :
    Blocks later blocks where
  order block member := by
    refine (all.order block member).write (agrees.mono fun place there areas => there.2 ?_)
    obtain ⟨piece, among, inside⟩ := areas
    obtain ⟨other, known, taken'⟩ := mem_allTaken.mp among
    have within : Within other.1 place :=
      (all.order other known).areas_within ⟨piece, taken', inside⟩
    obtain rfl := all.unique member known there.1 within
    exact ⟨piece, taken', inside⟩
  reach block member := (all.reach block member).agrees agrees
  room := all.room
  apart := all.apart

/-- A pool stays in order while only user areas of allocated chunks change. -/
theorem Sound.write (sound : Sound mp blocks)
    (agrees : Heap.Agrees (fun place => ¬Areas (allTaken blocks) place) mp.memory later) :
    Sound { mp with memory := later } blocks where
  mlist := sound.mlist
  order := sound.order.write agrees
  range := by
    dsimp only
    rw [agrees.low, agrees.high]
    exact sound.range
  sizes := sound.sizes
  extendable := sound.extendable
  total := sound.total
  base := sound.base
  config := sound.config

/-- The user area of a live allocation. -/
theorem Kept.areas {state : PoolState} {allocation : Nat × Nat} {offset : Nat}
    (kept : Kept state blocks) (live : allocation ∈ state.live) (inside : offset < allocation.2) :
    Areas (allTaken blocks) (allocation.1 + offset) := by
  obtain ⟨piece, member, pointer, enough⟩ := kept.booked.homes allocation live
  exact ⟨piece, member, by omega, by omega⟩

end

end UubangIot.MemoryPool
