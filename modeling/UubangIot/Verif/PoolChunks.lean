import Mathlib.Data.List.Perm.Basic
import UubangIot.Lib.DoublyLinked
import UubangIot.Server.MemoryPool

/-!
# Chunks of a block

What the memory of a block says when it is in order: its chunks lie one after the other from the
start to the stop of the block (`Tiles`), their headers are right, the two lists thread the free
and the allocated ones (`Laid`), and a chunk with another behind it ends with its own address
(`Footed`). The two list operations of the pool are told by what they do to the links of a chunk's
neighbours (`bridge`).
-/

namespace UubangIot.MemoryPool

open ByteMemory DoublyLinked

/-! ## Headers and footers -/

/-- The value of `alloc_mem`. -/
def sizeAt (memory : Heap) (chunk : Nat) : Nat := memory.value chunk 8
/-- The value of `prev`. -/
def prevAt (memory : Heap) (chunk : Nat) : Nat := memory.value (chunk + 8) 8
/-- The value of `next`. -/
def nextAt (memory : Heap) (chunk : Nat) : Nat := memory.value (chunk + 16) 8
/-- The value of `is_free`. -/
def freeAt (memory : Heap) (chunk : Nat) : Nat := memory.value (chunk + 24) 4
/-- The footer that ends at an address. -/
def footAt (memory : Heap) (stop : Nat) : Nat := memory.value (stop - 8) 8

/-- A stretch of memory that may be accessed. -/
def Open (memory : Heap) (start stop : Nat) : Prop := memory.low ≤ start ∧ stop ≤ memory.high

section

variable {memory : Heap} {chunk start stop number : Nat}

/-- An access inside a stretch that may be accessed. -/
theorem Open.admits {address width : Nat} (opened : Open memory start stop)
    (above : start ≤ address) (below : address + width ≤ stop) : memory.Admits address width :=
  ⟨opened.1.trans above, below.trans opened.2⟩

/-- Memories of the same range are open together. -/
theorem Open.agrees {places : Nat → Prop} {later : Heap} (opened : Open memory start stop)
    (agrees : Heap.Agrees places memory later) : Open later start stop :=
  ⟨agrees.low ▸ opened.1, agrees.high ▸ opened.2⟩

/-- A store changes no range. -/
theorem Open.put {address width : Nat} (opened : Open memory start stop) :
    Open (memory.put address width number) start stop := opened

variable (opened : Open memory start stop)
include opened

/-- `alloc_mem` of a chunk within the memory. -/
theorem allocMem_eq (above : start ≤ chunk) (below : chunk + 32 ≤ stop) :
    allocMem memory chunk = some (sizeAt memory chunk) :=
  Heap.load_of_admits (opened.admits above (by omega))

/-- `prev` of a chunk within the memory. -/
theorem prev_eq (above : start ≤ chunk) (below : chunk + 32 ≤ stop) :
    prev memory chunk = some (prevAt memory chunk) :=
  Heap.load_of_admits (opened.admits (by omega) (by omega))

/-- `next` of a chunk within the memory. -/
theorem next_eq (above : start ≤ chunk) (below : chunk + 32 ≤ stop) :
    next memory chunk = some (nextAt memory chunk) :=
  Heap.load_of_admits (opened.admits (by omega) (by omega))

/-- `is_free` of a chunk within the memory. -/
theorem isFree_eq (above : start ≤ chunk) (below : chunk + 32 ≤ stop) :
    isFree memory chunk = some (freeAt memory chunk) :=
  Heap.load_of_admits (opened.admits (by omega) (by omega))

/-- A footer within the memory. -/
theorem footer_eq {place : Nat} (above : start + 8 ≤ place) (below : place ≤ stop) :
    footer memory place = some (footAt memory place) :=
  Heap.load_of_admits (opened.admits (by rw [chunkEnd]; omega) (by rw [chunkEnd]; omega))

/-- A write of `alloc_mem` within the memory. -/
theorem setAllocMem_eq (above : start ≤ chunk) (below : chunk + 32 ≤ stop) :
    setAllocMem memory chunk number = some (memory.put chunk 8 number) :=
  Heap.store_of_admits (opened.admits above (by omega))

/-- A write of `prev` within the memory. -/
theorem setPrev_eq (above : start ≤ chunk) (below : chunk + 32 ≤ stop) :
    setPrev memory chunk number = some (memory.put (chunk + 8) 8 number) :=
  Heap.store_of_admits (opened.admits (by omega) (by omega))

/-- A write of `next` within the memory. -/
theorem setNext_eq (above : start ≤ chunk) (below : chunk + 32 ≤ stop) :
    setNext memory chunk number = some (memory.put (chunk + 16) 8 number) :=
  Heap.store_of_admits (opened.admits (by omega) (by omega))

/-- A write of `is_free` within the memory. -/
theorem setIsFree_eq (above : start ≤ chunk) (below : chunk + 32 ≤ stop) :
    setIsFree memory chunk number = some (memory.put (chunk + 24) 4 number) :=
  Heap.store_of_admits (opened.admits (by omega) (by omega))

/-- A write of a footer within the memory. -/
theorem setFooter_eq {place : Nat} (above : start + 8 ≤ place) (below : place ≤ stop) :
    setFooter memory place number = some (memory.put (place - 8) 8 number) :=
  Heap.store_of_admits (opened.admits (by rw [chunkEnd]; omega) (by rw [chunkEnd]; omega))

end

/-! ## Bridges -/

/-- Two headers that do not overlap. -/
def Clear (first second : Nat) : Prop := first + 32 ≤ second ∨ second + 32 ≤ first

/-- Lead the chunk before to `toward` and the chunk after back to `back`, where there are any. -/
def bridge (memory : Heap) (before after toward back : Nat) : Heap :=
  let memory := if before = 0 then memory else memory.put (before + 16) 8 toward
  if after = 0 then memory else memory.put (after + 8) 8 back

section

variable {memory : Heap} {before after toward back chunk : Nat}

/-- A bridge changes only the link forward of the chunk before and the link back of the chunk
after. -/
theorem agrees_bridge {places : Nat → Prop}
    (forward : before ≠ 0 → ∀ place, places place → place < before + 16 ∨ before + 24 ≤ place)
    (backward : after ≠ 0 → ∀ place, places place → place < after + 8 ∨ after + 16 ≤ place) :
    Heap.Agrees places memory (bridge memory before after toward back) := by
  have first : Heap.Agrees places memory
      (if before = 0 then memory else memory.put (before + 16) 8 toward) := by
    split
    · exact .refl _ _
    · rename_i real
      exact Heap.agrees_put fun place there => by
        have := forward real place there
        omega
  rw [bridge]
  split
  · exact first
  · rename_i real
    refine first.trans (Heap.agrees_put fun place there => ?_)
    have := backward real place there
    omega

/-- The links forward over a bridge. -/
theorem nextAt_bridge (real : chunk ≠ 0) (fits : toward < 2 ^ 64)
    (forward : before ≠ 0 → chunk ≠ before → Clear chunk before)
    (backward : after ≠ 0 → chunk ≠ after → Clear chunk after) :
    nextAt (bridge memory before after toward back) chunk =
      if chunk = before then toward else nextAt memory chunk := by
  have second (memory : Heap) :
      nextAt (if after = 0 then memory else memory.put (after + 8) 8 back) chunk =
        nextAt memory chunk := by
    split
    · rfl
    · rename_i some
      refine Heap.value_put_of_disjoint ?_
      by_cases same : chunk = after
      · omega
      · have := backward some same
        rw [Clear] at this
        omega
  rw [bridge, second]
  by_cases same : chunk = before
  · subst same
    rw [if_neg real, if_pos rfl]
    exact Heap.value_put_self (by omega)
  · rw [if_neg same]
    split
    · rfl
    · rename_i some
      have := forward some same
      rw [Clear] at this
      exact Heap.value_put_of_disjoint (by omega)

/-- The links back over a bridge. -/
theorem prevAt_bridge (real : chunk ≠ 0) (fits : back < 2 ^ 64)
    (forward : before ≠ 0 → chunk ≠ before → Clear chunk before)
    (backward : after ≠ 0 → chunk ≠ after → Clear chunk after) :
    prevAt (bridge memory before after toward back) chunk =
      if chunk = after then back else prevAt memory chunk := by
  have first : prevAt (if before = 0 then memory else memory.put (before + 16) 8 toward) chunk =
      prevAt memory chunk := by
    split
    · rfl
    · rename_i some
      refine Heap.value_put_of_disjoint ?_
      by_cases same : chunk = before
      · omega
      · have := forward some same
        rw [Clear] at this
        omega
  rw [bridge]
  by_cases same : chunk = after
  · subst same
    rw [if_neg real, if_pos rfl]
    exact Heap.value_put_self (by omega)
  · rw [if_neg same, ← first]
    split
    · rfl
    · rename_i some
      have := backward some same
      rw [Clear] at this
      exact Heap.value_put_of_disjoint (by omega)

end

/-- Headers of a block in which no two overlap. -/
structure Nodes (start stop : Nat) (nodes : List Nat) : Prop where
  /-- They lie in the block. -/
  inside : ∀ node ∈ nodes, start ≤ node ∧ node + 32 ≤ stop
  /-- They do not overlap. -/
  clear : ∀ node ∈ nodes, ∀ other ∈ nodes, node ≠ other → Clear node other

section

variable {memory : Heap} {start stop head node : Nat} {nodes front back : List Nat}

/-- The bytes outside the links of some chunks. -/
def OffLinks (nodes : List Nat) (place : Nat) : Prop :=
  ∀ node ∈ nodes, place < node + 8 ∨ node + 24 ≤ place

/-- A stored size is a machine word. -/
theorem sizeAt_lt : sizeAt memory node < 2 ^ 64 := by
  have bound : memory.value node 8 < 256 ^ 8 := Heap.value_lt
  rw [sizeAt]
  omega

/-- A link fits its eight bytes. -/
theorem nextAt_lt : nextAt memory node < 2 ^ 64 := by
  have bound : memory.value (node + 16) 8 < 256 ^ 8 := Heap.value_lt
  rw [nextAt]
  omega

/-- A link fits its eight bytes. -/
theorem prevAt_lt : prevAt memory node < 2 ^ 64 := by
  have bound : memory.value (node + 8) 8 < 256 ^ 8 := Heap.value_lt
  rw [prevAt]
  omega

/-- `MP_DLINKLIST_DEL` bridges the neighbours of its node, when the one before lies clear of it. -/
theorem mpDlinklistDel_bridge (opened : Open memory start stop) (above : start ≤ node)
    (below : node + 32 ≤ stop)
    (before : prevAt memory node ≠ 0 → start ≤ prevAt memory node ∧
      prevAt memory node + 32 ≤ stop ∧ Clear (prevAt memory node) node)
    (after : nextAt memory node ≠ 0 → start ≤ nextAt memory node ∧
      nextAt memory node + 32 ≤ stop) :
    mpDlinklistDel memory head node =
      some (bridge memory (prevAt memory node) (nextAt memory node) (nextAt memory node)
        (prevAt memory node), if prevAt memory node = 0 then nextAt memory node else head) := by
  rw [mpDlinklistDel, prev_eq opened above below, next_eq opened above below]
  simp only [Option.bind_eq_bind, Option.bind_some, bridge]
  by_cases none : prevAt memory node = 0
  · by_cases last : nextAt memory node = 0
    · simp only [none, last, ↓reduceIte, pure]
    · obtain ⟨above', below'⟩ := after last
      simp only [none, last, ↓reduceIte, setPrev_eq opened above' below', Option.bind_some, pure]
  · obtain ⟨above', below', clear⟩ := before none
    rw [Clear] at clear
    -- the node's own links are read again after the first write, which leaves them alone
    generalize written : memory.put (prevAt memory node + 16) 8 (nextAt memory node) = later
    have reread : nextAt later node = nextAt memory node := by
      rw [← written]
      exact Heap.value_put_of_disjoint (by omega)
    have reread' : prevAt later node = prevAt memory node := by
      rw [← written]
      exact Heap.value_put_of_disjoint (by omega)
    have opened' : Open later start stop := by
      rw [← written]
      exact opened
    rw [setNext_eq opened above' below', written]
    by_cases last : nextAt memory node = 0
    · simp only [none, last, ↓reduceIte, Option.bind_some, next_eq opened' above below, reread,
        pure]
    · obtain ⟨above'', below''⟩ := after last
      simp only [none, last, ↓reduceIte, Option.bind_some, next_eq opened' above below, reread,
        prev_eq opened' above below, reread', setPrev_eq opened' above'' below'', pure]

/-- `MP_DLINKLIST_DEL` bridges the neighbours of a node of a list. -/
theorem mpDlinklistDel_eq (opened : Open memory start stop)
    (nodes : Nodes start stop (front ++ node :: back)) (distinct : (front ++ node :: back).Nodup)
    (listed : Listed (nextAt memory) (prevAt memory) head (front ++ node :: back)) :
    mpDlinklistDel memory head node =
      some (bridge memory (prevAt memory node) (nextAt memory node) (nextAt memory node)
        (prevAt memory node), if prevAt memory node = 0 then nextAt memory node else head) := by
  obtain ⟨before, after⟩ := listed.neighbours
  obtain ⟨-, -, apart⟩ := List.nodup_append.mp distinct
  have own : node ∈ front ++ node :: back := by simp
  obtain ⟨above, below⟩ := nodes.inside node own
  refine mpDlinklistDel_bridge opened above below (fun some => ?_) fun some => ?_
  · have member : prevAt memory node ∈ front ++ node :: back := by simp [before some]
    have other : prevAt memory node ≠ node := apart _ (before some) _ List.mem_cons_self
    obtain ⟨above', below'⟩ := nodes.inside _ member
    exact ⟨above', below', nodes.clear _ member _ own other⟩
  · exact nodes.inside (nextAt memory node) (by simp [after some])

/-- `MP_DLINKLIST_DEL` of a node of a list takes it out. -/
theorem mpDlinklistDel_spec (opened : Open memory start stop)
    (nodes : Nodes start stop (front ++ node :: back)) (distinct : (front ++ node :: back).Nodup)
    (listed : Listed (nextAt memory) (prevAt memory) head (front ++ node :: back)) :
    ∃ later head', mpDlinklistDel memory head node = some (later, head') ∧
      Listed (nextAt later) (prevAt later) head' (front ++ back) ∧
      Heap.Agrees (OffLinks (front ++ back)) memory later := by
  obtain ⟨before, after⟩ := listed.neighbours
  have beforeIn (some : prevAt memory node ≠ 0) : prevAt memory node ∈ front ++ node :: back :=
    List.mem_append_left _ (before some)
  have afterIn (some : nextAt memory node ≠ 0) : nextAt memory node ∈ front ++ node :: back :=
    List.mem_append_right _ (List.mem_cons_of_mem _ (after some))
  have inList : ∀ other ∈ front ++ back, other ∈ front ++ node :: back := by
    intro other member
    rcases List.mem_append.mp member with member | member
    · exact List.mem_append_left _ member
    · exact List.mem_append_right _ (List.mem_cons_of_mem _ member)
  have real : ∀ other ∈ front ++ back, other ≠ 0 :=
    fun other member => listed.ne_zero (inList other member)
  refine ⟨_, _, mpDlinklistDel_eq opened nodes distinct listed, ?_, ?_⟩
  · refine listed.unlink distinct (fun other member => ?_) fun other member => ?_
    · exact nextAt_bridge (real other member) nextAt_lt
        (fun some => nodes.clear other (inList other member) _ (beforeIn some))
        fun some => nodes.clear other (inList other member) _ (afterIn some)
    · exact prevAt_bridge (real other member) prevAt_lt
        (fun some => nodes.clear other (inList other member) _ (beforeIn some))
        fun some => nodes.clear other (inList other member) _ (afterIn some)
  · refine agrees_bridge (fun some place there => ?_) fun some place there => ?_
    · have := there _ (List.mem_append_left _ (before some))
      omega
    · have := there _ (List.mem_append_right _ (after some))
      omega

/-- `MP_DLINKLIST_INS_FRT` writes the links of its node and bridges it to the head. -/
theorem mpDlinklistInsFrt_bridge (opened : Open memory start stop) (above : start ≤ node)
    (below : node + 32 ≤ stop) (first : head ≠ 0 → start ≤ head ∧ head + 32 ≤ stop) :
    mpDlinklistInsFrt memory head node =
      some (bridge ((memory.put (node + 8) 8 0).put (node + 16) 8 head) 0 head 0 node, node) := by
  generalize written : (memory.put (node + 8) 8 0).put (node + 16) 8 head = linked
  have opened' : Open (memory.put (node + 8) 8 0) start stop := opened
  have opened'' : Open linked start stop := by
    rw [← written]
    exact opened
  rw [mpDlinklistInsFrt, setPrev_eq opened above below]
  simp only [Option.bind_eq_bind, Option.bind_some, setNext_eq opened' above below, written]
  by_cases none : head = 0
  · simp [none, bridge]
  · obtain ⟨above', below'⟩ := first none
    simp only [none, bridge]
    rw [setPrev_eq opened'' above' below']
    simp

/-- `MP_DLINKLIST_INS_FRT` of a new node puts it at the front. -/
theorem mpDlinklistInsFrt_spec (opened : Open memory start stop) (bounded : stop ≤ 2 ^ 64)
    (all : Nodes start stop (node :: nodes)) (distinct : (node :: nodes).Nodup) (real : node ≠ 0)
    (listed : Listed (nextAt memory) (prevAt memory) head nodes) :
    ∃ later, mpDlinklistInsFrt memory head node = some (later, node) ∧
      Listed (nextAt later) (prevAt later) node (node :: nodes) ∧
      Heap.Agrees (OffLinks (node :: nodes)) memory later := by
  obtain ⟨fresh, distinct⟩ := List.nodup_cons.mp distinct
  obtain ⟨above, below⟩ := all.inside node List.mem_cons_self
  have first : head ≠ 0 → head ∈ nodes := listed.head_mem
  have boundHead : head < 2 ^ 64 := by
    by_cases none : head = 0
    · omega
    · have := all.inside head (List.mem_cons_of_mem _ (first none))
      omega
  let linked := (memory.put (node + 8) 8 0).put (node + 16) 8 head
  have done : mpDlinklistInsFrt memory head node = some (bridge linked 0 head 0 node, node) :=
    mpDlinklistInsFrt_bridge opened above below fun some =>
      all.inside head (List.mem_cons_of_mem _ (first some))
  have ownNext : nextAt linked node = head := Heap.value_put_self (by omega)
  have ownPrev : prevAt linked node = 0 :=
    (Heap.value_put_of_disjoint (by omega)).trans (Heap.value_put_self (by omega))
  have clearHead (some : head ≠ 0) (chunk : Nat) (member : chunk ∈ node :: nodes)
      (other : chunk ≠ head) : Clear chunk head :=
    all.clear chunk member head (List.mem_cons_of_mem _ (first some)) other
  have notHead : node ≠ head := by
    rintro rfl
    exact fresh (first real)
  -- the links of the other nodes before the bridge are the old ones
  have kept (chunk : Nat) (member : chunk ∈ nodes) :
      nextAt linked chunk = nextAt memory chunk ∧ prevAt linked chunk = prevAt memory chunk := by
    have other : chunk ≠ node := by
      rintro rfl
      exact fresh member
    have clear := all.clear chunk (List.mem_cons_of_mem _ member) node List.mem_cons_self other
    rw [Clear] at clear
    exact ⟨(Heap.value_put_of_disjoint (by omega)).trans
        (Heap.value_put_of_disjoint (by omega)),
      (Heap.value_put_of_disjoint (by omega)).trans
        (Heap.value_put_of_disjoint (by omega))⟩
  have boundNode : node < 2 ^ 64 := by omega
  refine ⟨_, done, listed.push real distinct ?_ ?_ (fun chunk member => ?_)
    (fun chunk member => ?_), ?_⟩
  · rw [nextAt_bridge real (by omega) (by simp) fun some => clearHead some _ List.mem_cons_self,
      if_neg real, ownNext]
  · rw [prevAt_bridge real boundNode (by simp) fun some => clearHead some _ List.mem_cons_self,
      if_neg notHead, ownPrev]
  · have nonzero : chunk ≠ 0 := listed.ne_zero member
    rw [nextAt_bridge nonzero (by omega) (by simp)
      fun some => clearHead some _ (List.mem_cons_of_mem _ member), if_neg nonzero,
      (kept chunk member).1]
  · have nonzero : chunk ≠ 0 := listed.ne_zero member
    rw [prevAt_bridge nonzero boundNode (by simp)
      fun some => clearHead some _ (List.mem_cons_of_mem _ member), (kept chunk member).2]
  · have own : Heap.Agrees (OffLinks (node :: nodes)) memory linked := by
      refine Heap.Agrees.trans (Heap.agrees_put fun place there => ?_)
        (Heap.agrees_put fun place there => ?_)
      · have := there node List.mem_cons_self
        omega
      · have := there node List.mem_cons_self
        omega
    refine own.trans (agrees_bridge (by simp) fun some place there => ?_)
    have := there head (List.mem_cons_of_mem _ (first some))
    omega

end

/-! ## Two lists -/

/-- The bytes of the links of some chunks. -/
def OnLinks (nodes : List Nat) (place : Nat) : Prop :=
  ∃ node ∈ nodes, node + 8 ≤ place ∧ place < node + 24

/-- Two lists that thread chunks of a block, no chunk twice. -/
structure Threads (memory : Heap) (start stop : Nat) (frees allocs : List Nat)
    (freeList allocList : Nat) : Prop where
  /-- The headers lie in the block and do not overlap. -/
  nodes : Nodes start stop (frees ++ allocs)
  /-- No chunk is threaded twice. -/
  distinct : (frees ++ allocs).Nodup
  /-- The first list. -/
  free : Listed (nextAt memory) (prevAt memory) freeList frees
  /-- The second list. -/
  alloc : Listed (nextAt memory) (prevAt memory) allocList allocs

section

variable {memory later : Heap} {start stop freeList allocList node : Nat}
  {frees allocs front back : List Nat}

/-- Some of the nodes are nodes. -/
theorem Nodes.mono {nodes others : List Nat} (all : Nodes start stop nodes)
    (fewer : ∀ other ∈ others, other ∈ nodes) : Nodes start stop others where
  inside other member := all.inside other (fewer other member)
  clear other member another member' :=
    all.clear other (fewer other member) another (fewer another member')

/-- Either list may be called the first. -/
theorem Threads.symm (threads : Threads memory start stop frees allocs freeList allocList) :
    Threads memory start stop allocs frees allocList freeList where
  nodes := threads.nodes.mono fun _ member => List.mem_append.mpr (List.mem_append.mp member).symm
  distinct := (List.perm_append_comm.nodup_iff).mp threads.distinct
  free := threads.alloc
  alloc := threads.free

/-- Links that two memories agree on. -/
theorem links_of_agrees {nodes : List Nat} (agrees : Heap.Agrees (OnLinks nodes) memory later)
    (member : node ∈ nodes) :
    nextAt later node = nextAt memory node ∧ prevAt later node = prevAt memory node :=
  ⟨agrees.value fun _ above below => ⟨node, member, by omega, by omega⟩,
    agrees.value fun _ above below => ⟨node, member, by omega, by omega⟩⟩

/-- Lists are told by the links of their chunks. -/
theorem Threads.frame (threads : Threads memory start stop frees allocs freeList allocList)
    (agrees : Heap.Agrees (OnLinks (frees ++ allocs)) memory later) :
    Threads later start stop frees allocs freeList allocList where
  nodes := threads.nodes
  distinct := threads.distinct
  free := threads.free.congr
    (fun _ member => (links_of_agrees agrees (List.mem_append_left _ member)).1)
    fun _ member => (links_of_agrees agrees (List.mem_append_left _ member)).2
  alloc := threads.alloc.congr
    (fun _ member => (links_of_agrees agrees (List.mem_append_right _ member)).1)
    fun _ member => (links_of_agrees agrees (List.mem_append_right _ member)).2

/-- The links of one list lie off those of another. -/
theorem offLinks_of_onLinks {nodes others : List Nat} {place : Nat}
    (clear : ∀ node ∈ nodes, ∀ other ∈ others, Clear node other) (there : OnLinks nodes place) :
    OffLinks others place := by
  obtain ⟨node, member, above, below⟩ := there
  intro other member'
  have := clear node member other member'
  rw [Clear] at this
  omega

/-- A chunk of one list lies clear of those of the other. -/
theorem Threads.clear (threads : Threads memory start stop frees allocs freeList allocList)
    {other : Nat} (free : node ∈ frees) (alloc : other ∈ allocs) : Clear node other := by
  have apart : node ≠ other :=
    (List.nodup_append.mp threads.distinct).2.2 node free other alloc
  exact threads.nodes.clear node (List.mem_append_left _ free) other
    (List.mem_append_right _ alloc) apart

/-- `MP_DLINKLIST_DEL` of a chunk of the first list. -/
theorem Threads.del (opened : Open memory start stop)
    (threads : Threads memory start stop (front ++ node :: back) allocs freeList allocList) :
    ∃ later freeList', mpDlinklistDel memory freeList node = some (later, freeList') ∧
      Threads later start stop (front ++ back) allocs freeList' allocList ∧
      Heap.Agrees (OffLinks (front ++ back)) memory later := by
  have fewer : ∀ other ∈ front ++ back, other ∈ front ++ node :: back := by
    intro other member
    rcases List.mem_append.mp member with member | member
    · exact List.mem_append_left _ member
    · exact List.mem_append_right _ (List.mem_cons_of_mem _ member)
  obtain ⟨distinct, distinctAlloc, apart⟩ := List.nodup_append.mp threads.distinct
  have nodes : Nodes start stop (front ++ node :: back) :=
    threads.nodes.mono fun other member => List.mem_append_left _ member
  obtain ⟨later, freeList', done, listed, agrees⟩ :=
    mpDlinklistDel_spec opened nodes distinct threads.free
  have distinct' : (front ++ back).Nodup :=
    distinct.sublist (List.Sublist.append_left (List.sublist_cons_self _ _) _)
  have kept : Heap.Agrees (OnLinks allocs) memory later := by
    refine agrees.mono fun place there => offLinks_of_onLinks ?_ there
    intro alloc member other member'
    have := threads.clear (fewer other member') member
    rw [Clear] at this ⊢
    omega
  refine ⟨later, freeList', done, ⟨?_, ?_, listed, ?_⟩, agrees⟩
  · refine threads.nodes.mono fun other member => ?_
    rcases List.mem_append.mp member with member | member
    · exact List.mem_append_left _ (fewer other member)
    · exact List.mem_append_right _ member
  · exact List.nodup_append.mpr ⟨distinct', distinctAlloc,
      fun other member alloc member' => apart other (fewer other member) alloc member'⟩
  · exact threads.alloc.congr (fun _ member => (links_of_agrees kept member).1)
      fun _ member => (links_of_agrees kept member).2

/-- `MP_DLINKLIST_INS_FRT` of a chunk into the first list. -/
theorem Threads.ins (opened : Open memory start stop) (bounded : stop ≤ 2 ^ 64)
    (threads : Threads memory start stop frees allocs freeList allocList)
    (nodes : Nodes start stop (node :: frees ++ allocs)) (distinct : (node :: frees ++ allocs).Nodup)
    (real : node ≠ 0) :
    ∃ later, mpDlinklistInsFrt memory freeList node = some (later, node) ∧
      Threads later start stop (node :: frees) allocs node allocList ∧
      Heap.Agrees (OffLinks (node :: frees)) memory later := by
  have own : Nodes start stop (node :: frees) :=
    nodes.mono fun other member => List.mem_append_left _ member
  obtain ⟨distinctFree, distinctAlloc, apart⟩ := List.nodup_append.mp distinct
  obtain ⟨later, done, listed, agrees⟩ :=
    mpDlinklistInsFrt_spec opened bounded own distinctFree real threads.free
  have kept : Heap.Agrees (OnLinks allocs) memory later := by
    refine agrees.mono fun place there => offLinks_of_onLinks ?_ there
    intro alloc member other member'
    have := nodes.clear other (List.mem_append_left _ member') alloc
      (List.mem_append_right _ member) (apart other member' alloc member)
    rw [Clear] at this ⊢
    omega
  exact ⟨later, done, ⟨nodes, distinct, listed,
    threads.alloc.congr (fun _ member => (links_of_agrees kept member).1)
      fun _ member => (links_of_agrees kept member).2⟩, agrees⟩

end

end UubangIot.MemoryPool
