import Mathlib.Data.List.Nodup

/-!
# Doubly linked lists

Nodes are addresses, zero is no node, and the links are two functions. `Segment` is a stretch of
a list between the node before it and the node after it; a list is a segment between zeros.
Segments compose by appending, so an edit of a list is a change at the ends of the two segments
around it: the last link of the one before (`Segment.lead`) and the back link of the one after
(`Segment.follow`).
-/

namespace DoublyLinked

/-- The nodes from `first` on, the node before them, the last of them and the node after. -/
def Segment (next prev : Nat → Nat) (before first : Nat) :
    List Nat → (last after : Nat) → Prop
  | [], last, after => last = before ∧ first = after
  | node :: rest, last, after =>
    first = node ∧ node ≠ 0 ∧ prev node = before ∧ Segment next prev node (next node) rest last after

/-- The list of a head. -/
def Listed (next prev : Nat → Nat) (head : Nat) (nodes : List Nat) : Prop :=
  ∃ last, Segment next prev 0 head nodes last 0

variable {next prev next' prev' : Nat → Nat} {before first last after : Nat}
  {nodes front back : List Nat}

/-- A segment of two parts. -/
theorem segment_append :
    Segment next prev before first (front ++ back) last after ↔
      ∃ middle link, Segment next prev before first front middle link ∧
        Segment next prev middle link back last after := by
  induction front generalizing before first with
  | nil =>
    constructor
    · intro segment
      exact ⟨before, first, ⟨rfl, rfl⟩, segment⟩
    · rintro ⟨middle, link, ⟨rfl, rfl⟩, segment⟩
      exact segment
  | cons node rest ih =>
    constructor
    · rintro ⟨start, real, back, segment⟩
      obtain ⟨middle, link, left, right⟩ := ih.mp segment
      exact ⟨middle, link, ⟨start, real, back, left⟩, right⟩
    · rintro ⟨middle, link, ⟨start, real, back, left⟩, right⟩
      exact ⟨start, real, back, ih.mpr ⟨middle, link, left, right⟩⟩

/-- No node of a segment is zero. -/
theorem Segment.ne_zero (segment : Segment next prev before first nodes last after) {node : Nat}
    (member : node ∈ nodes) : node ≠ 0 := by
  induction nodes generalizing before first with
  | nil => contradiction
  | cons head rest ih =>
    obtain ⟨-, real, -, later⟩ := segment
    rcases List.mem_cons.mp member with rfl | member
    · exact real
    · exact ih later member

/-- The last node of a segment is one of its nodes. -/
theorem Segment.last_mem (segment : Segment next prev before first nodes last after)
    (inhabited : nodes ≠ []) : last ∈ nodes := by
  induction nodes generalizing before first with
  | nil => contradiction
  | cons head rest ih =>
    obtain ⟨-, -, -, later⟩ := segment
    by_cases empty : rest = []
    · subst empty
      obtain ⟨rfl, -⟩ := later
      exact List.mem_cons_self
    · exact List.mem_cons_of_mem _ (ih later empty)

/-- The first node of a segment is one of its nodes. -/
theorem Segment.first_mem (segment : Segment next prev before first nodes last after)
    (inhabited : nodes ≠ []) : first ∈ nodes := by
  cases nodes with
  | nil => contradiction
  | cons head rest =>
    obtain ⟨rfl, -⟩ := segment
    exact List.mem_cons_self

/-- A segment is told by the links of its nodes. -/
theorem Segment.congr (segment : Segment next prev before first nodes last after)
    (forward : ∀ node ∈ nodes, next' node = next node)
    (backward : ∀ node ∈ nodes, prev' node = prev node) :
    Segment next' prev' before first nodes last after := by
  induction nodes generalizing before first with
  | nil => exact segment
  | cons head rest ih =>
    obtain ⟨start, real, back, later⟩ := segment
    have link : next' head = next head := forward head List.mem_cons_self
    have same : prev' head = prev head := backward head List.mem_cons_self
    refine ⟨start, real, same.trans back, ?_⟩
    rw [link]
    exact ih later (fun node member => forward node (List.mem_cons_of_mem _ member))
      fun node member => backward node (List.mem_cons_of_mem _ member)

/-- The list of a head is told by the links of its nodes. -/
theorem Listed.congr {head : Nat} (listed : Listed next prev head nodes)
    (forward : ∀ node ∈ nodes, next' node = next node)
    (backward : ∀ node ∈ nodes, prev' node = prev node) : Listed next' prev' head nodes := by
  obtain ⟨last, segment⟩ := listed
  exact ⟨last, segment.congr forward backward⟩

/-- Lead a segment to another node: its last link changes, or where it is empty its start. -/
theorem Segment.lead (segment : Segment next prev before first nodes last after) (target : Nat)
    (distinct : nodes.Nodup)
    (forward : ∀ node ∈ nodes, next' node = if node = last then target else next node)
    (backward : ∀ node ∈ nodes, prev' node = prev node) :
    Segment next' prev' before (if nodes = [] then target else first) nodes last target := by
  induction nodes generalizing before first with
  | nil =>
    obtain ⟨rfl, -⟩ := segment
    exact ⟨rfl, rfl⟩
  | cons head rest ih =>
    obtain ⟨rfl, real, back, later⟩ := segment
    obtain ⟨fresh, distinct⟩ := List.nodup_cons.mp distinct
    have same : prev' first = prev first := backward first List.mem_cons_self
    have rest' := ih later distinct
      (fun node member => forward node (List.mem_cons_of_mem _ member))
      fun node member => backward node (List.mem_cons_of_mem _ member)
    have link : next' first = if rest = [] then target else next first := by
      rw [forward first List.mem_cons_self]
      by_cases empty : rest = []
      · subst empty
        obtain ⟨rfl, -⟩ := later
        simp
      · have other : first ≠ last := by
          rintro rfl
          exact fresh (later.last_mem empty)
        simp [other, empty]
    rw [if_neg (List.cons_ne_nil _ _)]
    refine ⟨rfl, real, same.trans back, ?_⟩
    rw [link]
    exact rest'

/-- Let a segment follow another node: its first back link changes. -/
theorem Segment.follow (segment : Segment next prev before first nodes last after) (source : Nat)
    (distinct : nodes.Nodup)
    (forward : ∀ node ∈ nodes, next' node = next node)
    (backward : ∀ node ∈ nodes, prev' node = if node = first then source else prev node) :
    ∃ last, Segment next' prev' source first nodes last after := by
  cases nodes with
  | nil =>
    obtain ⟨-, rfl⟩ := segment
    exact ⟨source, rfl, rfl⟩
  | cons head rest =>
    obtain ⟨rfl, real, -, later⟩ := segment
    obtain ⟨fresh, -⟩ := List.nodup_cons.mp distinct
    have back : prev' first = source := by
      rw [backward first List.mem_cons_self, if_pos rfl]
    have link : next' first = next first := forward first List.mem_cons_self
    refine ⟨last, rfl, real, back, ?_⟩
    rw [link]
    refine later.congr (fun node member => forward node (List.mem_cons_of_mem _ member))
      fun node member => ?_
    have other : node ≠ first := by
      rintro rfl
      exact fresh member
    rw [backward node (List.mem_cons_of_mem _ member), if_neg other]

/-- What a list says about one of its nodes: it has neighbours on both sides, or is at an end. -/
theorem Listed.around {head node : Nat} (listed : Listed next prev head (front ++ node :: back)) :
    ∃ last, node ≠ 0 ∧ Segment next prev 0 head front (prev node) node ∧
      Segment next prev node (next node) back last 0 := by
  obtain ⟨last, segment⟩ := listed
  obtain ⟨middle, link, left, rfl, real, rfl, right⟩ := segment_append.mp segment
  exact ⟨last, real, left, right⟩

/-- The node before is zero exactly at the front of a list. -/
theorem Segment.last_eq_zero (segment : Segment next prev 0 first nodes last after) :
    last = 0 ↔ nodes = [] := by
  constructor
  · intro none
    by_contra inhabited
    exact segment.ne_zero (segment.last_mem inhabited) none
  · rintro rfl
    exact segment.1

/-- A node's neighbours, where it has any, are nodes of the list on either side of it. -/
theorem Listed.neighbours {head node : Nat}
    (listed : Listed next prev head (front ++ node :: back)) :
    (prev node ≠ 0 → prev node ∈ front) ∧ (next node ≠ 0 → next node ∈ back) := by
  obtain ⟨last, -, left, right⟩ := listed.around
  refine ⟨fun some => left.last_mem fun empty => ?_, fun some => right.first_mem fun empty => ?_⟩
  · exact some (left.last_eq_zero.mpr empty)
  · subst empty
    exact some right.2

/-- No node of a list is zero. -/
theorem Listed.ne_zero {head node : Nat} (listed : Listed next prev head nodes)
    (member : node ∈ nodes) : node ≠ 0 := by
  obtain ⟨last, segment⟩ := listed
  exact segment.ne_zero member

/-- The head of a list, where it has one, is a node of it. -/
theorem Listed.head_mem {head : Nat} (listed : Listed next prev head nodes) (real : head ≠ 0) :
    head ∈ nodes := by
  obtain ⟨last, segment⟩ := listed
  refine segment.first_mem fun empty => real ?_
  subst empty
  exact segment.2

/-- No node is before the head of a list. -/
theorem Listed.prev_head {head : Nat} (listed : Listed next prev head nodes) (real : head ≠ 0) :
    prev head = 0 := by
  obtain ⟨last, segment⟩ := listed
  cases nodes with
  | nil => exact absurd segment.2 real
  | cons node rest =>
    obtain ⟨rfl, -, first, -⟩ := segment
    exact first

/-- The two parts of a list around a node, led to a target and following a source: only the links
of the node's neighbours change. -/
theorem Listed.part {head node : Nat} (target source : Nat)
    (listed : Listed next prev head (front ++ node :: back))
    (distinct : (front ++ node :: back).Nodup)
    (forward : ∀ other ∈ front ++ back,
      next' other = if other = prev node then target else next other)
    (backward : ∀ other ∈ front ++ back,
      prev' other = if other = next node then source else prev other) :
    ∃ last, Segment next' prev' 0 (if prev node = 0 then target else head) front (prev node) target ∧
      Segment next' prev' source (next node) back last 0 := by
  obtain ⟨last, -, left, right⟩ := listed.around
  obtain ⟨distinctFront, distinctBack, apart⟩ := List.nodup_append.mp distinct
  obtain ⟨-, distinctBack⟩ := List.nodup_cons.mp distinctBack
  obtain ⟨before, after⟩ := listed.neighbours
  have notBefore : ∀ other ∈ back, other ≠ prev node := by
    rintro other member rfl
    exact apart _ (before (right.ne_zero member)) _ (List.mem_cons_of_mem _ member) rfl
  have notAfter : ∀ other ∈ front, other ≠ next node := by
    rintro other member rfl
    exact apart _ member _ (List.mem_cons_of_mem _ (after (left.ne_zero member))) rfl
  have kept : ∀ other ∈ front, prev' other = prev other := by
    intro other member
    rw [backward other (List.mem_append_left _ member), if_neg (notAfter other member)]
  have kept' : ∀ other ∈ back, next' other = next other := by
    intro other member
    rw [forward other (List.mem_append_right _ member), if_neg (notBefore other member)]
  have leads := left.lead target distinctFront
    (fun other member => forward other (List.mem_append_left _ member)) kept
  obtain ⟨final, follows⟩ := right.follow source distinctBack kept'
    fun other member => backward other (List.mem_append_right _ member)
  rw [← if_congr left.last_eq_zero rfl rfl] at leads
  exact ⟨final, leads, follows⟩

/-- Take a node out of a list. -/
theorem Listed.unlink {head node : Nat} (listed : Listed next prev head (front ++ node :: back))
    (distinct : (front ++ node :: back).Nodup)
    (forward : ∀ other ∈ front ++ back,
      next' other = if other = prev node then next node else next other)
    (backward : ∀ other ∈ front ++ back,
      prev' other = if other = next node then prev node else prev other) :
    Listed next' prev' (if prev node = 0 then next node else head) (front ++ back) := by
  obtain ⟨last, left, right⟩ := listed.part _ _ distinct forward backward
  exact ⟨last, segment_append.mpr ⟨_, _, left, right⟩⟩

/-- Put a node at the front of a list. -/
theorem Listed.push {head node : Nat} (listed : Listed next prev head nodes)
    (real : node ≠ 0) (distinct : nodes.Nodup)
    (link : next' node = head) (back : prev' node = 0)
    (forward : ∀ other ∈ nodes, next' other = next other)
    (backward : ∀ other ∈ nodes, prev' other = if other = head then node else prev other) :
    Listed next' prev' node (node :: nodes) := by
  obtain ⟨last, segment⟩ := listed
  obtain ⟨final, follows⟩ := segment.follow node distinct forward backward
  exact ⟨final, rfl, real, back, link ▸ follows⟩

/-- Put a node in the place of another. -/
theorem Listed.replace {head node fresh : Nat}
    (listed : Listed next prev head (front ++ node :: back))
    (distinct : (front ++ node :: back).Nodup) (real : fresh ≠ 0)
    (link : next' fresh = next node) (backLink : prev' fresh = prev node)
    (forward : ∀ other ∈ front ++ back,
      next' other = if other = prev node then fresh else next other)
    (backward : ∀ other ∈ front ++ back,
      prev' other = if other = next node then fresh else prev other) :
    Listed next' prev' (if prev node = 0 then fresh else head) (front ++ fresh :: back) := by
  obtain ⟨last, left, right⟩ := listed.part _ _ distinct forward backward
  exact ⟨last, segment_append.mpr ⟨_, _, left, rfl, real, backLink, link ▸ right⟩⟩

end DoublyLinked
