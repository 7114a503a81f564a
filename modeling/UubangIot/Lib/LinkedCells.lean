import Mathlib.Data.List.Nodup
import Mathlib.Logic.Function.Basic

/-!
# Singly linked lists behind a head cell

Cells lie in memory by their address and zero is no cell. The head is a cell of its own of which
only the link is used; as a cursor it is zero. A pass visits the cells in their order, writes their
values and unlinks and frees some of them while it goes, always through the link of its cursor.
`Linked.pass_sweep` is its meaning on the values.
-/

namespace LinkedCells

/-- A cell. -/
structure Cell (α : Type) where
  /-- What it holds. -/
  value : α
  /-- The address of the next cell. -/
  next : Nat

/-- The cells in memory and the link of the head. -/
structure Linked (α : Type) where
  /-- The allocated cells. -/
  cells : Nat → Option (Cell α)
  /-- The link of the head. -/
  first : Nat

variable {α σ : Type}

namespace Linked

/-- No cells. -/
def empty : Linked α := ⟨fun _ => none, 0⟩

/-- The link of a cursor; a cell that is not allocated has none. -/
def next (list : Linked α) (cursor : Nat) : Option Nat :=
  if cursor = 0 then some list.first else (list.cells cursor).map Cell.next

/-- Set the link of a cursor. -/
def link (list : Linked α) (cursor target : Nat) : Linked α :=
  if cursor = 0 then { list with first := target }
  else
    { list with
      cells := Function.update list.cells cursor
        ((list.cells cursor).map fun cell => { cell with next := target }) }

/-- Write the value of a cell. -/
def write (list : Linked α) (node : Nat) (value : α) : Linked α :=
  { list with
    cells := Function.update list.cells node
      ((list.cells node).map fun cell => { cell with value }) }

/-- Free a cell. -/
def free (list : Linked α) (node : Nat) : Linked α :=
  { list with cells := Function.update list.cells node none }

/-- Allocate a cell without a successor. -/
def place (list : Linked α) (node : Nat) (value : α) : Linked α :=
  { list with cells := Function.update list.cells node (some ⟨value, 0⟩) }

/-- Follow the links from a cursor to the last one. -/
def last : (fuel : Nat) → Linked α → (cursor : Nat) → Option Nat
  | 0, _, _ => none
  | fuel + 1, list, cursor =>
    match list.next cursor with
    | none => none
    | some node => if node = 0 then some cursor else last fuel list node

/-- Allocate a cell and hang it behind the last one. -/
def append (fuel : Nat) (list : Linked α) (node : Nat) (value : α) : Option (Linked α) :=
  (list.last fuel 0).map fun cursor => (list.place node value).link cursor node

/-- Visit the cells behind a cursor. What becomes of a cell is its new value, or none: then it is
unlinked and freed, and the cursor stays. -/
def pass (visit : σ → α → σ × Option α) :
    (fuel : Nat) → Linked α → (cursor : Nat) → σ → Option (Linked α × σ)
  | 0, _, _, _ => none
  | fuel + 1, list, cursor, state =>
    match list.next cursor with
    | none => none
    | some node =>
      if node = 0 then some (list, state)
      else
        match list.cells node with
        | none => none
        | some cell =>
          match visit state cell.value with
          | (state, some value) => pass visit fuel (list.write node value) node state
          | (state, none) => pass visit fuel ((list.link cursor cell.next).free node) cursor state

end Linked

/-- What a pass makes of the values. -/
def sweep (visit : σ → α → σ × Option α) : List α → σ → List α × σ
  | [], state => ([], state)
  | value :: rest, state =>
    match visit state value with
    | (state, some kept) => ((kept :: (sweep visit rest state).1), (sweep visit rest state).2)
    | (state, none) => sweep visit rest state

/-- A value that is kept. -/
theorem sweep_kept {visit : σ → α → σ × Option α} {state moved : σ} {value kept : α}
    (visited : visit state value = (moved, some kept)) (rest : List α) :
    sweep visit (value :: rest) state =
      (kept :: (sweep visit rest moved).1, (sweep visit rest moved).2) := by
  rw [sweep, visited]

/-- A value that is dropped. -/
theorem sweep_dropped {visit : σ → α → σ × Option α} {state moved : σ} {value : α}
    (visited : visit state value = (moved, none)) (rest : List α) :
    sweep visit (value :: rest) state = sweep visit rest moved := by
  rw [sweep, visited]

/-! ## Segments -/

/-- The cells from an address on, with their values, and the address behind them. -/
def Segment (cells : Nat → Option (Cell α)) : (first : Nat) → List (Nat × α) → (after : Nat) → Prop
  | first, [], after => first = after
  | first, (node, value) :: rest, after =>
    first = node ∧ node ≠ 0 ∧ ∃ link, cells node = some ⟨value, link⟩ ∧ Segment cells link rest after

variable {cells cells' : Nat → Option (Cell α)} {first after : Nat} {front back : List (Nat × α)}

/-- A segment of two parts. -/
theorem segment_append :
    Segment cells first (front ++ back) after ↔
      ∃ middle, Segment cells first front middle ∧ Segment cells middle back after := by
  induction front generalizing first with
  | nil =>
    constructor
    · exact fun segment => ⟨first, rfl, segment⟩
    · rintro ⟨middle, rfl, segment⟩
      exact segment
  | cons pair rest ih =>
    obtain ⟨node, value⟩ := pair
    constructor
    · rintro ⟨start, real, link, cell, segment⟩
      obtain ⟨middle, left, right⟩ := ih.mp segment
      exact ⟨middle, ⟨start, real, link, cell, left⟩, right⟩
    · rintro ⟨middle, ⟨start, real, link, cell, left⟩, right⟩
      exact ⟨start, real, link, cell, ih.mpr ⟨middle, left, right⟩⟩

/-- A segment depends on its own cells alone. -/
theorem Segment.congr (segment : Segment cells first front after)
    (same : ∀ node ∈ front.map Prod.fst, cells' node = cells node) :
    Segment cells' first front after := by
  induction front generalizing first with
  | nil => exact segment
  | cons pair rest ih =>
    obtain ⟨node, value⟩ := pair
    obtain ⟨start, real, link, cell, later⟩ := segment
    refine ⟨start, real, link, ?_, ih later fun other member => ?_⟩
    · rw [same node List.mem_cons_self]
      exact cell
    · exact same other (List.mem_cons_of_mem _ member)

/-- Its cells are allocated and none of them is zero. -/
theorem Segment.allocated (segment : Segment cells first front after) {node : Nat}
    (member : node ∈ front.map Prod.fst) : node ≠ 0 ∧ cells node ≠ none := by
  induction front generalizing first with
  | nil => contradiction
  | cons pair rest ih =>
    obtain ⟨head, value⟩ := pair
    obtain ⟨-, real, link, cell, later⟩ := segment
    rcases List.mem_cons.mp member with rfl | other
    · exact ⟨real, by rw [cell]; exact Option.some_ne_none _⟩
    · exact ih later other

/-- The cursor behind some cells: the last of them, or the head. -/
def cursorOf (front : List (Nat × α)) : Nat := (front.map Prod.fst).getLastD 0

/-- The cursor of a list is its last node. -/
theorem cursorOf_snoc (front : List (Nat × α)) (node : Nat) (value : α) :
    cursorOf (front ++ [(node, value)]) = node := by
  rw [cursorOf, List.map_append, List.map_singleton, List.getLastD_concat]

/-! ## Cursors -/

/-- A list with the cells in front of a cursor and those behind it. -/
structure At (list : Linked α) (front back : List (Nat × α)) : Prop where
  /-- The cells are linked from the head to the end. -/
  linked : Segment list.cells list.first (front ++ back) 0
  /-- Their addresses are distinct. -/
  distinct : ((front ++ back).map Prod.fst).Nodup

/-- The values of a list. -/
def Holds (list : Linked α) (values : List α) : Prop :=
  ∃ pairs, At list [] pairs ∧ pairs.map Prod.snd = values

variable {list : Linked α} {node : Nat} {value : α}

/-- The link of a cursor leads behind the cells in front of it. -/
theorem next_cursorOf {middle : Nat} (segment : Segment list.cells list.first front middle) :
    list.next (cursorOf front) = some middle := by
  rcases List.eq_nil_or_concat front with rfl | ⟨init, ⟨node, value⟩, rfl⟩
  · exact congrArg some segment
  · rw [List.concat_eq_append] at segment ⊢
    obtain ⟨start, -, rfl, real, link, cell, rfl⟩ := segment_append.mp segment
    rw [cursorOf_snoc, Linked.next, if_neg real, cell]
    rfl

/-- Setting the link of a cursor moves what follows the cells in front of it. -/
theorem Segment.link {middle target : Nat} (segment : Segment list.cells list.first front middle)
    (distinct : (front.map Prod.fst).Nodup) :
    Segment (list.link (cursorOf front) target).cells (list.link (cursorOf front) target).first front
      target := by
  rcases List.eq_nil_or_concat front with rfl | ⟨init, ⟨node, value⟩, rfl⟩
  · exact rfl
  · rw [List.concat_eq_append] at segment distinct ⊢
    obtain ⟨start, left, rfl, real, link, cell, rfl⟩ := segment_append.mp segment
    rw [cursorOf_snoc, Linked.link, if_neg real]
    rw [List.map_append, List.map_singleton] at distinct
    refine segment_append.mpr ⟨start, left.congr fun other member => ?_, rfl, real, target, ?_, rfl⟩
    · refine Function.update_of_ne (fun same => ?_) _ _
      exact (List.nodup_append.mp distinct).2.2 other member start List.mem_cons_self same
    · have written := Function.update_self start
        ((list.cells start).map fun cell => { cell with next := target }) list.cells
      exact written.trans (by rw [cell]; rfl)

/-- Setting the link of a cursor changes no other cell. -/
theorem link_of_ne (list : Linked α) {cursor target other : Nat} (different : other ≠ cursor) :
    (list.link cursor target).cells other = list.cells other := by
  unfold Linked.link
  split
  · rfl
  · exact Function.update_of_ne different _ _

/-- A cursor leads where its link was set. -/
theorem next_link {cursor target before : Nat} (leads : list.next cursor = some before) :
    (list.link cursor target).next cursor = some target := by
  by_cases head : cursor = 0
  · rw [Linked.next, if_pos head, Linked.link, if_pos head]
  · rw [Linked.next, if_neg head] at leads
    obtain ⟨cell, found, -⟩ := Option.map_eq_some_iff.mp leads
    rw [Linked.next, if_neg head, Linked.link, if_neg head]
    dsimp only
    rw [Function.update_self, found]
    rfl

/-- The cursor is zero or one of the cells in front of it. -/
theorem cursorOf_mem (front : List (Nat × α)) :
    cursorOf front = 0 ∨ cursorOf front ∈ front.map Prod.fst := by
  rcases List.eq_nil_or_concat front with rfl | ⟨init, ⟨node, value⟩, rfl⟩
  · exact .inl rfl
  · right
    rw [List.concat_eq_append, cursorOf_snoc, List.map_append, List.map_singleton]
    exact List.mem_append_right _ List.mem_cons_self

namespace At

/-- At the end of the list. -/
theorem next_nil (located : At list front []) : list.next (cursorOf front) = some 0 := by
  have linked := located.linked
  rw [List.append_nil] at linked
  exact next_cursorOf linked

/-- A cursor before a cell is not null, and its next node is that cell. -/
theorem next_cons (located : At list front ((node, value) :: back)) :
    node ≠ 0 ∧ list.next (cursorOf front) = some node ∧
      ∃ link, list.cells node = some ⟨value, link⟩ := by
  obtain ⟨middle, left, rfl, real, link, cell, -⟩ := segment_append.mp located.linked
  exact ⟨real, next_cursorOf left, link, cell⟩

/-- The header of an empty list is null. -/
theorem first_nil (located : At list [] []) : list.first = 0 := Option.some.inj located.next_nil

/-- The first cell of a list. -/
theorem first_cons (located : At list [] ((node, value) :: back)) :
    list.first = node ∧ node ≠ 0 ∧ ∃ link, list.cells node = some ⟨value, link⟩ := by
  obtain ⟨real, leads, link, cell⟩ := located.next_cons
  exact ⟨Option.some.inj leads, real, link, cell⟩

/-- The cursor moves over the cell it stands before. -/
theorem step (located : At list front ((node, value) :: back)) :
    At list (front ++ [(node, value)]) back := by
  have whole : front ++ [(node, value)] ++ back = front ++ (node, value) :: back := by
    rw [List.append_assoc, List.singleton_append]
  exact ⟨whole ▸ located.linked, whole ▸ located.distinct⟩

/-- The addresses around a cell. -/
theorem apart (located : At list front ((node, value) :: back)) :
    (front.map Prod.fst).Nodup ∧ node ∉ front.map Prod.fst ∧ node ∉ back.map Prod.fst ∧
      ∀ other ∈ back.map Prod.fst, other ∉ front.map Prod.fst := by
  have distinct := located.distinct
  rw [List.map_append, List.map_cons] at distinct
  obtain ⟨left, right, disjoint⟩ := List.nodup_append.mp distinct
  refine ⟨left, fun member => ?_, (List.nodup_cons.mp right).1, fun other member before => ?_⟩
  · exact disjoint node member node List.mem_cons_self rfl
  · exact disjoint other before other (List.mem_cons_of_mem _ member) rfl

/-- A value is written and the cursor moves on. -/
theorem write (located : At list front ((node, value) :: back)) (later : α) :
    At (list.write node later) (front ++ [(node, later)]) back := by
  obtain ⟨-, before, behind, -⟩ := located.apart
  obtain ⟨middle, left, rfl, real, link, cell, right⟩ := segment_append.mp located.linked
  have kept {other : Nat} (different : other ≠ middle) :
      (list.write middle later).cells other = list.cells other :=
    Function.update_of_ne different _ _
  have written : (list.write middle later).cells middle = some ⟨later, link⟩ := by
    have updated := Function.update_self middle
      ((list.cells middle).map fun cell => { cell with value := later }) list.cells
    rw [cell] at updated
    rw [Linked.write, cell]
    exact updated
  refine step ⟨segment_append.mpr ⟨middle, ?_, rfl, real, link, written, ?_⟩, ?_⟩
  · exact left.congr fun other member => kept fun same => before (same ▸ member)
  · exact right.congr fun other member => kept fun same => behind (same ▸ member)
  · have distinct := located.distinct
    rw [List.map_append, List.map_cons] at distinct ⊢
    exact distinct

/-- A cell is unlinked and freed. -/
theorem unlink (located : At list front ((node, value) :: back)) {next : Nat}
    (cell : list.cells node = some ⟨value, next⟩) :
    At ((list.link (cursorOf front) next).free node) front back := by
  obtain ⟨nodup, before, behind, disjoint⟩ := located.apart
  obtain ⟨middle, left, rfl, real, link, found, right⟩ := segment_append.mp located.linked
  obtain rfl : link = next := congrArg Cell.next (Option.some.inj (found.symm.trans cell))
  have freed {other : Nat} (different : other ≠ middle) :
      ((list.link (cursorOf front) link).free middle).cells other =
        (list.link (cursorOf front) link).cells other := Function.update_of_ne different _ _
  constructor
  · refine segment_append.mpr ⟨link, ?_, ?_⟩
    · exact (left.link nodup).congr fun other member => freed fun same => before (same ▸ member)
    · refine right.congr fun other member => ?_
      rw [freed fun same => behind (same ▸ member), link_of_ne]
      intro same
      rcases cursorOf_mem front with zero | present
      · exact (right.allocated member).1 (same.trans zero)
      · exact disjoint other member (same ▸ present)
  · have distinct := located.distinct
    rw [List.map_append, List.map_cons] at distinct
    rw [List.map_append]
    exact distinct.sublist (List.Sublist.append_left (List.sublist_cons_self _ _) _)

end At

/-! ## The loops -/

/-- A pass does to the values what `sweep` does, and ends. -/
theorem Linked.pass_sweep (visit : σ → α → σ × Option α) {fuel : Nat} (located : At list front back)
    (enough : back.length < fuel) (state : σ) :
    ∃ later pairs, list.pass visit fuel (cursorOf front) state =
        some (later, (sweep visit (back.map Prod.snd) state).2) ∧
      At later [] (front ++ pairs) ∧
      pairs.map Prod.snd = (sweep visit (back.map Prod.snd) state).1 := by
  induction back generalizing list front fuel state with
  | nil =>
    obtain ⟨fuel, rfl⟩ := Nat.exists_eq_succ_of_ne_zero (Nat.ne_of_gt enough)
    refine ⟨list, [], ?_, ?_, rfl⟩
    · rw [Linked.pass, located.next_nil]
      rfl
    · exact ⟨located.linked, located.distinct⟩
  | cons pair rest ih =>
    obtain ⟨node, value⟩ := pair
    obtain ⟨fuel, rfl⟩ := Nat.exists_eq_succ_of_ne_zero (Nat.ne_of_gt (Nat.zero_lt_of_lt enough))
    have less : rest.length < fuel := Nat.lt_of_succ_lt_succ enough
    obtain ⟨real, leads, next, cell⟩ := located.next_cons
    have begin : list.pass visit (fuel + 1) (cursorOf front) state =
        match visit state value with
        | (state, some kept) => (list.write node kept).pass visit fuel node state
        | (state, none) =>
          ((list.link (cursorOf front) next).free node).pass visit fuel (cursorOf front) state := by
      simp only [Linked.pass, leads, if_neg real, cell]
    rw [begin, List.map_cons]
    rcases visited : visit state value with ⟨moved, _ | kept⟩
    · rw [sweep_dropped visited]
      exact ih (located.unlink cell) less moved
    · obtain ⟨later, pairs, passed, located', values⟩ := ih (located.write kept) less moved
      rw [cursorOf_snoc] at passed
      rw [sweep_kept visited]
      refine ⟨later, (node, kept) :: pairs, passed, ?_, ?_⟩
      · rw [List.append_assoc, List.singleton_append] at located'
        exact located'
      · rw [List.map_cons, values]

/-- The last cell is found. -/
theorem Linked.last_eq {fuel : Nat} (located : At list front back) (enough : back.length < fuel) :
    list.last fuel (cursorOf front) = some (cursorOf (front ++ back)) := by
  induction back generalizing front fuel with
  | nil =>
    obtain ⟨fuel, rfl⟩ := Nat.exists_eq_succ_of_ne_zero (Nat.ne_of_gt enough)
    rw [Linked.last, located.next_nil, List.append_nil]
    rfl
  | cons pair rest ih =>
    obtain ⟨node, value⟩ := pair
    obtain ⟨fuel, rfl⟩ := Nat.exists_eq_succ_of_ne_zero (Nat.ne_of_gt (Nat.zero_lt_of_lt enough))
    obtain ⟨real, leads, -⟩ := located.next_cons
    have later := ih located.step (Nat.lt_of_succ_lt_succ enough)
    rw [cursorOf_snoc, List.append_assoc, List.singleton_append] at later
    simp only [Linked.last, leads, if_neg real]
    exact later

/-- A value is appended in a new cell. -/
theorem Linked.append_holds {fuel : Nat} {values : List α} (holds : Holds list values)
    (enough : values.length < fuel) (real : node ≠ 0) (fresh : list.cells node = none) (value : α) :
    ∃ later, list.append fuel node value = some later ∧ Holds later (values ++ [value]) := by
  obtain ⟨pairs, located, rfl⟩ := holds
  rw [List.length_map] at enough
  have linked : Segment list.cells list.first pairs 0 := located.linked
  have distinct : (pairs.map Prod.fst).Nodup := located.distinct
  have found : list.last fuel 0 = some (cursorOf pairs) := Linked.last_eq located enough
  have new : node ∉ pairs.map Prod.fst := fun member => (linked.allocated member).2 fresh
  have placed : Segment (list.place node value).cells (list.place node value).first pairs 0 :=
    linked.congr fun other member =>
      Function.update_of_ne (fun same : other = node => new (same ▸ member)) _ _
  refine ⟨(list.place node value).link (cursorOf pairs) node, by rw [Linked.append, found]; rfl,
    pairs ++ [(node, value)], ⟨?_, ?_⟩, by rw [List.map_append, List.map_singleton]⟩
  · rw [List.nil_append]
    refine segment_append.mpr ⟨node, placed.link distinct, rfl, real, 0, ?_, rfl⟩
    have different : node ≠ cursorOf pairs := by
      intro same
      rcases cursorOf_mem pairs with zero | present
      · exact real (same.trans zero)
      · exact new (same ▸ present)
    rw [link_of_ne _ different]
    exact Function.update_self node _ _
  · rw [List.nil_append, List.map_append, List.map_singleton]
    refine List.nodup_append.mpr ⟨distinct, List.nodup_singleton _, fun other member last same => ?_⟩
    intro equal
    have own : other = node := equal.trans (List.mem_singleton.mp same)
    exact new (own ▸ member)

/-- A pass over a whole list. -/
theorem Linked.pass_holds (visit : σ → α → σ × Option α) {fuel : Nat} {values : List α}
    (holds : Holds list values) (enough : values.length < fuel) (state : σ) :
    ∃ later, list.pass visit fuel 0 state = some (later, (sweep visit values state).2) ∧
      Holds later (sweep visit values state).1 := by
  obtain ⟨pairs, located, rfl⟩ := holds
  rw [List.length_map] at enough
  obtain ⟨later, kept, passed, after, values⟩ := Linked.pass_sweep visit located enough state
  exact ⟨later, passed, kept, after, values⟩

/-- The empty list holds nothing. -/
theorem holds_empty : Holds (Linked.empty : Linked α) [] :=
  ⟨[], ⟨rfl, List.nodup_nil⟩, rfl⟩

end LinkedCells
