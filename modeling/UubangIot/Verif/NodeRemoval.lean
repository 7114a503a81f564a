import Mathlib.Data.List.Lemmas
import UubangIot.Server.UserNodes

/-!
# The removal of an online node

`delete_out_user` moves a link past the node it has found and then frees what that link leads to. For
the first node, whose address was kept, that is the node itself. Behind it, it is the node after the
one that was found, which stays in the list, or nothing at the end of the list; the node that was found
is never freed.
-/

namespace UubangIot

open LinkedCells

variable {nodes later : UserNodes} {pairs : Kind → List (Nat × User)} {list : Linked User}
  {front middle back : List (Nat × User)} {node link turns : Nat} {value : User}

/-- The nodes of both lists of a registry, with their addresses: no node is in both. -/
structure UserNodes.Listed (nodes : UserNodes) (pairs : Kind → List (Nat × User)) : Prop where
  /-- The lists. -/
  linked : ∀ kind, At (nodes.list kind) [] (pairs kind)
  /-- They have no node in common. -/
  apart : ∀ address ∈ (pairs .user).map Prod.fst, address ∉ (pairs .iot).map Prod.fst

/-- The removal of the first node that passes a test. -/
structure Removed (kind : Kind) (own : Nat × User → Bool) (pairs : Kind → List (Nat × User))
    (nodes later : UserNodes) (removed : Int) : Prop where
  /-- The first node that passes is out of its list, the others keep their order, and the other list
  is the same. -/
  listed : later.Listed (Function.update pairs kind ((pairs kind).eraseP own))
  /-- Exactly that node is freed. -/
  freed : ∀ address, later.cells address = none ↔
    nodes.cells address = none ∨ ∃ value, (pairs kind).find? own = some (address, value)
  /-- Its list counts one less. -/
  counted : (later.head kind).onlineUserNum =
    (nodes.head kind).onlineUserNum - if ((pairs kind).find? own).isSome then 1 else 0
  /-- The other head is the same. -/
  other : ∀ kind', kind' ≠ kind → later.head kind' = nodes.head kind'
  /-- So are the nodes outside of the list. -/
  outside : ∀ address ∉ (pairs kind).map Prod.fst, later.cells address = nodes.cells address
  /-- The result tells whether there was such a node. -/
  returned : removed = if ((pairs kind).find? own).isSome then 1 else 0
  /-- Without one nothing changes. -/
  absent : (pairs kind).find? own = none → later = nodes

/-- `delete_out_user` removes the first node of an id on a socket. -/
def RemovesNode (turns : Nat) (nodes : UserNodes) (pairs : Kind → List (Nat × User)) (userId : Bytes)
    (socket : Nat) : Prop :=
  ∃ removed later, nodes.deleteOutUser turns userId socket = some (removed, later) ∧
    Removed (kindOf userId) (fun pair => owns userId socket pair.2) pairs nodes later removed

/-- The first node passes a test, or none does. -/
def FirstOrNone (own : Nat × User → Bool) (pairs : List (Nat × User)) : Prop :=
  pairs.head?.any own = true ∨ ∀ pair ∈ pairs, own pair = false

/-! ## The loop -/

/-- A search that no node passes removes nothing. -/
theorem unlinkAhead_none (test : User → Bool) (located : At list front back)
    (none : ∀ pair ∈ back, test pair.2 = false) (enough : back.length < turns) :
    unlinkAhead test turns list (cursorOf front) = some (0, list) := by
  induction back generalizing front turns with
  | nil =>
    obtain ⟨turns, rfl⟩ := Nat.exists_eq_succ_of_ne_zero (Nat.ne_of_gt enough)
    rw [unlinkAhead, located.next_nil]
    rfl
  | cons pair rest ih =>
    obtain ⟨node, value⟩ := pair
    obtain ⟨turns, rfl⟩ := Nat.exists_eq_succ_of_ne_zero (Nat.ne_of_gt (Nat.zero_lt_of_lt enough))
    obtain ⟨real, leads, link, cell⟩ := located.next_cons
    have fails : ¬test value = true := Bool.eq_false_iff.mp (none (node, value) List.mem_cons_self)
    have later := ih located.step (fun pair member => none pair (List.mem_cons_of_mem _ member))
      (Nat.lt_of_succ_lt_succ enough)
    rw [cursorOf_snoc] at later
    rw [unlinkAhead, leads]
    dsimp only
    rw [if_neg real, cell]
    dsimp only
    rw [if_neg fails]
    exact later

/-- The first node that passes is unlinked, and the one behind it is freed. -/
theorem unlinkAhead_some (test : User → Bool)
    (located : At list front (middle ++ (node, value) :: back))
    (none : ∀ pair ∈ middle, test pair.2 = false) (found : test value = true)
    (cell : list.cells node = some ⟨value, link⟩)
    (enough : (middle ++ (node, value) :: back).length < turns) :
    unlinkAhead test turns list (cursorOf front) =
      some (1, freeNodeAt (list.link (cursorOf (front ++ middle)) link) link) := by
  induction middle generalizing front turns with
  | nil =>
    obtain ⟨turns, rfl⟩ := Nat.exists_eq_succ_of_ne_zero (Nat.ne_of_gt (Nat.zero_lt_of_lt enough))
    obtain ⟨real, leads, -⟩ := located.next_cons
    rw [unlinkAhead, leads, List.append_nil]
    dsimp only
    rw [if_neg real, cell]
    dsimp only
    rw [if_pos found, next_link leads]
    rfl
  | cons pair rest ih =>
    obtain ⟨other, passed⟩ := pair
    obtain ⟨turns, rfl⟩ := Nat.exists_eq_succ_of_ne_zero (Nat.ne_of_gt (Nat.zero_lt_of_lt enough))
    obtain ⟨real, leads, next, here⟩ := located.next_cons
    have fails : ¬test passed = true :=
      Bool.eq_false_iff.mp (none (other, passed) List.mem_cons_self)
    have later := ih located.step (fun pair member => none pair (List.mem_cons_of_mem _ member))
      (Nat.lt_of_succ_lt_succ enough)
    rw [cursorOf_snoc, List.append_assoc, List.singleton_append] at later
    rw [unlinkAhead, leads]
    dsimp only
    rw [if_neg real, here]
    dsimp only
    rw [if_neg fails]
    exact later

/-! ## One list -/

/-- A list without the node. -/
theorem unlinkNodes_none (test : User → Bool) (located : At list [] back)
    (none : ∀ pair ∈ back, test pair.2 = false) (enough : back.length < turns) :
    unlinkNodes test turns list = some (0, list) := by
  cases back with
  | nil => rw [unlinkNodes, if_pos located.first_nil]
  | cons pair rest =>
    obtain ⟨node, value⟩ := pair
    obtain ⟨rfl, real, link, cell⟩ := located.first_cons
    have fails : ¬test value = true :=
      Bool.eq_false_iff.mp (none (list.first, value) List.mem_cons_self)
    have later := unlinkAhead_none test located.step
      (fun pair member => none pair (List.mem_cons_of_mem _ member)) (Nat.lt_of_succ_lt enough)
    rw [cursorOf_snoc] at later
    rw [unlinkNodes, if_neg real, cell]
    dsimp only
    rw [if_neg fails]
    exact later

/-- A list with the node in front. -/
theorem unlinkNodes_first (test : User → Bool) (located : At list [] ((node, value) :: back))
    (found : test value = true) (cell : list.cells node = some ⟨value, link⟩) :
    unlinkNodes test turns list = some (1, (list.link 0 link).free node) := by
  obtain ⟨rfl, real, -⟩ := located.first_cons
  rw [unlinkNodes, if_neg real, cell]
  dsimp only
  rw [if_pos found, freeNodeAt, if_neg real]
  rfl

/-- A link leads to another node. -/
theorem At.link_ne (located : At list front ((node, value) :: back))
    (cell : list.cells node = some ⟨value, link⟩) : link ≠ node := by
  obtain ⟨real, -⟩ := located.next_cons
  obtain ⟨-, -, behind, -⟩ := located.apart
  have leads : list.next node = some link := by rw [Linked.next, if_neg real, cell]; rfl
  cases back with
  | nil =>
    have ends := located.step.next_nil
    rw [cursorOf_snoc, leads] at ends
    rw [Option.some.inj ends]
    exact real.symm
  | cons pair rest =>
    obtain ⟨second, other⟩ := pair
    obtain ⟨-, follows, -⟩ := located.step.next_cons
    rw [cursorOf_snoc, leads] at follows
    rintro rfl
    exact behind (Option.some.inj follows ▸ List.mem_cons_self)

/-- A list with the node further back: it keeps its memory. -/
theorem unlinkNodes_behind (test : User → Bool) {first : Nat × User}
    (located : At list [] (first :: middle ++ (node, value) :: back))
    (none : ∀ pair ∈ first :: middle, test pair.2 = false) (found : test value = true)
    (enough : (first :: middle ++ (node, value) :: back).length < turns) :
    ∃ later, unlinkNodes test turns list = some (1, later) ∧ later.cells node = list.cells node := by
  obtain ⟨start, passed⟩ := first
  obtain ⟨rfl, real, next, here⟩ := located.first_cons
  have there : At list ((list.first, passed) :: middle) ((node, value) :: back) :=
    ⟨located.linked, located.distinct⟩
  obtain ⟨present, -, link, cell⟩ := there.next_cons
  obtain ⟨-, before, -, -⟩ := there.apart
  have fails : ¬test passed = true :=
    Bool.eq_false_iff.mp (none (list.first, passed) List.mem_cons_self)
  have runs := unlinkAhead_some test located.step
    (fun pair member => none pair (List.mem_cons_of_mem _ member)) found cell
    (Nat.lt_of_succ_lt enough)
  rw [cursorOf_snoc] at runs
  refine ⟨freeNodeAt (list.link (cursorOf ([] ++ [(list.first, passed)] ++ middle)) link) link, ?_, ?_⟩
  · rw [unlinkNodes, if_neg real, here]
    dsimp only
    rw [if_neg fails]
    exact runs
  · -- neither the cursor nor the node that is freed is the one that was found
    have cursor : node ≠ cursorOf ([] ++ [(list.first, passed)] ++ middle) := by
      intro same
      rcases cursorOf_mem ([] ++ [(list.first, passed)] ++ middle) with zero | member
      · exact present (same.trans zero)
      · exact before (same ▸ member)
    have linked : (list.link (cursorOf ([] ++ [(list.first, passed)] ++ middle)) link).cells node =
        list.cells node := link_of_ne list cursor
    rw [← linked, freeNodeAt]
    split
    · rfl
    · exact Function.update_of_ne (At.link_ne there cell).symm _ _

/-! ## Both lists -/

/-- The other head, where one list is set. -/
theorem setList_other {kind kind' : Kind} (different : kind' ≠ kind) (num : Int) :
    (nodes.setList kind list num).head kind' = nodes.head kind' := by
  cases kind with
  | user =>
    cases kind' with
    | user => contradiction
    | iot => rfl
  | iot =>
    cases kind' with
    | user => rfl
    | iot => contradiction

/-- The head of a list that was set is that of the list that was given. -/
theorem setList_head (kind : Kind) (num : Int) :
    (nodes.setList kind list num).head kind = ⟨num, list.first⟩ := by
  cases kind with
  | user => rfl
  | iot => rfl

/-- The cells after a list was set are those of the list that was given. -/
theorem setList_cells (kind : Kind) (num : Int) :
    (nodes.setList kind list num).cells = list.cells := by
  cases kind with
  | user => rfl
  | iot => rfl

/-- The list that was there, with its count. -/
theorem setList_same (kind : Kind) :
    nodes.setList kind (nodes.list kind) (nodes.head kind).onlineUserNum = nodes := by
  cases kind with
  | user => rfl
  | iot => rfl

/-- A node is in one list only. -/
theorem UserNodes.Listed.separate (listed : nodes.Listed pairs) {kind kind' : Kind}
    (different : kind' ≠ kind) {address : Nat} (member : address ∈ (pairs kind').map Prod.fst) :
    address ∉ (pairs kind).map Prod.fst := by
  cases kind with
  | user =>
    cases kind' with
    | user => contradiction
    | iot => exact fun both => listed.apart address both member
  | iot =>
    cases kind' with
    | user => exact listed.apart address member
    | iot => contradiction

/-- One list is set to a part of what it was. -/
theorem UserNodes.Listed.set (listed : nodes.Listed pairs) (kind : Kind)
    {kept : List (Nat × User)} (located : At list [] kept) (num : Int)
    (part : ∀ address ∈ kept.map Prod.fst, address ∈ (pairs kind).map Prod.fst)
    (outside : ∀ address ∉ (pairs kind).map Prod.fst, list.cells address = nodes.cells address) :
    (nodes.setList kind list num).Listed (Function.update pairs kind kept) := by
  have own : (nodes.setList kind list num).list kind = list := by
    rw [UserNodes.list, setList_cells, setList_head]
  have within (kind' : Kind) : ∀ address ∈ (Function.update pairs kind kept kind').map Prod.fst,
      address ∈ (pairs kind').map Prod.fst := by
    intro address member
    by_cases same : kind' = kind
    · subst same
      rw [Function.update_self] at member
      exact part address member
    · rwa [Function.update_of_ne same] at member
  constructor
  · intro kind'
    by_cases same : kind' = kind
    · subst same
      rw [own, Function.update_self]
      exact located
    · have old := listed.linked kind'
      rw [Function.update_of_ne same, UserNodes.list, setList_cells, setList_other same]
      refine ⟨old.linked.congr fun address member => ?_, old.distinct⟩
      exact outside address (listed.separate same member)
  · intro address member both
    exact listed.apart address (within .user address member) (within .iot address both)

/-- A deletion that concerns no node leaves the lists as they are and counts none. -/
theorem removed_none (listed : nodes.Listed pairs) (kind : Kind) {own : Nat × User → Bool}
    (none : ∀ pair ∈ pairs kind, own pair = false) : Removed kind own pairs nodes nodes 0 := by
  have fails : ∀ pair ∈ pairs kind, ¬own pair = true :=
    fun pair member => Bool.eq_false_iff.mp (none pair member)
  have unfound : (pairs kind).find? own = Option.none := List.find?_eq_none.mpr fails
  constructor
  · rw [List.eraseP_of_forall_not fails, Function.update_eq_self]
    exact listed
  · intro address
    rw [unfound]
    constructor
    · exact .inl
    · rintro (free | ⟨value, impossible⟩)
      · exact free
      · contradiction
  · rw [unfound]
    exact (Int.sub_zero _).symm
  · exact fun _ _ => rfl
  · exact fun _ _ => rfl
  · rw [unfound]
    rfl
  · exact fun _ => rfl

/-- The first node is removed. -/
theorem removed_first (listed : nodes.Listed pairs) (kind : Kind) {own : Nat × User → Bool}
    (here : pairs kind = (node, value) :: back) (found : own (node, value) = true)
    (cell : nodes.cells node = some ⟨value, link⟩) :
    Removed kind own pairs nodes (nodes.setList kind (((nodes.list kind).link 0 link).free node)
      ((nodes.head kind).onlineUserNum - 1)) 1 := by
  have located := listed.linked kind
  rw [here] at located
  have first : (pairs kind).find? own = some (node, value) := by
    rw [here, List.find?_cons_of_pos found]
  have cells (address : Nat) : (((nodes.list kind).link 0 link).free node).cells address =
      if address = node then Option.none else nodes.cells address := by
    change Function.update _ _ _ _ = _
    rw [Function.update_apply, Linked.link, if_pos rfl]
    rfl
  constructor
  · rw [here, List.eraseP_cons_of_pos found]
    refine listed.set kind (located.unlink cell) _ (fun address member => ?_) fun address absent => ?_
    · rw [here]
      exact List.mem_cons_of_mem _ member
    · rw [here, List.map_cons, List.mem_cons, not_or] at absent
      exact (cells address).trans (if_neg absent.1)
  · intro address
    rw [setList_cells, cells, first]
    by_cases same : address = node
    · rw [if_pos same]
      exact iff_of_true rfl (.inr ⟨value, by rw [same]⟩)
    · rw [if_neg same]
      constructor
      · exact .inl
      · rintro (free | ⟨other, impossible⟩)
        · exact free
        · exact absurd (congrArg Prod.fst (Option.some.inj impossible)).symm same
  · rw [setList_head, first]
    rfl
  · exact fun kind' different => setList_other different _
  · intro address absent
    rw [here, List.map_cons, List.mem_cons, not_or] at absent
    rw [setList_cells, cells, if_neg absent.1]
  · rw [first]
    rfl
  · intro impossible
    rw [first] at impossible
    contradiction

/-- `delete_out_user` with an id that is long enough. -/
theorem deleteOutUser_eq {userId : Bytes} (socket : Nat) (long : 6 ≤ strlen userId) {removed : Int}
    (unlinked : unlinkNodes (owns userId socket) turns (nodes.list (kindOf userId)) =
      some (removed, list)) :
    nodes.deleteOutUser turns userId socket = some (removed, nodes.setList (kindOf userId) list
      ((nodes.head (kindOf userId)).onlineUserNum - removed)) := by
  rw [UserNodes.deleteOutUser, if_neg (Nat.not_lt.mpr long)]
  dsimp only
  rw [unlinked]
  rfl

/-- `delete_out_user` frees exactly the node it removes when that is the first of its list. -/
theorem removesNode_iff (nodes : UserNodes) (pairs : Kind → List (Nat × User))
    (listed : nodes.Listed pairs) (userId : Bytes) (socket : Nat) (long : 6 ≤ strlen userId)
    (turns : Nat) (enough : (pairs (kindOf userId)).length < turns) :
    RemovesNode turns nodes pairs userId socket ↔
      FirstOrNone (fun pair => owns userId socket pair.2) (pairs (kindOf userId)) := by
  have located := listed.linked (kindOf userId)
  constructor
  · rintro ⟨removed, later, deleted, right⟩
    by_contra behind
    obtain ⟨notFirst, known⟩ := not_or.mp behind
    cases found : (pairs (kindOf userId)).find? fun pair => owns userId socket pair.2 with
    | none =>
      refine known fun pair member => Bool.eq_false_iff.mpr ?_
      exact List.find?_eq_none.mp found pair member
    | some pair =>
      obtain ⟨node, value⟩ := pair
      obtain ⟨passes, before, back, here, fails⟩ := List.find?_eq_some_iff_append.mp found
      have none : ∀ pair ∈ before, owns userId socket pair.2 = false :=
        fun pair member => Bool.eq_false_iff.mpr (by simpa using fails pair member)
      cases before with
      | nil =>
        rw [here] at notFirst
        exact notFirst passes
      | cons first middle =>
        rw [here] at located enough
        obtain ⟨list, unlinked, kept⟩ := unlinkNodes_behind _ located none passes enough
        have same := Option.some.inj ((deleteOutUser_eq socket long unlinked).symm.trans deleted)
        obtain rfl := congrArg Prod.snd same
        have freed := (right.freed node).mpr (.inr ⟨value, found⟩)
        rw [setList_cells, kept] at freed
        have whole : At (nodes.list (kindOf userId)) (first :: middle) ((node, value) :: back) :=
          ⟨located.linked, located.distinct⟩
        obtain ⟨-, -, link, cell⟩ := whole.next_cons
        rw [cell] at freed
        contradiction
  · rintro (first | none)
    · cases here : pairs (kindOf userId) with
      | nil =>
        rw [here] at first
        contradiction
      | cons pair back =>
        obtain ⟨node, value⟩ := pair
        rw [here] at first located
        obtain ⟨-, -, link, cell⟩ := located.first_cons
        exact ⟨1, _, deleteOutUser_eq socket long (unlinkNodes_first _ located first cell),
          removed_first listed _ here first cell⟩
    · refine ⟨0, nodes, ?_, removed_none listed _ none⟩
      rw [deleteOutUser_eq socket long (unlinkNodes_none _ located none enough), Int.sub_zero,
        setList_same]

/-- A user who is online on a socket. -/
def onlineUser (userId : String) (socket : Nat) : User :=
  ⟨socket, text userId, 1, text "secret", [], 0, true⟩

/-- Three users are online. -/
def threeOnline : Kind → List (Nat × User)
  | .user => [(1, onlineUser "13800000003" 7), (2, onlineUser "13800000002" 6),
      (3, onlineUser "13800000001" 5)]
  | .iot => []

/-- Their nodes. -/
def threeNodes : UserNodes where
  cells address :=
    if address = 1 then some ⟨onlineUser "13800000003" 7, 2⟩
    else if address = 2 then some ⟨onlineUser "13800000002" 6, 3⟩
    else if address = 3 then some ⟨onlineUser "13800000001" 5, 0⟩
    else none
  users := ⟨3, 1⟩
  iots := ⟨0, 0⟩

/-- The three nodes are a list. -/
theorem threeNodes_listed : threeNodes.Listed threeOnline := by
  constructor
  · intro kind
    cases kind with
    | user =>
      refine ⟨⟨rfl, by decide, 2, rfl, rfl, by decide, 3, rfl, rfl, by decide, 0, rfl, rfl⟩, ?_⟩
      decide
    | iot => exact ⟨rfl, List.nodup_nil⟩
  · exact fun _ _ both => nomatch both

/-- The first of them is removed. -/
theorem removesNode_first : RemovesNode 4 threeNodes threeOnline (text "13800000003") 7 :=
  (removesNode_iff threeNodes threeOnline threeNodes_listed (text "13800000003") 7 (by decide +kernel) 4
    (by decide +kernel)).mpr (.inl (by decide +kernel))

/-- The removal of the second frees the third, which stays in the list, and not the second. -/
theorem third_freed : threeNodes.Listed threeOnline ∧
    (threeNodes.deleteOutUser 4 (text "13800000002") 6).map (fun result =>
      (result.1, result.2.users, (result.2.cells 1).map Cell.next, (result.2.cells 2).isSome,
        (result.2.cells 3).isSome)) = some (1, ⟨2, 1⟩, some 3, true, false) ∧
    ¬RemovesNode 4 threeNodes threeOnline (text "13800000002") 6 := by
  refine ⟨threeNodes_listed, by decide +kernel, ?_⟩
  rintro ⟨removed, later, deleted, right⟩
  have kept : (threeNodes.deleteOutUser 4 (text "13800000002") 6).map (fun result =>
      (result.2.cells 2).isSome) = some true := by decide +kernel
  have found : (threeOnline (kindOf (text "13800000002"))).find?
      (fun pair => owns (text "13800000002") 6 pair.2) = some (2, onlineUser "13800000002" 6) := by
    decide +kernel
  have freed := (right.freed 2).mpr (.inr ⟨_, found⟩)
  rw [deleted, Option.map_some, freed] at kept
  exact absurd kept (by decide)

end UubangIot
