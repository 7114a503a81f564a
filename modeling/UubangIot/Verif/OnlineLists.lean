import UubangIot.Verif.TextFacts
import UubangIot.Server.Session

/-!
# The online lists

What a removal does when it does not stand between two nodes: it erases the first node of the id
on the socket and keeps the others, so the ids that were distinct stay so. Between two nodes it
frees the node after the one it unlinks.
-/

namespace UubangIot

/-- The nodes of a kind. -/
abbrev Lists.nodes (lists : Lists) (kind : Kind) : List User := (lists.head kind).nodes

/-- What holds of both kinds. -/
theorem Kind.forall_iff {property : Kind → Prop} :
    (∀ kind, property kind) ↔ property .user ∧ property .iot := by
  refine ⟨fun both => ⟨both .user, both .iot⟩, fun both kind => ?_⟩
  cases kind with
  | user => exact both.1
  | iot => exact both.2

instance {property : Kind → Prop} [DecidablePred property] : Decidable (∀ kind, property kind) :=
  decidable_of_iff _ Kind.forall_iff.symm

/-- A list that is set is the one that was given. -/
@[simp]
theorem Lists.head_setHead_self (lists : Lists) (kind : Kind) (head : ListHead) :
    (lists.setHead kind head).head kind = head := by
  cases kind <;> rfl

/-- Setting a list leaves the other one. -/
theorem Lists.head_setHead_of_ne (lists : Lists) {kind other : Kind} (head : ListHead)
    (different : other ≠ kind) : (lists.setHead kind head).head other = lists.head other := by
  cases kind <;> cases other <;> first
    | rfl
    | exact absurd rfl different

/-- `strcmp` returns 0 exactly when the texts before the first NUL are equal. -/
theorem streq_iff (left right : Bytes) : streq left right = true ↔ cstr left = cstr right := by
  simp [streq]

/-- The node of an id on a socket. -/
theorem owns_iff (userId : Bytes) (socket : Nat) (node : User) :
    owns userId socket node = true ↔
      cstr userId = cstr node.userId ∧ socket = node.userSocket := by
  simp [owns, streq]

/-- Ids of one text have one length. -/
theorem strlen_of_cstr {left right : Bytes} (same : cstr left = cstr right) :
    strlen left = strlen right := by
  rw [strlen, strlen, same]

/-- Ids of one text are in one list. -/
theorem kindOf_of_cstr {left right : Bytes} (same : cstr left = cstr right) :
    kindOf left = kindOf right := by
  rw [kindOf, kindOf, strlen_of_cstr same]

/-! ## Removals -/

/-- Among the nodes after the first, the one searched for has a successor. -/
def betweenLoop (userId : Bytes) (socket : Nat) : List User → Bool
  | [] => false
  | next :: rest =>
    if owns userId socket next then !rest.isEmpty else betweenLoop userId socket rest

/-- The node searched for has a predecessor and a successor. -/
def between (userId : Bytes) (socket : Nat) : List User → Bool
  | [] => false
  | tag :: rest => !owns userId socket tag && betweenLoop userId socket rest

/-- `delete_out_user` takes a node out between two others. -/
def Lists.removesBetween (lists : Lists) (userId : Bytes) (socket : Nat) : Bool :=
  decide (6 ≤ strlen userId) && between userId socket (lists.nodes (kindOf userId))

/-- The loop of a removal that is not between two nodes. -/
theorem unlinkLoop_eq (userId : Bytes) (socket : Nat) (nodes : List User)
    (outside : betweenLoop userId socket nodes = false) :
    unlinkLoop userId socket nodes =
      if nodes.any (owns userId socket) then some (nodes.eraseP (owns userId socket))
      else none := by
  induction nodes with
  | nil => rfl
  | cons next rest ih =>
    by_cases own : owns userId socket next = true
    · have last : rest = [] := by simpa [betweenLoop, own] using outside
      subst last
      simp [unlinkLoop, own, freeFirst]
    · have later : betweenLoop userId socket rest = false := by
        simpa [betweenLoop, own] using outside
      rw [unlinkLoop, if_neg own, ih later, List.eraseP_cons_of_neg own, List.any_cons,
        Bool.eq_false_of_not_eq_true own, Bool.false_or]
      split <;> rfl

/-- A removal that is not between two nodes erases the first node of the id on the socket. -/
theorem unlink_eq (userId : Bytes) (socket : Nat) (nodes : List User)
    (outside : between userId socket nodes = false) :
    unlink userId socket nodes =
      if nodes.any (owns userId socket) then some (nodes.eraseP (owns userId socket))
      else none := by
  cases nodes with
  | nil => rfl
  | cons tag rest =>
    by_cases own : owns userId socket tag = true
    · simp [unlink, own]
    · have later : betweenLoop userId socket rest = false := by
        simpa [between, own] using outside
      rw [unlink, if_neg own, unlinkLoop_eq userId socket rest later,
        List.eraseP_cons_of_neg own, List.any_cons, Bool.eq_false_of_not_eq_true own,
        Bool.false_or]
      split <;> rfl

/-- The nodes after a removal that is not between two of them. -/
theorem deleteOutUser_nodes (lists : Lists) (userId : Bytes) (socket : Nat)
    (outside : lists.removesBetween userId socket = false) (kind : Kind) :
    (lists.deleteOutUser userId socket).2.nodes kind =
      if 6 ≤ strlen userId ∧ kind = kindOf userId then
        (lists.nodes kind).eraseP (owns userId socket)
      else lists.nodes kind := by
  unfold Lists.deleteOutUser
  by_cases short : strlen userId < 6
  · rw [if_pos short, if_neg (fun found => absurd found.1 (by omega))]
  · have long : 6 ≤ strlen userId := by omega
    have clear : between userId socket (lists.nodes (kindOf userId)) = false := by
      simpa [Lists.removesBetween, long] using outside
    rw [if_neg short]
    dsimp only
    rw [unlink_eq userId socket _ clear]
    by_cases present : (lists.nodes (kindOf userId)).any (owns userId socket) = true
    · rw [if_pos present]
      by_cases own : kind = kindOf userId
      · subst own
        rw [if_pos ⟨long, rfl⟩, Lists.nodes, Lists.head_setHead_self]
      · rw [if_neg (fun found => own found.2), Lists.nodes, Lists.head_setHead_of_ne _ _ own]
    · rw [if_neg present]
      change lists.nodes kind = _
      split
      · rename_i own
        obtain ⟨-, rfl⟩ := own
        refine (List.eraseP_of_forall_not fun node member found => present ?_).symm
        exact List.any_eq_true.mpr ⟨node, member, found⟩
      · rfl

/-- A removal that is not between two nodes only takes nodes away. -/
theorem deleteOutUser_subset (lists : Lists) (userId : Bytes) (socket : Nat)
    (outside : lists.removesBetween userId socket = false) {kind : Kind} {node : User}
    (member : node ∈ (lists.deleteOutUser userId socket).2.nodes kind) :
    node ∈ lists.nodes kind := by
  rw [deleteOutUser_nodes lists userId socket outside] at member
  split at member
  · exact List.mem_of_mem_eraseP member
  · exact member

/-- Every node is on the socket and the connection of a former one. -/
def Paired (nodes former : List User) : Prop :=
  ∀ node ∈ nodes, ∃ old ∈ former, node.userSocket = old.userSocket ∧
    node.connHandle = old.connHandle

/-- The same node in front of both lists keeps them paired. -/
theorem Paired.cons {nodes former : List User} (paired : Paired nodes former) (first : User) :
    Paired (first :: nodes) (first :: former) := by
  intro node member
  rcases List.mem_cons.mp member with rfl | rest
  · exact ⟨node, List.mem_cons_self, rfl, rfl⟩
  · obtain ⟨old, present, same⟩ := paired node rest
    exact ⟨old, List.mem_cons_of_mem _ present, same⟩

/-- Fewer nodes are on the sockets of more. -/
theorem Paired.of_subset {nodes former : List User} (subset : nodes ⊆ former) :
    Paired nodes former := fun node member => ⟨node, subset member, rfl, rfl⟩

/-- The node that loses its memory keeps what was in it. -/
theorem freeFirst_paired (nodes : List User) : Paired (freeFirst nodes) nodes := by
  cases nodes with
  | nil => exact Paired.of_subset (List.Subset.refl _)
  | cons first rest =>
    intro node member
    rcases List.mem_cons.mp member with rfl | later
    · exact ⟨first, List.mem_cons_self, rfl, rfl⟩
    · exact ⟨node, List.mem_cons_of_mem _ later, rfl, rfl⟩

/-- The loop leaves nodes on their sockets. -/
theorem unlinkLoop_paired {userId : Bytes} {socket : Nat} {nodes rest : List User}
    (unlinked : unlinkLoop userId socket nodes = some rest) : Paired rest nodes := by
  induction nodes generalizing rest with
  | nil => cases unlinked
  | cons first nodes ih =>
    rw [unlinkLoop] at unlinked
    split at unlinked
    · obtain rfl := Option.some.inj unlinked
      intro node member
      obtain ⟨old, present, same⟩ := freeFirst_paired nodes node member
      exact ⟨old, List.mem_cons_of_mem _ present, same⟩
    · obtain ⟨later, loop, rfl⟩ := Option.map_eq_some_iff.mp unlinked
      exact (ih loop).cons first

/-- A removal within a list leaves nodes on their sockets. -/
theorem unlink_paired {userId : Bytes} {socket : Nat} {nodes rest : List User}
    (unlinked : unlink userId socket nodes = some rest) : Paired rest nodes := by
  cases nodes with
  | nil => cases unlinked
  | cons first nodes =>
    rw [unlink] at unlinked
    split at unlinked
    · obtain rfl := Option.some.inj unlinked
      exact Paired.of_subset (List.subset_cons_self _ _)
    · obtain ⟨later, loop, rfl⟩ := Option.map_eq_some_iff.mp unlinked
      exact (unlinkLoop_paired loop).cons first

/-- Every removal leaves the nodes on the sockets and connections they were on. -/
theorem deleteOutUser_paired (lists : Lists) (userId : Bytes) (socket : Nat) (kind : Kind) :
    Paired ((lists.deleteOutUser userId socket).2.nodes kind) (lists.nodes kind) := by
  unfold Lists.deleteOutUser
  split
  · exact Paired.of_subset (List.Subset.refl _)
  · dsimp only
    cases unlinked : unlink userId socket (lists.head (kindOf userId)).nodes with
    | none => exact Paired.of_subset (List.Subset.refl _)
    | some nodes =>
      by_cases own : kind = kindOf userId
      · subst own
        rw [Lists.nodes, Lists.head_setHead_self]
        exact unlink_paired unlinked
      · rw [Lists.nodes, Lists.head_setHead_of_ne _ _ own]
        exact Paired.of_subset (List.Subset.refl _)

/-- A removal that is not between two nodes keeps every node of another id or socket. -/
theorem deleteOutUser_keeps (lists : Lists) (userId : Bytes) (socket : Nat)
    (outside : lists.removesBetween userId socket = false) {kind : Kind} {node : User}
    (member : node ∈ lists.nodes kind) (other : owns userId socket node = false) :
    node ∈ (lists.deleteOutUser userId socket).2.nodes kind := by
  rw [deleteOutUser_nodes lists userId socket outside]
  split
  · exact (List.mem_eraseP_of_neg (Bool.eq_false_iff.mp other)).mpr member
  · exact member

/-- No two nodes of a list have one id. -/
def DistinctIds (nodes : List User) : Prop :=
  nodes.Pairwise fun first second => cstr first.userId ≠ cstr second.userId

/-- Distinct ids stay distinct over a removal that is not between two nodes. -/
theorem deleteOutUser_distinct (lists : Lists) (userId : Bytes) (socket : Nat)
    (outside : lists.removesBetween userId socket = false) (kind : Kind)
    (distinct : DistinctIds (lists.nodes kind)) :
    DistinctIds ((lists.deleteOutUser userId socket).2.nodes kind) := by
  rw [deleteOutUser_nodes lists userId socket outside]
  split
  · exact distinct.sublist List.eraseP_sublist
  · exact distinct

/-- At most one node of a list has the id. -/
def Single (userId : Bytes) (nodes : List User) : Prop :=
  nodes.Pairwise fun first second =>
    cstr first.userId = cstr userId → cstr second.userId ≠ cstr userId

/-- Of distinct ids there is one node each. -/
theorem DistinctIds.single {nodes : List User} (distinct : DistinctIds nodes) (userId : Bytes) :
    Single userId nodes :=
  distinct.imp fun apart first second => apart (first.trans second.symm)

/-- One node of an id is one node. -/
theorem Single.eq_of_mem {nodes : List User} {userId : Bytes} (single : Single userId nodes)
    {first second : User} (one : first ∈ nodes) (two : second ∈ nodes)
    (own : cstr first.userId = cstr userId) (same : cstr second.userId = cstr userId) :
    first = second := by
  induction nodes with
  | nil => exact nomatch one
  | cons node rest ih =>
    obtain ⟨apart, single⟩ := List.pairwise_cons.mp single
    rcases List.mem_cons.mp one with rfl | early
    · rcases List.mem_cons.mp two with rfl | late
      · rfl
      · exact absurd same (apart second late own)
    · rcases List.mem_cons.mp two with rfl | late
      · exact absurd own (apart first early same)
      · exact ih single early late

/-- One node of an id stays one over a removal that is not between two nodes. -/
theorem deleteOutUser_single (lists : Lists) (userId : Bytes) (socket : Nat)
    (outside : lists.removesBetween userId socket = false) (kind : Kind) {other : Bytes}
    (single : Single other (lists.nodes kind)) :
    Single other ((lists.deleteOutUser userId socket).2.nodes kind) := by
  rw [deleteOutUser_nodes lists userId socket outside]
  split
  · exact single.sublist List.eraseP_sublist
  · exact single

/-- The one node of an id is gone once it was removed. -/
theorem deleteOutUser_removes (lists : Lists) (userId : Bytes) (socket : Nat)
    (outside : lists.removesBetween userId socket = false) (long : 6 ≤ strlen userId)
    (single : Single userId (lists.nodes (kindOf userId)))
    (sockets : ∀ node ∈ lists.nodes (kindOf userId), cstr node.userId = cstr userId →
      node.userSocket = socket) :
    ∀ node ∈ (lists.deleteOutUser userId socket).2.nodes (kindOf userId),
      cstr node.userId ≠ cstr userId := by
  intro node member same
  rw [deleteOutUser_nodes lists userId socket outside, if_pos ⟨long, rfl⟩] at member
  have present := List.mem_of_mem_eraseP member
  have own : owns userId socket node = true :=
    (owns_iff _ _ _).mpr ⟨same.symm, (sockets node present same).symm⟩
  obtain ⟨first, before, after, -, found, split, erased⟩ := List.exists_of_eraseP present own
  have named : cstr first.userId = cstr userId := ((owns_iff _ _ _).mp found).1.symm
  rw [erased] at member
  rw [Single, split, List.pairwise_append, List.pairwise_cons] at single
  obtain ⟨-, ⟨later, -⟩, earlier⟩ := single
  rcases List.mem_append.mp member with member | member
  · exact earlier node member first List.mem_cons_self same named
  · exact later node member named same

/-! ## Insertions and searches -/

/-- The nodes after an insertion. -/
theorem newOnline_nodes (lists : Lists) (a : CLN) (kind : Kind) :
    (lists.newOnlineUserOrIotDev a).nodes kind =
      if kind = kindOf a.userId then a.node :: lists.nodes kind else lists.nodes kind := by
  unfold Lists.newOnlineUserOrIotDev
  split
  · rename_i own
    subst own
    dsimp only
    rw [Lists.nodes, Lists.head_setHead_self]
    rfl
  · rename_i other
    dsimp only
    rw [Lists.nodes, Lists.head_setHead_of_ne _ _ other]

/-- A search by name that finds nothing. -/
theorem find_none {lists : Lists} {kind : Kind} {userId : Bytes}
    (absent : lists.find kind (.name userId) = none) :
    ∀ node ∈ lists.nodes kind, cstr node.userId ≠ cstr userId := by
  intro node member same
  have found := List.find?_eq_none.mp absent node member
  exact found ((streq_iff _ _).mpr same.symm)

/-- A search by name that finds a node. -/
theorem find_some {lists : Lists} {kind : Kind} {userId : Bytes} {node : User}
    (found : lists.find kind (.name userId) = some node) :
    node ∈ lists.nodes kind ∧ cstr node.userId = cstr userId := by
  refine ⟨List.mem_of_find?_eq_some found, ?_⟩
  have matched : (Lookup.name userId).matches node = true := List.find?_some found
  exact ((streq_iff _ _).mp matched).symm

/-- The id of an inserted node. -/
theorem node_userId (a : CLN) : cstr a.node.userId = cstr a.userId := cstr_cstr a.userId

/-! ## Takeovers -/

/-- The lists after the node of an id was taken over. -/
def Lists.takeover (lists : Lists) (userId : Bytes) : Lists :=
  match lists.find (kindOf userId) (.name userId) with
  | none => lists
  | some node => (lists.deleteOutUser userId node.userSocket).2

/-- The lists after a sign-in, with or without memory for the node. -/
def Lists.signedIn (lists : Lists) (a : CLN) (inserted : Bool) : Lists :=
  if inserted then (lists.takeover a.userId).newOnlineUserOrIotDev a
  else lists.takeover a.userId

/-- The removal of a takeover does not stand between two nodes. -/
def Lists.clearTakeover (lists : Lists) (userId : Bytes) : Prop :=
  ∀ node ∈ lists.find (kindOf userId) (.name userId),
    lists.removesBetween userId node.userSocket = false

instance (lists : Lists) (userId : Bytes) : Decidable (lists.clearTakeover userId) :=
  inferInstanceAs (Decidable (∀ node ∈ _, _))

section

variable {lists : Lists} {userId : Bytes}

/-- A takeover is nothing, or a removal. -/
theorem takeover_cases (lists : Lists) (userId : Bytes) :
    (lists.find (kindOf userId) (.name userId) = none ∧ lists.takeover userId = lists) ∨
    ∃ node, lists.find (kindOf userId) (.name userId) = some node ∧
      lists.takeover userId = (lists.deleteOutUser userId node.userSocket).2 := by
  unfold Lists.takeover
  cases found : lists.find (kindOf userId) (.name userId) with
  | none => exact .inl ⟨rfl, rfl⟩
  | some node => exact .inr ⟨node, rfl, rfl⟩

/-- A takeover only takes nodes away. -/
theorem takeover_subset (clear : lists.clearTakeover userId) {kind : Kind} {node : User}
    (member : node ∈ (lists.takeover userId).nodes kind) : node ∈ lists.nodes kind := by
  obtain ⟨-, same⟩ | ⟨taken, found, removal⟩ := takeover_cases lists userId
  · exact same ▸ member
  · rw [removal] at member
    exact deleteOutUser_subset lists userId _ (clear taken found) member

/-- Distinct ids stay distinct over a takeover. -/
theorem takeover_distinct (clear : lists.clearTakeover userId) (kind : Kind)
    (distinct : DistinctIds (lists.nodes kind)) :
    DistinctIds ((lists.takeover userId).nodes kind) := by
  obtain ⟨-, same⟩ | ⟨taken, found, removal⟩ := takeover_cases lists userId
  · exact same.symm ▸ distinct
  · rw [removal]
    exact deleteOutUser_distinct lists userId _ (clear taken found) kind distinct

/-- One node of an id stays one over a takeover. -/
theorem takeover_single (clear : lists.clearTakeover userId) (kind : Kind) {other : Bytes}
    (single : Single other (lists.nodes kind)) :
    Single other ((lists.takeover userId).nodes kind) := by
  obtain ⟨-, same⟩ | ⟨taken, found, removal⟩ := takeover_cases lists userId
  · exact same.symm ▸ single
  · rw [removal]
    exact deleteOutUser_single lists userId _ (clear taken found) kind single

/-- The one node of an id is gone once it was taken over, when it may be removed. -/
theorem takeover_gone (clear : lists.clearTakeover userId)
    (single : Single userId (lists.nodes (kindOf userId)))
    (long : 6 ≤ strlen userId ∨ lists.find (kindOf userId) (.name userId) = none) :
    ∀ node ∈ (lists.takeover userId).nodes (kindOf userId), cstr node.userId ≠ cstr userId := by
  obtain ⟨absent, same⟩ | ⟨taken, found, removal⟩ := takeover_cases lists userId
  · rw [same]
    exact find_none absent
  · rw [removal]
    obtain ⟨member, named⟩ := find_some found
    have long : 6 ≤ strlen userId :=
      long.resolve_right fun absent => nomatch found.symm.trans absent
    refine deleteOutUser_removes lists userId _ (clear taken found) long single ?_
    intro node present same
    rw [single.eq_of_mem present member same named]

end

end UubangIot
