import UubangIot.Verif.Authorship
import UubangIot.Verif.PasswordCustody

/-!
# Registered names

What the registered lists are for: a dictionary from names to key ids. Nodes are only ever added, a
reload puts the newer in front, and a search answers with the first. So while the tables give each
name one key id, the dictionary only grows: a name that was found once is found ever after, with the
same key id.
-/

namespace UubangIot

open Effect Effect.Prog Transition Transition.System

/-! ## Statement -/

/-- The key id that a search for a name finds. -/
def Lists.keyOf (registered : Lists) (kind : Kind) (name : Bytes) : Option Int :=
  (registered.find kind (.name name)).map User.userKeyId

/-- An entry has the key id that the tables give its name. -/
def Entry.keyed (idOf : Bytes → Int) (entry : Entry) : Prop :=
  entry.userKeyId = idOf (cstr entry.userId)

/-- The entry that a note adds. -/
def Note.added : Note → Option Entry
  | .did _ ⟨.addtoLocal entry, _⟩ => some entry
  | _ => none

/-- The entries that a turn adds have the key ids of the tables. -/
def AddsKeyed (idOf : Bytes → Int) (now : Listed) (turn : Turn) : Prop :=
  ∀ note ∈ now.1.1.notes turn, ∀ entry ∈ note.added, entry.keyed idOf

instance (idOf : Bytes → Int) (now : Listed) (turn : Turn) : Decidable (AddsKeyed idOf now turn) :=
  inferInstanceAs (Decidable (∀ note ∈ now.1.1.notes turn, ∀ entry ∈ note.added,
    entry.userKeyId = idOf (cstr entry.userId)))

section

variable {config : Config} {registered lists online : Lists} {idOf : Bytes → Int} {op : Op}
  {response : op.Res} {now next : Listed} {turn : Turn} {kind : Kind} {name : Bytes} {id : Int}

/-! ## One turn -/

/-- Every node has the key id of its name. -/
def KeyedNodes (idOf : Bytes → Int) (lists : Lists) : Prop :=
  ∀ kind, ∀ node ∈ (lists.head kind).nodes, node.userKeyId = idOf (cstr node.userId)

/-- A row with the key of its name adds a node with it. -/
theorem keyedNodes_addtoLocal {entry : Entry} (nodes : KeyedNodes idOf registered)
    (keyed : entry.keyed idOf) : KeyedNodes idOf (registered.addtoLocal entry) := by
  intro kind node member
  rcases mem_addtoLocal member with rfl | old
  · have name : cstr entry.node.userId = cstr entry.userId := cstr_cstr entry.userId
    rw [name]
    exact keyed
  · exact nodes kind node old

/-- The nodes that were loaded have the keys of their names. -/
theorem loaded_keyedNodes {entries : List Entry} (keyed : ∀ entry ∈ entries, entry.keyed idOf) :
    KeyedNodes idOf (loaded entries) := by
  have grows (lists : Lists) (nodes : KeyedNodes idOf lists) :
      KeyedNodes idOf (entries.foldl Lists.addtoLocal lists) := by
    induction entries generalizing lists with
    | nil => exact nodes
    | cons entry rest ih =>
      apply ih fun other member => keyed other (List.mem_cons_of_mem _ member)
      exact keyedNodes_addtoLocal nodes (keyed entry List.mem_cons_self)
  apply grows
  intro kind node member
  cases kind <;> cases member

/-- A password that is set leaves names and key ids. -/
theorem of_mem_setNode {userId userPassword : Bytes} {nodes : List User} {node : User}
    (member : node ∈ setNode userId userPassword nodes) :
    ∃ old ∈ nodes, old.userId = node.userId ∧ old.userKeyId = node.userKeyId := by
  induction nodes with
  | nil => cases member
  | cons first rest ih =>
    rw [setNode] at member
    split at member
    · rcases List.mem_cons.mp member with rfl | later
      · exact ⟨first, List.mem_cons_self, rfl, rfl⟩
      · exact ⟨node, List.mem_cons_of_mem _ later, rfl, rfl⟩
    · rcases List.mem_cons.mp member with rfl | later
      · exact ⟨node, List.mem_cons_self, rfl, rfl⟩
      · obtain ⟨old, known, same⟩ := ih later
        exact ⟨old, List.mem_cons_of_mem _ known, same⟩

/-- The key ids after an operation. -/
theorem keyedNodes_after (nodes : KeyedNodes idOf registered)
    (adds : ∀ entry, op = .addtoLocal entry → entry.keyed idOf)
    (stepped : ((Directory.mk registered online).after ⟨op, response⟩).map Directory.registered =
      some lists) : KeyedNodes idOf lists := by
  obtain ⟨directory, changed, rfl⟩ := Option.map_eq_some_iff.mp stepped
  have other (registers : ∀ entry, op ≠ .addtoLocal entry)
      (renews : ∀ userId userPassword, op ≠ .setRegisterPassword userId userPassword) :
      KeyedNodes idOf directory.registered := by
    rw [registered_after changed registers renews]
    exact nodes
  cases op with
  | addtoLocal entry =>
    simp only [Directory.after] at changed
    split at changed
    · obtain rfl := Option.some.inj changed
      exact keyedNodes_addtoLocal nodes (adds entry rfl)
    · split at changed
      · obtain rfl := Option.some.inj changed
        exact nodes
      · cases changed
  | setRegisterPassword userId userPassword =>
    obtain rfl := Option.some.inj changed
    intro kind node member
    cases kind with
    | iot => exact nodes .iot node member
    | user =>
      obtain ⟨old, known, sameId, sameKey⟩ := of_mem_setNode member
      rw [← sameId, ← sameKey]
      exact nodes .user old known
  | _ => exact other (fun _ => Op.noConfusion) fun _ _ => Op.noConfusion

/-- The lists after a turn: the same, or those after the operation it has noted. -/
theorem listed_lists (turned : (listed config).step now turn = some next) :
    next.2 = now.2 ∨ ∃ object op, ∃ response : op.Res,
      .did object ⟨op, response⟩ ∈ now.1.1.notes turn ∧
        ((Directory.mk now.2 now.1.1.memory.online).after ⟨op, response⟩).map
          Directory.registered = some next.2 := by
  have stepped := (listed_step turned).1
  obtain ⟨⟨server, log⟩, registered⟩ := now
  obtain ⟨⟨after, history⟩, lists⟩ := next
  have shown : history = log ++ server.notes turn := (observed_step.mp stepped).2
  obtain ⟨conn, record, packet, allocated, -, -, -, rfl⟩ |
    ⟨index, task, op, rest, response, memory, -, -, -, rfl, answers⟩ | ⟨-, -, rfl⟩ :=
      listed_cases turned
  · exact .inl rfl
  · have noted := List.append_cancel_left shown
    exact .inr ⟨task.object, op, response, noted ▸ List.mem_cons_self, answers⟩
  · exact .inl rfl

/-- The key ids after a turn. -/
theorem keyedNodes_turn (now : Listed) (turn : Turn) (next : Listed)
    (adds : AddsKeyed idOf now turn) (nodes : KeyedNodes idOf now.2)
    (turned : (listed config).step now turn = some next) :
    KeyedNodes idOf next.2 := by
  rcases listed_lists turned with same | ⟨object, op, response, noted, answered⟩
  · exact same ▸ nodes
  · apply keyedNodes_after nodes _ answered
    rintro entry rfl
    exact adds _ noted entry rfl

/-- A turn keeps the nodes. -/
theorem stays_turn (turned : (listed config).step now turn = some next) : Stays now.2 next.2 := by
  rcases listed_lists turned with same | ⟨object, op, response, noted, answered⟩
  · exact same ▸ Stays.of_subset fun kind => List.Subset.refl _
  · exact stays_after answered

/-! ## The dictionary -/

/-- A name that is found has the key id of the tables. -/
theorem KeyedNodes.keyOf (nodes : KeyedNodes idOf registered)
    (found : registered.keyOf kind name = some id) :
    id = idOf (cstr name) ∧ ∃ node ∈ (registered.head kind).nodes,
      streq name node.userId = true := by
  obtain ⟨node, search, rfl⟩ := Option.map_eq_some_iff.mp found
  have named : (Lookup.name name).matches node = true := List.find?_some search
  have member : node ∈ (registered.head kind).nodes := List.mem_of_find?_eq_some search
  have same : cstr name = cstr node.userId := (streq_iff _ _).mp named
  exact ⟨same ▸ nodes kind node member, node, member, named⟩

/-- What was found is found in lists that have kept the nodes. -/
theorem KeyedNodes.keep (before : KeyedNodes idOf registered) (nodes : KeyedNodes idOf lists)
    (stays : Stays registered lists) (found : registered.keyOf kind name = some id) :
    lists.keyOf kind name = some id := by
  obtain ⟨own, node, member, named⟩ := before.keyOf found
  obtain ⟨later, present, sameId, -⟩ := stays kind node member
  have matched : (Lookup.name name).matches later = true := by
    change streq name later.userId = true
    rw [sameId]
    exact named
  have some : (lists.find kind (.name name)).isSome = true :=
    List.find?_isSome.mpr ⟨later, present, matched⟩
  obtain ⟨first, search⟩ := Option.isSome_iff_exists.mp some
  have finds : lists.keyOf kind name = Option.some first.userKeyId := by
    rw [Lists.keyOf, search]
    rfl
  rw [finds, own, (nodes.keyOf finds).1]

end

/-- A request for a new password reloads the lists, and one user is new. -/
def reloadsOne (entry : Entry) : List Turn :=
  .event (.receive 0 rpaPacket true) ::
    [.unit, .bytes [], .found (some entry.node), .node (some 0), .query .done,
      .rows (some [[text "8", text "13900000000", [], text "other", []]]), .int 1].map (.step 1)

end UubangIot
