import UubangIot.Verif.DeviceOperations
import UubangIot.Verif.Warrants

/-!
# For whom rows are stored and read

Statements carry the key id of their request, which was copied from its connection, where a sign-in
has written the key id of the registered node it had found. So every statement that names an author
names nobody, a value that was never written, or somebody whose name and password the connection has
given before.
-/

namespace UubangIot

open Effect Effect.Prog Transition Transition.System

section

variable {config : Config} {server after : ServerState} {log history : List Note} {turn : Turn}
  {registered lists online : Lists} {op : Op} {response : op.Res} {object conn : Nat} {id : Int}

/-! ## Statement -/

/-- A key id is that of a registered node whose name has been checked on a connection. -/
def HoldsKey (registered : Lists) (log : List Note) (conn : Nat) (id : Int) : Prop :=
  ∃ kind, ∃ node ∈ (registered.head kind).nodes, node.userKeyId = id ∧
    cstr node.userId ∈ passedNames log conn

/-- The author of a statement is nobody, was never written, or has signed in on the connection. -/
def Authored (registered : Lists) (before : List Note) : Note → Prop
  | .did object ⟨.realQuery _ statement, _⟩ => ∀ id, statement.author = some id →
      ∃ request, Requested before object request ∧
        (id = 0 ∨ .did object ⟨.uninitialisedInt, id⟩ ∈ before ∨
          HoldsKey registered before request.conn id)
  | _ => True

/-! ## Registered nodes stay -/

/-- The nodes keep their ids and key ids. -/
def Stays (registered lists : Lists) : Prop :=
  ∀ kind, ∀ node ∈ (registered.head kind).nodes, ∃ later ∈ (lists.head kind).nodes,
    later.userId = node.userId ∧ later.userKeyId = node.userKeyId

/-- Nodes that are still there stay. -/
theorem Stays.of_subset
    (subset : ∀ kind, (registered.head kind).nodes ⊆ (lists.head kind).nodes) :
    Stays registered lists := fun kind node member => ⟨node, subset kind member, rfl, rfl⟩

/-- A password that is set leaves ids and key ids. -/
theorem setNode_stays {userId userPassword : Bytes} {nodes : List User} {node : User}
    (member : node ∈ nodes) : ∃ later ∈ setNode userId userPassword nodes,
      later.userId = node.userId ∧ later.userKeyId = node.userKeyId := by
  induction nodes with
  | nil => cases member
  | cons first rest ih =>
    rw [setNode]
    split
    · rcases List.mem_cons.mp member with rfl | old
      · exact ⟨_, List.mem_cons_self, rfl, rfl⟩
      · exact ⟨node, List.mem_cons_of_mem _ old, rfl, rfl⟩
    · rcases List.mem_cons.mp member with rfl | old
      · exact ⟨node, List.mem_cons_self, rfl, rfl⟩
      · obtain ⟨later, present, same⟩ := ih old
        exact ⟨later, List.mem_cons_of_mem _ present, same⟩

/-- An operation that leaves the registered lists as they are keeps what stays in them. -/
theorem stays_after (stepped : ((Directory.mk registered online).after ⟨op, response⟩).map
    Directory.registered = some lists) : Stays registered lists := by
  obtain ⟨directory, changed, rfl⟩ := Option.map_eq_some_iff.mp stepped
  have other (registers : ∀ entry, op ≠ .addtoLocal entry)
      (renews : ∀ userId userPassword, op ≠ .setRegisterPassword userId userPassword) :
      Stays registered directory.registered := by
    rw [registered_after changed registers renews]
    exact Stays.of_subset fun kind => List.Subset.refl _
  cases op with
  | addtoLocal entry =>
    simp only [Directory.after] at changed
    split at changed
    · obtain rfl := Option.some.inj changed
      apply Stays.of_subset
      intro kind
      change _ ⊆ ((registered.addtoLocal entry).head kind).nodes
      rw [Lists.addtoLocal]
      cases kindOf entry.userId <;> cases kind <;>
        first | exact List.subset_cons_self _ _ | exact List.Subset.refl _
    · split at changed
      · obtain rfl := Option.some.inj changed
        exact Stays.of_subset fun kind => List.Subset.refl _
      · cases changed
  | setRegisterPassword userId userPassword =>
    obtain rfl := Option.some.inj changed
    intro kind node member
    cases kind with
    | user => exact setNode_stays member
    | iot => exact ⟨node, member, rfl, rfl⟩
  | _ => exact other (fun _ => Op.noConfusion) fun _ _ => Op.noConfusion

/-! ## What connections hold -/

/-- The objects of sign-ins stay so. -/
theorem signers_append (log notes : List Note) (conn : Nat) :
    signers log conn ⊆ signers (log ++ notes) conn := by
  intro object member
  rw [signers, List.filterMap_append, List.filter_append, List.map_append]
  exact List.mem_append_left _ member

/-- A name that was checked stays so. -/
theorem passedNames_append (log notes : List Note) (conn : Nat) :
    passedNames log conn ⊆ passedNames (log ++ notes) conn := by
  intro name member
  obtain ⟨object, signer, passed⟩ := List.mem_flatMap.mp member
  obtain ⟨happening, done, named⟩ := List.mem_filterMap.mp passed
  have kept : happening ∈ deeds (log ++ notes) object :=
    mem_deeds.mpr (List.mem_append_left _ (mem_deeds.mp done))
  exact List.mem_flatMap.mpr ⟨object, signers_append log notes conn signer,
    List.mem_filterMap.mpr ⟨happening, kept, named⟩⟩

/-- What a connection holds it keeps. -/
theorem HoldsKey.mono (holds : HoldsKey registered log conn id) (stays : Stays registered lists)
    (notes : List Note) : HoldsKey lists (log ++ notes) conn id := by
  obtain ⟨kind, node, listed, key, name⟩ := holds
  obtain ⟨later, present, sameId, sameKey⟩ := stays kind node listed
  refine ⟨kind, later, present, sameKey.trans key, ?_⟩
  rw [sameId]
  exact passedNames_append log notes conn name

/-- An author that was right stays so. -/
theorem Authored.mono {note : Note} (authored : Authored registered log note)
    (stays : Stays registered lists) : Authored lists log note := by
  cases note with
  | received => trivial
  | did object happening =>
    obtain ⟨op, response⟩ := happening
    cases op with
    | realQuery node statement =>
      intro id author
      obtain ⟨request, requested, whose⟩ := authored id author
      refine ⟨request, requested, whose.imp_right fun whose => whose.imp_right fun holds => ?_⟩
      have later := holds.mono stays []
      rw [List.append_nil] at later
      exact later
    | _ => trivial

/-- Nothing was written to a connection. -/
theorem keyId_of_silent
    (silent : ∀ object key, .did object ⟨.setConnUserKeyId conn key, ()⟩ ∉ log) :
    keyId log conn = 0 := by
  induction log using List.reverseRecOn with
  | nil => rfl
  | append_singleton notes note ih =>
    have before := ih fun object key member => silent object key (List.mem_append_left _ member)
    rw [keyId_snoc, before]
    cases wrote : note.keyId conn with
    | none => rfl
    | some id =>
      exfalso
      cases note with
      | received => cases wrote
      | did writer happening =>
        obtain ⟨op, response⟩ := happening
        cases op with
        | setConnUserKeyId other key =>
          by_cases own : other = conn
          · subst own
            exact silent writer key (List.mem_append_right _ List.mem_cons_self)
          · exact Option.some_ne_none _ (wrote.symm.trans (if_neg own))
        | _ => cases wrote

/-! ## Every turn -/

/-- What a run of the server with its registered lists keeps. -/
structure Attributed (config : Config) (now : Listed) : Prop where
  told : Told config now.1
  trail : Trail now.1
  /-- What searches have found is registered. -/
  finds : ∀ object kind userId, ∀ node : User,
    .did object ⟨.findRegister kind (.name userId), (some node : Option User)⟩ ∈ now.1.2 →
      streq userId node.userId = true ∧ ∃ later ∈ (now.2.head kind).nodes,
        later.userId = node.userId ∧ later.userKeyId = node.userKeyId
  /-- The key ids of requests. -/
  asked : ∀ object request, Requested now.1.2 object request → request.userKeyId = 0 ∨
    HoldsKey now.2 now.1.2 request.conn request.userKeyId
  /-- The statements. -/
  authored : Throughout (Authored now.2) now.1.2

/-- Before the first connection no statement is made. -/
theorem attributed_initial (config : Config) (entries : List Entry) :
    Attributed config ((.initial, []), loaded entries) where
  told := told_initial config
  trail := trail_initial
  finds _ _ _ _ member := by cases member
  asked _ _ requested := by
    obtain ⟨note, member, -⟩ := requested
    cases member
  authored := throughout_nil

/-- The key id of a connection. -/
theorem Attributed.keyed (attributed : Attributed config ((server, log), registered)) (conn : Nat) :
    keyId log conn = 0 ∨ HoldsKey registered log conn (keyId log conn) := by
  by_cases written : ∃ object key, .did object ⟨.setConnUserKeyId conn key, ()⟩ ∈ log
  · obtain ⟨writer, last⟩ := keyId_written written
    obtain ⟨userId, kind, found, passed, key, searched⟩ := attributed.told.wroteKey last
    obtain ⟨named, later, present, sameId, sameKey⟩ :=
      attributed.finds writer kind userId found searched
    have name : cstr later.userId = cstr userId := by
      rw [sameId]
      exact ((streq_iff _ _).mp named).symm
    exact .inr ⟨kind, later, present, sameKey.trans key, name ▸ passed⟩
  · apply Or.inl
    apply keyId_of_silent
    intro object key member
    exact written ⟨object, key, member⟩

/-- Turns without a note of an operation. -/
theorem Attributed.keep (attributed : Attributed config ((server, log), registered))
    (told : Told config (after, log)) (trail : Trail (after, log)) :
    Attributed config ((after, log), registered) :=
  ⟨told, trail, attributed.finds, attributed.asked, attributed.authored⟩

/-- A packet: its request has the key id of its connection. -/
theorem Attributed.receive (attributed : Attributed config ((server, log), registered))
    {record : CLN} {packet : Bytes} {allocated : Bool}
    (known : server.memory.conns conn = some record)
    (told : Told config (after, log ++ [.received conn record packet allocated object]))
    (trail : Trail (after, log ++ [.received conn record packet allocated object])) :
    Attributed config
      ((after, log ++ [.received conn record packet allocated object]), registered) where
  told := told
  trail := trail
  finds other kind userId node member := by
    rcases List.mem_append.mp member with old | new
    · exact attributed.finds other kind userId node old
    · cases List.mem_singleton.mp new
  asked other request requested := by
    have stays : Stays registered registered := Stays.of_subset fun kind => List.Subset.refl _
    rcases requested_append.mp requested with old | new
    · exact (attributed.asked other request old).imp_right fun holds => holds.mono stays _
    · have asks := requested_singleton.mp new
      rw [Note.request, Option.map_eq_some_iff] at asks
      obtain ⟨made, copied, same⟩ := asks
      rw [← (Prod.mk.inj same).2]
      have copy := requestOf_copied copied
      rw [copy.userKeyId, copy.fields.1, attributed.trail.key conn record known]
      exact (attributed.keyed conn).imp_right fun holds => holds.mono stays _
  authored := (throughout_snoc _ _).mpr ⟨attributed.authored, trivial⟩

/-- A statement of a request is for the key id of the request or one never written. -/
theorem warrants_signs {a : CLN} {past : List Happening} {node : Nat} {statement : Statement}
    (warranted : a.warrants past (.realQuery node statement)) : a.signs past statement := by
  cases statement with
  | updatePassword passWord id =>
    intro author same
    rw [← Option.some.inj same]
    exact .inl warranted.1
  | _ => exact warranted

/-- An operation of a task. -/
theorem Attributed.authors (attributed : Attributed config ((server, log), registered))
    {request : CLN} (requested : Requested log object request)
    (warranted : request.warrants (deeds log object) op) :
    Authored registered log (.did object ⟨op, response⟩) := by
  cases op with
  | realQuery node statement =>
    intro id author
    refine ⟨request, requested, ?_⟩
    rcases warrants_signs warranted id author with rfl | uninitialised
    · exact (attributed.asked object request requested).imp_right .inr
    · exact .inr (.inl (mem_deeds.mp uninitialised))
  | _ => trivial

/-- An operation of a task, with what the lists answer. -/
theorem Attributed.did (attributed : Attributed config ((server, log), registered))
    (told : Told config (after, log ++ [.did object ⟨op, response⟩]))
    (trail : Trail (after, log ++ [.did object ⟨op, response⟩]))
    (authored : Authored registered log (.did object ⟨op, response⟩))
    (stepped : ((Directory.mk registered online).after ⟨op, response⟩).map Directory.registered =
      some lists) :
    Attributed config ((after, log ++ [.did object ⟨op, response⟩]), lists) where
  told := told
  trail := trail
  finds other kind userId node member := by
    have stays := stays_after stepped
    rcases List.mem_append.mp member with old | new
    · obtain ⟨named, later, present, sameId, sameKey⟩ :=
        attributed.finds other kind userId node old
      obtain ⟨last, there, lastId, lastKey⟩ := stays kind later present
      exact ⟨named, last, there, lastId.trans sameId, lastKey.trans sameKey⟩
    · obtain ⟨rfl, same⟩ := Note.did.inj (List.mem_singleton.mp new)
      rw [← same] at stepped
      have found : (registered.head kind).nodes.find? (Lookup.name userId).matches = some node :=
        (search_after stepped).symm
      have named : (Lookup.name userId).matches node = true := List.find?_some found
      exact ⟨named, stays_after stepped kind node (List.mem_of_find?_eq_some found)⟩
  asked other request requested := by
    rcases requested_append.mp requested with old | new
    · exact (attributed.asked other request old).imp_right fun holds =>
        holds.mono (stays_after stepped) _
    · have asks := requested_singleton.mp new
      rw [Note.request] at asks
      cases asks
  authored := by
    have stays := stays_after stepped
    have old : Throughout (Authored lists) log := fun before note rest split =>
      (attributed.authored before note rest split).mono stays
    exact (throughout_snoc _ _).mpr ⟨old, authored.mono stays⟩

/-- A turn keeps the account of who has added which statement. -/
theorem attributed_turn (config : Config) (now : Listed) (turn : Turn) (next : Listed)
    (attributed : Attributed config now) (turned : (listed config).step now turn = some next) :
    Attributed config next := by
  have stepped := (listed_step turned).1
  have told := told_turn config now.1 turn next.1 attributed.told stepped
  have trail := trail_turn config now.1 turn next.1 attributed.told attributed.trail stepped
  obtain ⟨⟨server, log⟩, registered⟩ := now
  obtain ⟨⟨after, history⟩, lists⟩ := next
  obtain ⟨conn, record, packet, allocated, known, received, rfl, rfl⟩ |
    ⟨index, task, op, rest, response, memory, found, program, rfl, rfl, answers⟩ |
    ⟨fewer, rfl, rfl⟩ := listed_cases turned
  · exact attributed.receive known told trail
  · obtain ⟨requested, comes⟩ := attributed.told.pooled task (List.mem_of_getElem? found)
    rw [program] at comes
    have warranted : task.request.warrants (deeds log task.object) op :=
      (talk_warranted config task.request []).comes comes
    exact attributed.did told trail (attributed.authors requested warranted) answers
  · exact attributed.keep told trail

end

/-- The query is made. -/
def readsScenes : List Turn := asksScenes ++ [.step 2 (.query .done)]

/-- A note of a statement for a key id. -/
def Note.statesFor (id : Int) : Note → Bool
  | .did _ ⟨.realQuery _ statement, _⟩ => statement.author = some id
  | _ => false

/-- A device signs in and reads its scenes. -/
def signsAndReads : List (Turn × Listed × NodeNumbers) :=
  certain ((.initial, []), loaded [])
    (greets ++ deviceSigns (entryOf "device01" 7) ++ readsScenes)

end UubangIot
