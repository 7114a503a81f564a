import UubangIot.Verif.Chronicle

/-!
# What the chronicle tells of a sign-in

The flag and the key id of a connection are those that the chronicle has last seen written, and only
requests of the connection that sign somebody in have written them.
-/

namespace UubangIot

open Effect Effect.Prog Transition Transition.System

/-! ## Writes of a sign-in -/

/-- The flag of a connection is set. -/
def Note.flags (conn : Nat) : Note → Bool
  | .did _ happening => happening.1 = .setConnSignedIn conn
  | .received _ _ _ _ _ => false

/-- The flag of a connection was set. -/
def flagged (log : List Note) (conn : Nat) : Bool := log.any (Note.flags conn)

/-- The key id that an operation writes to a connection. -/
def Op.keyIdOf (conn : Nat) : Op → Option Int
  | .setConnUserKeyId other id => if other = conn then some id else none
  | _ => none

/-- The key id that is written to a connection. -/
def Note.keyId (conn : Nat) : Note → Option Int
  | .did _ happening => happening.1.keyIdOf conn
  | .received _ _ _ _ _ => none

/-- The key id that was last written to a connection. -/
def keyId (log : List Note) (conn : Nat) : Int :=
  log.foldl (fun id note => (note.keyId conn).getD id) 0

variable {log : List Note} {conn : Nat}

/-- The flag after one more note is what the note sets, or the flag before it. -/
theorem flagged_snoc (note : Note) :
    flagged (log ++ [note]) conn = (flagged log conn || note.flags conn) := by
  simp [flagged]

/-- The key id after one more note is what the note stores, or the one before it. -/
theorem keyId_snoc (note : Note) :
    keyId (log ++ [note]) conn = (note.keyId conn).getD (keyId log conn) := by
  simp [keyId]

/-! ## Who writes -/

/-- What a request may do. -/
def CLN.allows (a : CLN) (op : Op) : Prop :=
  op.routine = true ∨ op.role = .accounting ∨ op.role = .key ∨
    (a.signing = true ∧ op.signsFor a.conn)

/-- A request signs in only its own connection. -/
theorem talk_allows (config : Config) (a : CLN) : (talk config a).Only a.allows := by
  have leads : (talk config a).Leads a.allows (fun _ => True)
      fun rest => rest = finish a ∨ (True ∧ rest = .ret ()) :=
    request_leads (fun _ routine => .inl routine) config a
      (fun signing _ signs => .inr (.inr (.inr ⟨signing, signs⟩)))
      (fun _ _ key => .inr (.inr (.inl key))) (fun _ => trivial) fun _ _ _ => trivial
  refine leads.only (fun _ => trivial) (fun _ allowed => allowed) fun rest ends => ?_
  rcases ends with rfl | ⟨-, rfl⟩
  · exact ⟨.inr (.inl rfl), fun _ => ⟨.inr (.inl rfl), fun _ => trivial⟩⟩
  · trivial

/-- A request that sets a flag. -/
theorem allows_signedIn {a : CLN} (allowed : a.allows (.setConnSignedIn conn)) :
    a.signing = true ∧ conn = a.conn := by
  rcases allowed with routine | accounting | key | signs
  · cases routine
  · cases accounting
  · cases key
  · exact signs

/-- A request that writes a key id. -/
theorem allows_userKeyId {a : CLN} {id : Int} (allowed : a.allows (.setConnUserKeyId conn id)) :
    a.signing = true ∧ conn = a.conn := by
  rcases allowed with routine | accounting | key | signs
  · cases routine
  · cases accounting
  · cases key
  · exact signs

variable {config : Config} {now : ServerState × List Note}

/-- What has been done was allowed to its request. -/
theorem Told.allows (told : Told config now) {object : Nat} {request : CLN}
    (requested : Requested now.2 object request) {happening : Happening}
    (done : happening ∈ deeds now.2 object) : request.allows happening.1 := by
  obtain ⟨rest, comes⟩ := told.comes requested
  exact ((talk_allows config request).comes comes).1 happening done

/-- An operation in the chronicle is one of its object. -/
theorem mem_deeds {object : Nat} {happening : Happening} :
    happening ∈ deeds log object ↔ .did object happening ∈ log := by
  rw [deeds, List.mem_filterMap]
  constructor
  · rintro ⟨note, member, deed⟩
    cases note with
    | received => cases deed
    | did other done =>
      rw [Note.deed] at deed
      split at deed
      · rename_i own
        rw [← Option.some.inj deed, ← own]
        exact member
      · cases deed
  · intro member
    exact ⟨_, member, if_pos rfl⟩

/-- A flag was set by a request of its connection that signs somebody in. -/
theorem Told.flagged (told : Told config now) (set : flagged now.2 conn = true) :
    ∃ object request response, Requested now.2 object request ∧ request.conn = conn ∧
      request.signing = true ∧ ⟨.setConnSignedIn conn, response⟩ ∈ deeds now.2 object := by
  obtain ⟨note, member, flags⟩ := List.any_eq_true.mp set
  cases note with
  | received => cases flags
  | did object happening =>
    obtain ⟨op, response⟩ := happening
    obtain rfl : op = .setConnSignedIn conn := of_decide_eq_true flags
    obtain ⟨request, requested⟩ := told.acted object _ member
    have done := mem_deeds.mpr member
    have both := allows_signedIn (told.allows requested done)
    exact ⟨object, request, response, requested, both.2.symm, both.1, done⟩

/-- A key id was written by a request of its connection that signs somebody in. -/
theorem Told.keyed (told : Told config now) {object : Nat} {id : Int}
    {response : (Op.setConnUserKeyId conn id).Res}
    (member : .did object ⟨.setConnUserKeyId conn id, response⟩ ∈ now.2) :
    ∃ request, Requested now.2 object request ∧ request.conn = conn ∧ request.signing = true := by
  obtain ⟨request, requested⟩ := told.acted object _ member
  have both := allows_userKeyId (told.allows requested (mem_deeds.mpr member))
  exact ⟨request, requested, both.2.symm, both.1⟩

/-! ## The record of a connection -/

/-- The flag and the key id of every connection are those of the chronicle. -/
structure Trail (now : ServerState × List Note) : Prop where
  /-- Connections are accepted. -/
  numbered : ∀ conn record, now.1.memory.conns conn = some record → conn < now.1.accepted
  /-- Requests are of accepted connections. -/
  requests : ∀ object request, Requested now.2 object request → request.conn < now.1.accepted
  /-- The flag. -/
  flag : ∀ conn record, now.1.memory.conns conn = some record →
    (record.info0 = yes ↔ flagged now.2 conn = true)
  /-- The key id. -/
  key : ∀ conn record, now.1.memory.conns conn = some record →
    record.userKeyId = keyId now.2 conn

/-- Before the first connection nothing was written. -/
theorem trail_initial : Trail (.initial, []) where
  numbered _ _ known := by cases known
  requests _ _ requested := by
    obtain ⟨note, member, -⟩ := requested
    cases member
  flag _ _ known := by cases known
  key _ _ known := by cases known

/-- A connection that has not been accepted has no trail. -/
theorem Trail.unseen (trail : Trail now) (told : Told config now) :
    flagged now.2 now.1.accepted = false ∧ keyId now.2 now.1.accepted = 0 := by
  constructor
  · apply Bool.eq_false_of_not_eq_true
    intro set
    obtain ⟨object, request, -, requested, own, -⟩ := told.flagged set
    exact (own ▸ trail.requests object request requested).ne rfl
  · have silent (note : Note) (member : note ∈ now.2) : note.keyId now.1.accepted = none := by
      cases note with
      | received => rfl
      | did object happening =>
        by_contra writes
        obtain ⟨op, response⟩ := happening
        cases op with
        | setConnUserKeyId conn id =>
          by_cases own : conn = now.1.accepted
          · subst own
            obtain ⟨request, requested, own, -⟩ := told.keyed member
            exact (own ▸ trail.requests object request requested).ne rfl
          · exact writes (if_neg own)
        | _ => exact writes rfl
    rw [keyId]
    generalize now.2 = notes at silent
    induction notes with
    | nil => rfl
    | cons note notes ih =>
      rw [List.foldl_cons, silent note List.mem_cons_self]
      exact ih fun other member => silent other (List.mem_cons_of_mem _ member)

/-- The flag and the key id after an operation. -/
theorem after_signs {memory after : Memory} {op : Op} {response : op.Res}
    (stepped : memory.after ⟨op, response⟩ = some after) {record : CLN}
    (found : after.conns conn = some record) :
    ∃ before, memory.conns conn = some before ∧
      (record.info0 = if op = .setConnSignedIn conn then yes else before.info0) ∧
      record.userKeyId = (op.keyIdOf conn).getD before.userKeyId := by
  obtain ⟨before, known, rfl⟩ := after_record stepped found
  refine ⟨before, known, ?_⟩
  cases op with
  | setConnSignedIn other =>
    by_cases own : conn = other
    · subst own
      simp [Op.writes, Op.keyIdOf]
    · simp [Op.writes, Op.keyIdOf, own, Ne.symm own]
  | setConnUserKeyId other id =>
    by_cases own : conn = other
    · subst own
      simp [Op.writes, Op.keyIdOf]
    · simp [Op.writes, Op.keyIdOf, own, Ne.symm own]
  | _ =>
    dsimp only [Op.writes, Op.keyIdOf]
    first
    | exact ⟨by simp, rfl⟩
    | split <;> exact ⟨by simp [CLN.advanceSeqNum], rfl⟩

/-- A packet leaves the flag and the key id of every connection. -/
theorem receive_signs {server after : ServerState} {packet : Bytes} {allocated : Bool}
    {other : Nat} {record : CLN} (received : server.receive config conn packet allocated = some after)
    (found : after.memory.conns other = some record) :
    after.accepted = server.accepted ∧ ∃ before, server.memory.conns other = some before ∧
      record.info0 = before.info0 ∧ record.userKeyId = before.userKeyId := by
  obtain ⟨old, known, ⟨-, rfl⟩ | ⟨-, -, rfl⟩ | ⟨later, greeted, rfl⟩ |
    ⟨-, -, later, request, greeted, -, -, rfl⟩⟩ := receive_cases received
  · exact ⟨rfl, record, found, rfl, rfl⟩
  · exact ⟨rfl, record, found, rfl, rfl⟩
  all_goals
    refine ⟨rfl, ?_⟩
    obtain ⟨before, present, rfl⟩ := write_record found
    refine ⟨before, present, ?_⟩
    obtain ⟨checkcode, info1, rfl⟩ := greeted
    by_cases own : other = conn
    · subst own
      obtain rfl := Option.some.inj (known.symm.trans present)
      rw [if_pos rfl]
      exact ⟨rfl, rfl⟩
    · rw [if_neg own]
      exact ⟨rfl, rfl⟩

/-- A turn keeps the flags and the key ids those of the chronicle. -/
theorem trail_turn (config : Config) (now : ServerState × List Note) (turn : Turn)
    (next : ServerState × List Note) (told : Told config now) (trail : Trail now)
    (turned : (chronicled config).step now turn = some next) : Trail next := by
  have unseen := trail.unseen told
  obtain ⟨server, log⟩ := now
  obtain ⟨after, history⟩ := next
  obtain ⟨conn, record, packet, allocated, -, known, received, rfl⟩ |
    ⟨index, answer, task, op, rest, response, memory, -, -, -, -, written, rfl, rfl⟩ |
    ⟨index, task, -, -, -, rfl, rfl⟩ | ⟨passes, rfl⟩ := chronicled_cases turned
  · have accepted : after.accepted = server.accepted := by
      obtain ⟨-, -, ⟨-, rfl⟩ | ⟨-, -, rfl⟩ | ⟨-, -, rfl⟩ | ⟨-, -, -, -, -, -, -, rfl⟩⟩ :=
        receive_cases received
      all_goals rfl
    constructor
    · intro other found present
      obtain ⟨-, before, old, -⟩ := receive_signs received present
      exact accepted.symm ▸ trail.numbered other before old
    · intro object request requested
      change request.conn < after.accepted
      rw [accepted]
      rcases requested_append.mp requested with old | new
      · exact trail.requests object request old
      · have own := requested_singleton.mp new
        rw [Note.request, Option.map_eq_some_iff] at own
        obtain ⟨made, asks, same⟩ := own
        rw [← (Prod.mk.inj same).2, (requestOf_copied asks).fields.1]
        exact trail.numbered conn record known
    · intro other found present
      obtain ⟨-, before, old, flag, -⟩ := receive_signs received present
      change _ ↔ flagged (log ++ [_]) other = true
      rw [flagged_snoc, flag, trail.flag other before old]
      simp [Note.flags]
    · intro other found present
      obtain ⟨-, before, old, -, key⟩ := receive_signs received present
      change _ = keyId (log ++ [_]) other
      rw [keyId_snoc, key, trail.key other before old]
      rfl
  · constructor
    · intro other found present
      obtain ⟨before, old, -⟩ := after_signs written present
      exact trail.numbered other before old
    · intro object request requested
      rcases requested_append.mp requested with old | new
      · exact trail.requests object request old
      · have own := requested_singleton.mp new
        rw [Note.request] at own
        cases own
    · intro other found present
      obtain ⟨before, old, flag, -⟩ := after_signs written present
      change _ ↔ flagged (log ++ [_]) other = true
      have earlier := trail.flag other before old
      rw [flagged_snoc, flag, Bool.or_eq_true, ← earlier, Note.flags, decide_eq_true_eq]
      by_cases sets : op = .setConnSignedIn other
      · simp [sets]
      · simp [sets]
    · intro other found present
      obtain ⟨before, old, -, key⟩ := after_signs written present
      change _ = keyId (log ++ [_]) other
      rw [keyId_snoc, key, trail.key other before old]
      rfl
  · exact ⟨trail.numbered, trail.requests, trail.flag, trail.key⟩
  · cases passes with
    | accepted socket same =>
      subst same
      constructor
      · intro other found present
        rcases accept_record present with ⟨rfl, -⟩ | ⟨-, old⟩
        · exact Nat.lt_succ_self _
        · exact Nat.lt_succ_of_lt (trail.numbered other found old)
      · intro object request requested
        exact Nat.lt_succ_of_lt (trail.requests object request requested)
      · intro other found present
        rcases accept_record present with ⟨rfl, rfl⟩ | ⟨-, old⟩
        · rw [unseen.1]
          exact ⟨fun flag => absurd flag (show no ≠ yes by decide), fun set => by cases set⟩
        · exact trail.flag other found old
      · intro other found present
        rcases accept_record present with ⟨rfl, rfl⟩ | ⟨-, old⟩
        · exact unseen.2.symm
        · exact trail.key other found old
    | freed conn record ahead same =>
      subst same
      constructor
      · exact fun other found present => trail.numbered other found (freeConn_record present).2
      · exact trail.requests
      · exact fun other found present => trail.flag other found (freeConn_record present).2
      · exact fun other found present => trail.key other found (freeConn_record present).2
    | moved pinged queued ahead passed same =>
      subst same
      exact ⟨trail.numbered, trail.requests, trail.flag, trail.key⟩

end UubangIot
