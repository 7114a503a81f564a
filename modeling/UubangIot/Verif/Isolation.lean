import UubangIot.Verif.SocketOwners
import UubangIot.Verif.UserOperations
import UubangIot.Verif.Warrants

/-!
# Connections do not interfere

The record of a connection is changed by its own packets and by the operations of its own requests;
of the other requests one may count its sequence number up. The record, but for that number, is
therefore a replay of the connection's own history, and two runs that give a connection the same
history leave it the same record, whatever happens on the other connections.
-/

namespace UubangIot

open Effect Effect.Prog Transition Transition.System

/-! ## Statement -/

/-- Responses of an operation can be compared. -/
instance Op.decideRes : (op : Op) → DecidableEq op.Res
  | .fault => inferInstanceAs (DecidableEq Empty)
  | .connSignedIn _ => inferInstanceAs (DecidableEq Bool)
  | .connPin _ | .randomPin | .today | .uninitialisedText => inferInstanceAs (DecidableEq Bytes)
  | .nextSeqNum _ => inferInstanceAs (DecidableEq UInt8)
  | .send _ _ | .sendTop _ | .deleteOutUser _ _ | .newOnlineUserOrIotDev _ | .checkIdPwd _ _ _
  | .addtoLocal _ | .affectedRows _ | .uninitialisedInt => inferInstanceAs (DecidableEq Int)
  | .findOnline _ _ | .findRegister _ _ | .registedHead _ =>
    inferInstanceAs (DecidableEq (Option User))
  | .getDbConnect => inferInstanceAs (DecidableEq (Option Nat))
  | .realQuery _ _ => inferInstanceAs (DecidableEq QueryResult)
  | .storeResult _ => inferInstanceAs (DecidableEq (Option (List Row)))
  | .initRSA => inferInstanceAs (DecidableEq RsaUtils.RSAKey)
  | .decrementTasks _ | .freeNode | .setConnKey _ _ | .setConnPin _ _ _ | .setConnUserId _ _
  | .setConnUserKeyId _ _ | .setConnSignedIn _ | .closeSocket _ | .setRegisterPassword _ _
  | .lockMute _ | .unlockMute _ | .releaseNode _ | .system _ => inferInstanceAs (DecidableEq Unit)

/-- What happens to a connection. -/
inductive Own
  /-- A packet was received on it. -/
  | received (packet : Bytes) (allocated : Bool)
  /-- One of its requests performed an operation. -/
  | did (happening : Happening)
  deriving DecidableEq

/-- The connection of an object's request. -/
def ownerOf (log : List Note) (object : Nat) : Option Nat :=
  log.findSome? fun note => note.request.bind fun asked =>
    if asked.1 = object then some asked.2.conn else none

/-- What a note tells of a connection. -/
def Note.own (log : List Note) (conn : Nat) : Note → Option Own
  | .received other _ packet allocated _ =>
    if other = conn then some (.received packet allocated) else none
  | .did object happening => if ownerOf log object = some conn then some (.did happening) else none

/-- The history of a connection. -/
def ownHistory (log : List Note) (conn : Nat) : List Own := log.filterMap (Note.own log conn)

/-- A record after a packet. -/
def Work.record (record : CLN) : Work → CLN
  | .closed | .nullRequest _ => record
  | .refused later _ | .dispatched later _ _ => later

/-- A record after an event of its connection. -/
def Own.change (conn : Nat) (record : CLN) : Own → CLN
  | .received packet allocated => (serverWork conn record packet allocated).record record
  | .did ⟨op, _⟩ =>
    match op.writes with
    | some (target, change) => if target = conn then change record else record
    | none => record

/-- A record but for its sequence number. -/
def CLN.unnumbered (record : CLN) : CLN := { record with seqNum := 0 }

/-- The record that a history leaves to a connection accepted on a socket. -/
def replayed (conn socket : Nat) (history : List Own) : CLN :=
  history.foldl (Own.change conn) (CLN.fresh socket)

/-! ## The sequence number is read by nobody -/

variable {conn other : Nat} {record later : CLN} {packet : Bytes} {allocated : Bool}

/-- A work whose record lost its sequence number. -/
def Work.unnumbered : Work → Work
  | .closed => .closed
  | .nullRequest sent => .nullRequest sent
  | .refused record sent => .refused record.unnumbered sent
  | .dispatched record sent request => .dispatched record.unnumbered sent request.unnumbered

/-- A request is copied whatever the number of its connection. -/
theorem snapshot_unnumbered (conn : Nat) (record : CLN) (packet : Bytes) :
    snapshot conn record.unnumbered packet =
      ((snapshot conn record packet).1.unnumbered, (snapshot conn record packet).2.unnumbered) := by
  rw [snapshot, snapshot]
  split <;> rfl

/-- The handshake does not look at the number. -/
theorem handshake_unnumbered (record request : CLN) :
    handshake record.unnumbered request.unnumbered =
      ((handshake record request).1.unnumbered, (handshake record request).2.1.unnumbered,
        (handshake record request).2.2) := by
  have code : record.unnumbered.checkcode = record.checkcode := rfl
  have hand : record.unnumbered.info1 = record.info1 := rfl
  rw [handshake, handshake, code, hand]
  split
  · split <;> rfl
  · rfl

/-- The hand-over to the pool does not look at the number. -/
theorem dispatch_unnumbered (record request : CLN) :
    dispatch record.unnumbered request.unnumbered = (dispatch record request).unnumbered := by
  rw [dispatch, dispatch, handshake_unnumbered]
  generalize handshake record request = greeted
  obtain ⟨record, request, sent⟩ := greeted
  have hand : record.unnumbered.info1 = record.info1 := rfl
  have count : record.unnumbered.info2 = record.info2 := rfl
  dsimp only
  rw [hand, count]
  split
  · rfl
  · split <;> rfl

/-- What comes of a packet, but for the sequence number. -/
theorem serverWork_unnumbered (conn : Nat) (record : CLN) (packet : Bytes) (allocated : Bool) :
    serverWork conn record.unnumbered packet allocated =
      (serverWork conn record packet allocated).unnumbered := by
  have hand : record.unnumbered.info1 = record.info1 := rfl
  rw [serverWork, serverWork, snapshot_unnumbered, hand]
  split
  · rfl
  · split
    · exact dispatch_unnumbered _ _
    · rfl

/-- A record after an event, but for the sequence number. -/
theorem change_unnumbered (conn : Nat) (record : CLN) (event : Own) :
    (event.change conn record.unnumbered).unnumbered = (event.change conn record).unnumbered := by
  cases event with
  | received packet allocated =>
    rw [Own.change, Own.change, serverWork_unnumbered]
    cases serverWork conn record packet allocated <;> rfl
  | did happening =>
    obtain ⟨op, response⟩ := happening
    simp only [Own.change]
    cases op <;> first | rfl | (simp only [Op.writes]; split <;> rfl)

/-- Records that agree stay so under the same event. -/
theorem change_congr {conn : Nat} {record other : CLN}
    (same : record.unnumbered = other.unnumbered) (event : Own) :
    (event.change conn record).unnumbered = (event.change conn other).unnumbered := by
  rw [← change_unnumbered, same, change_unnumbered]

/-! ## Whose history a note is in -/

variable {config : Config} {server after : ServerState} {log history : List Note} {turn : Turn}

/-- The owner of a request's object. -/
theorem Told.owner_eq (told : Told config (server, log)) {object : Nat} {request : CLN}
    (requested : Requested log object request) : ownerOf log object = some request.conn := by
  have present : (ownerOf log object).isSome = true := by
    obtain ⟨note, member, asks⟩ := requested
    apply List.findSome?_isSome_iff.mpr
    exact ⟨note, member, by simp [asks]⟩
  obtain ⟨conn, owned⟩ := Option.isSome_iff_exists.mp present
  obtain ⟨note, member, asks⟩ := List.exists_of_findSome?_eq_some owned
  obtain ⟨asked, made, own⟩ := Option.bind_eq_some_iff.mp asks
  obtain ⟨object', other⟩ := asked
  dsimp only at own
  split at own
  · rename_i same
    subst same
    rw [told.single _ _ _ requested ⟨note, member, made⟩, owned, own]
  · cases own

/-- A note that follows changes no owner. -/
theorem Told.own_snoc (told : Told config (server, log)) (note : Note) {former : Note}
    (member : former ∈ log) : former.own (log ++ [note]) conn = former.own log conn := by
  cases former with
  | received => rfl
  | did object happening =>
    obtain ⟨request, requested⟩ := told.acted object happening member
    have owner := told.owner_eq requested
    have later : ownerOf (log ++ [note]) object = some request.conn := by
      rw [ownerOf, List.findSome?_append]
      rw [ownerOf] at owner
      rw [owner]
      rfl
    rw [Note.own, Note.own, owner, later]

/-- A history with one more note. -/
theorem Told.ownHistory_snoc (told : Told config (server, log)) (note : Note) :
    ownHistory (log ++ [note]) conn =
      ownHistory log conn ++ (note.own (log ++ [note]) conn).toList := by
  have former : log.filterMap (Note.own (log ++ [note]) conn) = log.filterMap (Note.own log conn) :=
    List.filterMap_congr fun _ member => told.own_snoc note member
  rw [ownHistory, List.filterMap_append, former, ownHistory]
  cases told : note.own (log ++ [note]) conn with
  | none => rw [List.filterMap_cons_none told, List.filterMap_nil, Option.toList_none]
  | some event => rw [List.filterMap_cons_some told, List.filterMap_nil, Option.toList_some]

/-- A note of another connection. -/
theorem Told.ownHistory_other (told : Told config (server, log)) {note : Note}
    (other : note.own (log ++ [note]) conn = none) :
    ownHistory (log ++ [note]) conn = ownHistory log conn := by
  rw [told.ownHistory_snoc, other]
  exact List.append_nil _

/-! ## Every turn -/

/-- A record after a packet. -/
theorem receive_replays (known : server.memory.conns conn = some record)
    (received : server.receive config conn packet allocated = some after) :
    after.memory.conns conn = some ((serverWork conn record packet allocated).record record) ∧
      (∀ other, other ≠ conn → after.memory.conns other = server.memory.conns other) ∧
      after.accepted = server.accepted := by
  have stored (later : CLN) (other : Nat) (different : other ≠ conn) :
      (server.memory.write conn fun _ => later).conns other = server.memory.conns other :=
    server.memory.write_conns_of_ne _ different
  have written (later : CLN) :
      (server.memory.write conn fun _ => later).conns conn = some later := by
    rw [Memory.write_conns_self, known]
    rfl
  rw [ServerState.receive, known] at received
  dsimp only at received
  cases worked : serverWork conn record packet allocated with
  | closed =>
    rw [worked] at received
    obtain rfl := Option.some.inj received
    exact ⟨known, fun _ _ => rfl, rfl⟩
  | nullRequest sent =>
    rw [worked] at received
    obtain rfl := Option.some.inj received
    exact ⟨known, fun _ _ => rfl, rfl⟩
  | refused later sent =>
    rw [worked] at received
    obtain rfl := Option.some.inj received
    exact ⟨written later, stored later, rfl⟩
  | dispatched later sent request =>
    rw [worked] at received
    obtain rfl := Option.some.inj received
    exact ⟨written later, stored later, rfl⟩

/-- What an operation writes to is its own connection, unless it counts a sequence number up. -/
theorem warrants_writes {a : CLN} {past : List Happening} {op : Op} {target : Nat}
    {change : CLN → CLN} (warranted : a.warrants past op)
    (writes : op.writes = some (target, change)) :
    target = a.conn ∨ ∀ record, (change record).unnumbered = record.unnumbered := by
  cases op with
  | nextSeqNum conn =>
    obtain ⟨rfl, rfl⟩ := Prod.mk.inj (Option.some.inj writes)
    exact .inr fun _ => rfl
  | decrementTasks | setConnKey | setConnPin | setConnUserId | setConnUserKeyId | setConnSignedIn =>
    obtain ⟨rfl, rfl⟩ := Prod.mk.inj (Option.some.inj writes)
    exact .inl warranted
  | _ => cases writes

/-- A packet leaves the socket. -/
theorem work_socket (conn : Nat) (record : CLN) (packet : Bytes) (allocated : Bool) :
    ((serverWork conn record packet allocated).record record).socket = record.socket := by
  obtain ⟨-, worked⟩ | ⟨-, -, sent, worked⟩ | ⟨-, -, -, later, sent, greeted, worked⟩ |
    ⟨-, -, -, later, sent, found, greeted, -, -, worked⟩ :=
    serverWork_cases conn record packet allocated
  · rw [worked]
    rfl
  · rw [worked]
    rfl
  all_goals
    rw [worked]
    obtain ⟨checkcode, info1, rfl⟩ := greeted
    rfl

/-- Every record is a replay of its connection's history. -/
structure Isolated (now : ServerState × List Note) : Prop where
  /-- Packets are received on accepted connections. -/
  heard : ∀ conn record packet allocated object,
    .received conn record packet allocated object ∈ now.2 → conn < now.1.accepted
  /-- The record. -/
  replay : ∀ conn record, now.1.memory.conns conn = some record →
    record.unnumbered = (replayed conn record.socket (ownHistory now.2 conn)).unnumbered

/-- Before the first connection there is no record. -/
theorem isolated_initial : Isolated (.initial, []) where
  heard _ _ _ _ _ member := by cases member
  replay _ _ known := by cases known

/-- A connection that is not accepted yet has no history. -/
theorem Isolated.unseen (isolated : Isolated (server, log)) (told : Told config (server, log))
    (trail : Trail (server, log)) : ownHistory log server.accepted = [] := by
  apply List.filterMap_eq_nil_iff.mpr
  intro note member
  cases note with
  | received conn record packet allocated object =>
    have below := isolated.heard conn record packet allocated object member
    exact if_neg below.ne
  | did object happening =>
    obtain ⟨request, requested⟩ := told.acted object happening member
    have below := trail.requests object request requested
    rw [Note.own, told.owner_eq requested]
    exact if_neg fun same => below.ne (Option.some.inj same)

/-- A record after an event of its connection. -/
theorem Isolated.event (isolated : Isolated (server, log)) (told : Told config (server, log))
    (known : server.memory.conns conn = some record) {note : Note} {event : Own}
    (own : note.own (log ++ [note]) conn = some event)
    (line : (event.change conn record).socket = record.socket) :
    (event.change conn record).unnumbered = (replayed conn (event.change conn record).socket
      (ownHistory (log ++ [note]) conn)).unnumbered := by
  rw [told.ownHistory_snoc, own, line, replayed, Option.toList_some, List.foldl_append,
    List.foldl_cons, List.foldl_nil]
  exact change_congr (isolated.replay conn record known) event

/-- An operation of a task. -/
theorem Isolated.did (isolated : Isolated (server, log)) (told : Told config (server, log))
    {object : Nat} {request : CLN} (requested : Requested log object request) {op : Op}
    {response : op.Res} {memory : Memory} {past : List Happening}
    (warranted : request.warrants past op)
    (written : server.memory.after ⟨op, response⟩ = some memory)
    (present : memory.conns conn = some later) :
    later.unnumbered = (replayed conn later.socket
      (ownHistory (log ++ [.did object ⟨op, response⟩]) conn)).unnumbered := by
  have owner : ownerOf (log ++ [.did object ⟨op, response⟩]) object = some request.conn := by
    have former := told.owner_eq requested
    rw [ownerOf] at former
    rw [ownerOf, List.findSome?_append, former]
    rfl
  obtain ⟨before, known, line⟩ := after_socket written present
  obtain ⟨record, same, outcome⟩ := after_record written present
  obtain rfl := Option.some.inj (same.symm.trans known)
  by_cases own : request.conn = conn
  · have event : Own.change conn record (.did ⟨op, response⟩) = later := by
      rw [outcome, Own.change]
      cases op.writes with
      | none => rfl
      | some write => exact if_congr eq_comm rfl rfl
    rw [← event]
    refine isolated.event told known ?_ ?_
    · rw [Note.own, owner, own, if_pos rfl]
    · rw [event, line]
  · have silent : (Note.did object ⟨op, response⟩).own (log ++ [.did object ⟨op, response⟩]) conn =
        none := by
      rw [Note.own, owner]
      exact if_neg fun same => own (Option.some.inj same)
    have kept : later.unnumbered = record.unnumbered := by
      cases writes : op.writes with
      | none =>
        rw [writes] at outcome
        exact congrArg CLN.unnumbered outcome
      | some write =>
        obtain ⟨target, change⟩ := write
        rw [writes] at outcome
        dsimp only at outcome
        rw [outcome]
        split
        · rename_i hit
          rcases warrants_writes warranted writes with same | counted
          · exact absurd (same.symm.trans hit.symm) own
          · exact counted record
        · rfl
    rw [told.ownHistory_other silent, kept, line]
    exact isolated.replay conn record known

/-- A turn keeps every record a replay of its connection's history. -/
theorem isolated_turn (told : Told config (server, log)) (trail : Trail (server, log))
    (isolated : Isolated (server, log))
    (turned : (chronicled config).step (server, log) turn = some (after, history)) :
    Isolated (after, history) := by
  obtain ⟨conn, record, packet, allocated, -, known, received, rfl⟩ |
    ⟨index, answer, task, op, rest, response, memory, -, found, program, -, written, rfl, rfl⟩ |
    ⟨index, task, -, -, -, rfl, rfl⟩ | ⟨passes, rfl⟩ := chronicled_cases turned
  · obtain ⟨own, others, accepted⟩ := receive_replays known received
    constructor
    · intro other old bytes had object member
      change other < after.accepted
      rw [accepted]
      rcases List.mem_append.mp member with former | new
      · exact isolated.heard other old bytes had object former
      · obtain ⟨rfl, -⟩ := Note.received.inj (List.mem_singleton.mp new)
        exact trail.numbered _ _ known
    · intro other later present
      by_cases same : other = conn
      · subst same
        obtain rfl := Option.some.inj (own.symm.trans present)
        have heard : (Note.received other record packet allocated server.objects).own
            (log ++ [.received other record packet allocated server.objects]) other =
              some (.received packet allocated) := if_pos rfl
        exact isolated.event told known heard (work_socket _ _ _ _)
      · have former : server.memory.conns other = some later :=
          (others other same).symm.trans present
        have silent : ownHistory (log ++ [.received conn record packet allocated server.objects])
            other = ownHistory log other := told.ownHistory_other (if_neg (Ne.symm same))
        have replay := isolated.replay other later former
        rw [← silent] at replay
        exact replay
  · obtain ⟨requested, comes⟩ := told.pooled task (List.mem_of_getElem? found)
    rw [program] at comes
    have warranted := (talk_warranted config task.request []).comes comes
    constructor
    · intro other old bytes had object member
      rcases List.mem_append.mp member with former | new
      · exact isolated.heard other old bytes had object former
      · cases List.mem_singleton.mp new
    · exact fun other later present => isolated.did told requested warranted written present
  · exact ⟨isolated.heard, isolated.replay⟩
  · cases passes with
    | accepted socket same =>
      have fresh := isolated.unseen told trail
      subst same
      constructor
      · intro other old bytes had object member
        exact Nat.lt_succ_of_lt (isolated.heard other old bytes had object member)
      · intro other later present
        rcases accept_record present with ⟨rfl, rfl⟩ | ⟨-, former⟩
        · change CLN.unnumbered _ =
            CLN.unnumbered (replayed _ _ (ownHistory history server.accepted))
          rw [fresh]
          rfl
        · exact isolated.replay other later former
    | freed conn record ahead same =>
      subst same
      exact ⟨isolated.heard, fun other later present =>
        isolated.replay other later (freeConn_record present).2⟩
    | moved pinged queued ahead passed same =>
      subst same
      exact ⟨isolated.heard, isolated.replay⟩

/-- In every run each record is a replay of its connection's history. -/
theorem isolated_run {turns : List Turn} {now : ServerState × List Note}
    (ran : (chronicled config).run (.initial, []) turns = some now) : Isolated now := by
  have start : Told config (.initial, []) ∧ Trail (.initial, []) ∧ Isolated (.initial, []) :=
    ⟨told_initial config, trail_initial, isolated_initial⟩
  have stays : ∀ state turn next, (Told config state ∧ Trail state ∧ Isolated state) →
      (chronicled config).step state turn = some next →
      Told config next ∧ Trail next ∧ Isolated next := by
    intro state turn next holds turned
    have told := told_turn config state turn next holds.1 turned
    have trail := trail_turn config state turn next holds.1 holds.2.1 turned
    exact ⟨told, trail, isolated_turn holds.1 holds.2.1 holds.2.2 turned⟩
  have whole := run_preserved stays start ran
  exact whole.2.2

/-- Two runs of defined turns that give a connection the same history on the same socket leave it the
same record, but for the sequence number, whatever the other connections do. -/
theorem connections_isolated (config config' : Config)
    (choices choices' : List (Turn × (ServerState × List Note) × NodeNumbers))
    (now now' : (ServerState × List Note) × NodeNumbers)
    (ran : (wild Prod.fst (chronicled config)).run ((.initial, []), .initial) choices = some now)
    (ran' :
      (wild Prod.fst (chronicled config')).run ((.initial, []), .initial) choices' = some now')
    (defined : (wild Prod.fst (chronicled config)).Meets (Defined Prod.fst)
      ((.initial, []), .initial) choices)
    (defined' : (wild Prod.fst (chronicled config')).Meets (Defined Prod.fst)
      ((.initial, []), .initial) choices')
    (conn : Nat) (record record' : CLN) (known : now.1.1.memory.conns conn = some record)
    (known' : now'.1.1.memory.conns conn = some record') (line : record.socket = record'.socket)
    (same : ownHistory now.1.2 conn = ownHistory now'.1.2 conn) :
    record.unnumbered = record'.unnumbered := by
  have isolated : Isolated now.1 := isolated_run (wild_run defined ran)
  have isolated' : Isolated now'.1 := isolated_run (wild_run defined' ran')
  rw [isolated.replay conn record known, isolated'.replay conn record' known', line, same]

/-- Another connection greets before the user signs in. -/
def signsInBeside : List Turn :=
  [.event (.accept 6), .event (.receive 1 (text "ZYXX1226") true),
    .event (.receive 0 userSiaPacket true)] ++
    [.int 1, .found none, .found (some (keyedNode "13800000000" 3)), .unit, .int 1, .unit,
      .found none, .unit].map (.step 2)

/-- A user signs in alone. -/
def signsInAlone : List (Turn × (ServerState × List Note) × NodeNumbers) :=
  certain (.initial, []) (greets ++ userSignsIn)

/-- A user signs in beside another connection. -/
def signsInTogether : List (Turn × (ServerState × List Note) × NodeNumbers) :=
  certain (.initial, []) (greets ++ signsInBeside)

/-- The ends of the two runs. -/
def sameSignIns (config : Config)
    (check : ServerState × List Note → ServerState × List Note → CLN → CLN → Bool) : Bool :=
  ((wild Prod.fst (chronicled config)).run ((.initial, []), .initial) signsInAlone).any fun now =>
    ((wild Prod.fst (chronicled config)).run ((.initial, []), .initial) signsInTogether).any
      fun now' =>
        (now.1.1.memory.conns 0).any fun record => (now'.1.1.memory.conns 0).any fun record' =>
          check now.1 now'.1 record record'

/-- A user signs in alone, and beside another connection. -/
theorem connections_isolated_sign_in : ∃ now now' record record',
    (wild Prod.fst (chronicled ⟨id, []⟩)).run ((.initial, []), .initial) signsInAlone = some now ∧
      (wild Prod.fst (chronicled ⟨id, []⟩)).run ((.initial, []), .initial) signsInTogether =
        some now' ∧
      now.1.1.memory.conns 0 = some record ∧ now'.1.1.memory.conns 0 = some record' ∧
      record.info0 = yes ∧ record.unnumbered = record'.unnumbered := by
  have checked : sameSignIns ⟨id, []⟩ (fun now now' record record' => (record.info0 == yes) &&
      decide (record.socket = record'.socket ∧ ownHistory now.2 0 = ownHistory now'.2 0)) =
        true := by
    decide +kernel
  obtain ⟨now, ran, checked⟩ := (Option.any_eq_true _ _).mp checked
  obtain ⟨now', ran', checked⟩ := (Option.any_eq_true _ _).mp checked
  obtain ⟨record, known, checked⟩ := (Option.any_eq_true _ _).mp checked
  obtain ⟨record', known', checked⟩ := (Option.any_eq_true _ _).mp checked
  obtain ⟨flag, same⟩ := Bool.and_eq_true_iff.mp checked
  replace flag := eq_of_beq flag
  obtain ⟨line, history⟩ := of_decide_eq_true same
  exact ⟨now, now', record, record', ran, ran', known, known', flag,
    connections_isolated _ _ _ _ now now' ran ran' (by decide +kernel) (by decide +kernel) 0 record
      record' known known' line history⟩

end UubangIot
