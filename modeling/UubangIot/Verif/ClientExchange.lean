import UubangIot.Verif.KeyChanges

/-!
# A client on one connection

A client that has one request outstanding and encrypts passwords under the key it was told last,
against the interleaved server. What a packet asks for depends on its code alone, and only the
tasks of a connection store its key.
-/

namespace UubangIot

open Effect Effect.Prog RsaUtils Transition

/-! ## The client -/

/-- A request whose password is decoded. -/
def CLN.passwords (a : CLN) : Bool :=
  match a.requestClass with
  | .user .sia | .user .sib | .user .rea | .user .rpa => true
  | _ => false

/-- A request that uses the connection's key or replaces it. -/
def CLN.asks (a : CLN) : Bool := a.passwords || a.rekeying

/-- What a packet asks for, whatever connection it comes on. -/
def packetRequest (packet : Bytes) : CLN := (snapshot 0 .zero packet).1

/-- The frames that come of a received packet at once. -/
def Work.sent : Work → List Frame
  | .closed => []
  | .nullRequest sent | .refused _ sent | .dispatched _ sent _ => sent

/-- The server, a client on one of its connections, and what is on its way between them. -/
structure Exchange where
  /-- The server. -/
  server : ServerState
  /-- What was sent to the client, each frame with the number of the request it answers. -/
  wire : List (Nat × Frame)
  /-- The key the client was told last. -/
  key : Option Bytes
  /-- The requests the client has sent. -/
  number : Nat
  /-- The last of them has had no reply. -/
  awaiting : Bool
  /-- The packet of the last one until it arrives, with the key its password is under. -/
  flight : Option (Bytes × Option Bytes)
  /-- The number and the key of each request object. -/
  origin : Nat → Nat × Option Bytes
  /-- A send to the client has failed; nothing the client sends after it arrives. -/
  lost : Bool

/-- Before the first connection. -/
def Exchange.initial : Exchange := ⟨.initial, [], none, 0, false, none, fun _ => (0, none), false⟩

/-- A move of the client, the network or the server. -/
inductive Move
  /-- The client sends a packet. -/
  | send (packet : Bytes)
  /-- It arrives; there may be no memory for its request. -/
  | arrive (allocated : Bool)
  /-- A turn of the server that receives nothing from the client. -/
  | turn (turn : Turn)
  /-- The client receives a frame. -/
  | deliver

/-- The turn receives a packet of the connection. -/
def Turn.receives (conn : Nat) : Turn → Bool
  | .event (.receive other _ _) => other = conn
  | _ => false

/-- What a task of the connection is about to send on its own socket. -/
def Task.emission (task : Task) (conn : Nat) : Option Frame :=
  match task.program with
  | .call (.send socket frame) _ =>
    if task.request.conn = conn ∧ socket = task.request.socket then some frame else none
  | _ => none

section

variable (config : Config) (conn : Nat) (exchange : Exchange)

/-- The client sends, when it has a connection and a reply to its last request; a password only
under a key. -/
def Exchange.send (packet : Bytes) : Option Exchange :=
  if exchange.awaiting = false ∧ exchange.flight.isNone = true ∧ exchange.lost = false ∧
      (exchange.server.memory.conns conn).isSome = true ∧
      ((packetRequest packet).passwords = true → exchange.key.isSome = true) then
    some { exchange with
      number := exchange.number + 1, awaiting := true, flight := some (packet, exchange.key) }
  else none

/-- The exchange after the packet has arrived, with the frames that come of it at once. -/
def Exchange.arrived (server : ServerState) (sent : List Frame) (used : Option Bytes) : Exchange :=
  { exchange with
    server
    flight := none
    wire := exchange.wire ++ sent.map fun frame => (exchange.number, frame)
    origin := Function.update exchange.origin exchange.server.objects (exchange.number, used) }

/-- The packet arrives. -/
def Exchange.arrive (allocated : Bool) : Option Exchange :=
  match exchange.flight, exchange.server.memory.conns conn with
  | some (packet, used), some record =>
    (exchange.server.receive config conn packet allocated).map fun server =>
      exchange.arrived server (serverWork conn record packet allocated).sent used
  | _, _ => none

/-- The frame a turn sends to the client, with its request object and whether the send fails. -/
def Exchange.emitted : Turn → Option (Nat × Frame × Bool)
  | .step index (.int len) =>
    (exchange.server.tasks[index]?).bind fun task =>
      (task.emission conn).map fun frame => (task.object, frame, sendFailed len)
  | _ => none

/-- A turn of the server. -/
def Exchange.turn (turn : Turn) : Option Exchange :=
  if turn.receives conn then none
  else (exchange.server.turn config turn).map fun server =>
    match exchange.emitted conn turn with
    | none => { exchange with server }
    | some (_, _, true) => { exchange with server, lost := true }
    | some (object, frame, false) =>
      { exchange with server, wire := exchange.wire ++ [((exchange.origin object).1, frame)] }

/-- The client receives a frame: a key when it announces one, and a reply when it answers the
last request. -/
def Exchange.deliver : Option Exchange :=
  match exchange.wire with
  | [] => none
  | (number, frame) :: wire =>
    some { exchange with
      wire
      key := frame.announced.or exchange.key
      awaiting := exchange.awaiting && decide (number ≠ exchange.number) }

/-- One move. -/
def Exchange.move : Move → Option Exchange
  | .send packet => exchange.send conn packet
  | .arrive allocated => exchange.arrive config conn allocated
  | .turn turn => exchange.turn config conn turn
  | .deliver => exchange.deliver

/-- The client on a connection of the server. -/
def exchanges : System Exchange Move := ⟨Exchange.move config conn⟩

/-- Every password that a task of the connection decodes is decoded with the key it was encrypted
under. -/
def KeyAgreed : Prop :=
  ∀ task ∈ exchange.server.tasks, task.request.conn = conn → task.request.passwords = true →
    (exchange.origin task.object).2 = some (announcement task.request.passwordKey)

instance : Decidable (KeyAgreed conn exchange) :=
  inferInstanceAs (Decidable (∀ task ∈ _, _))

/-- No task of the connection has anything left to do with keys. -/
def Idle (tasks : List Task) : Prop :=
  ∀ task ∈ tasks, task.request.conn = conn → task.program.Only keyless

/-- No announcement is on its way. -/
def Clear (wire : List (Nat × Frame)) : Prop := ∀ entry ∈ wire, entry.2.announced = none

/-- The client asks for a password or a key only when no key is under way. -/
def Patient : Move → Prop
  | .send packet => (packetRequest packet).asks = true →
    Idle conn exchange.server.tasks ∧ Clear exchange.wire
  | _ => True

end

/-! ## What a packet asks for -/

/-- The first three characters of a code. -/
def CLN.code (a : CLN) : Bytes := (cstr a.checkcode).take 3

/-- The first bytes of a text. -/
theorem takeWhile_take_append {α : Type} (keep : α → Bool) (front back : List α) (count : Nat)
    (long : count ≤ front.length) :
    ((front ++ back).takeWhile keep).take count = (front.takeWhile keep).take count := by
  induction front generalizing count with
  | nil =>
    obtain rfl := Nat.le_zero.mp long
    simp
  | cons first front ih =>
    cases count with
    | zero => simp
    | succ count =>
      rw [List.cons_append]
      by_cases kept : keep first = true
      · rw [List.takeWhile_cons_of_pos kept, List.takeWhile_cons_of_pos kept, List.take_succ_cons,
          List.take_succ_cons, ih count (Nat.le_of_succ_le_succ long)]
      · rw [List.takeWhile_cons_of_neg kept, List.takeWhile_cons_of_neg kept]

/-- The code in a request is that of its packet. -/
theorem snapshot_code (handle : Nat) (record : CLN) (packet : Bytes) :
    (snapshot handle record packet).1.code = (packetRequest packet).code := by
  unfold packetRequest snapshot
  split
  · simp only [CLN.code, copyRecIotData2Cln, cstr_strcpy]
  · simp only [CLN.code, copyUserPacketInterface2Cln, memcpy, cstr]
    have long : 3 ≤ ((field (packet ++ zeros (721 - packet.length)) 0 17).take 17).length := by
      simp only [field, zeros, List.length_take, List.length_drop, List.length_append,
        List.length_replicate]
      omega
    rw [takeWhile_take_append _ _ _ 3 long, takeWhile_take_append _ _ _ 3 long]

/-- The class of a request by its code. -/
def codeClass (code : Bytes) : RequestClass :=
  if code.getD 0 0 = 116 then .test
  else if code.length < 3 then .device
  else .user (opcodeOf code)

/-- The class of a request depends on its code. -/
theorem requestClass_eq (a : CLN) : a.requestClass = codeClass a.code := by
  have first : a.checkcode.getD 0 0 = a.code.getD 0 0 := by
    unfold CLN.code cstr
    cases a.checkcode with
    | nil => rfl
    | cons byte rest =>
      by_cases zero : byte = 0
      · subst zero
        rfl
      · rw [List.takeWhile_cons_of_pos (by simpa using zero)]
        rfl
  have length : a.code.length < 3 ↔ strlen a.checkcode < 3 := by
    simp only [CLN.code, strlen, List.length_take]
    omega
  have three (long : ¬strlen a.checkcode < 3) : a.checkcode.take 3 = a.code.take 3 := by
    have whole : 3 ≤ (cstr a.checkcode).length := not_lt.mp long
    obtain ⟨back, split⟩ := List.takeWhile_prefix (fun byte : UInt8 => decide (byte ≠ 0))
      (l := a.checkcode)
    rw [CLN.code, List.take_take, Nat.min_self]
    conv_lhs => rw [← split]
    exact List.take_append_of_le_length whole
  unfold CLN.requestClass codeClass
  rw [first]
  split
  · rfl
  · by_cases short : strlen a.checkcode < 3
    · rw [if_pos short, if_pos (length.mpr short)]
    · rw [if_neg short, if_neg (fun few => short (length.mp few)), opcodeOf, opcodeOf, three short]

/-- What a request does with keys depends on its code. -/
theorem asks_of_code {a b : CLN} (same : a.code = b.code) :
    a.passwords = b.passwords ∧ a.rekeying = b.rekeying := by
  have kind : a.requestClass = b.requestClass := by rw [requestClass_eq, requestClass_eq, same]
  refine ⟨by rw [CLN.passwords, CLN.passwords, kind], ?_⟩
  unfold CLN.rekeying
  rw [kind]
  split
  · rfl
  · rfl
  · rename_i device
    -- a device code is shorter than three characters, so its whole text is the same
    have whole (c : CLN) (short : c.requestClass = .device) : c.code = cstr c.checkcode := by
      refine List.take_of_length_le ?_
      rw [CLN.requestClass] at short
      split at short
      · exact nomatch short
      · split at short
        · rename_i few
          exact Nat.le_of_lt few
        · exact nomatch short
    have text : cstr a.checkcode = cstr b.checkcode := by
      rw [← whole a (kind.trans device), ← whole b device, same]
    have value : atoi a.checkcode = atoi b.checkcode := by
      unfold atoi
      rw [text]
    rw [value]
  · rfl

/-! ## Stored keys -/

/-- The connection has no other key than before. -/
def KeysKept (conn : Nat) (memory later : Memory) : Prop :=
  ∀ record, later.conns conn = some record →
    ∃ before, memory.conns conn = some before ∧ record.key = before.key

section

variable {conn : Nat} {memory later : Memory} {config : Config} {server next : ServerState}

/-- An operation that stores no key of the connection. -/
theorem keysKept_of_after {op : Op} {response : op.Res}
    (unstored : ∀ key, op ≠ .setConnKey conn key)
    (stepped : memory.after ⟨op, response⟩ = some later) : KeysKept conn memory later := by
  intro record found
  obtain ⟨before, known, rfl⟩ := after_record stepped found
  refine ⟨before, known, ?_⟩
  cases op with
  | setConnKey target key =>
    have other : conn ≠ target := fun same => unstored key (by rw [same])
    simp only [Op.writes, if_neg other]
  | decrementTasks | setConnPin | setConnUserId | setConnUserKeyId | setConnSignedIn
  | nextSeqNum =>
    simp only [Op.writes]
    split <;> rfl
  | _ => rfl

/-- An operation accepts no connection. -/
theorem after_unused {op : Op} {response : op.Res}
    (stepped : memory.after ⟨op, response⟩ = some later) {other : Nat}
    (free : memory.conns other = none) : later.conns other = none := by
  cases found : later.conns other with
  | none => rfl
  | some record =>
    obtain ⟨before, known, -⟩ := after_record stepped found
    exact nomatch free.symm.trans known

/-- An operation that stores a key of the connection. -/
theorem stored_of_after {key : RSAKey} {response : Unit}
    (stepped : memory.after ⟨.setConnKey conn key, response⟩ = some later) {record : CLN}
    (found : later.conns conn = some record) : record.key = key := by
  obtain ⟨before, -, rfl⟩ := after_record stepped found
  simp only [Op.writes, ↓reduceIte]

/-- The record of a connection put back with its key. -/
theorem keysKept_store {target : Nat} {before after : CLN}
    (known : server.memory.conns target = some before) (same : after.key = before.key) :
    KeysKept conn server.memory (server.store target after).memory := by
  intro record found
  obtain ⟨old, there, rfl⟩ := write_record found
  refine ⟨old, there, ?_⟩
  split
  · rename_i own
    subst own
    rw [same, Option.some.inj (known.symm.trans there)]
  · rfl

/-- A handshake leaves the key. -/
theorem Greeted.key {record later : CLN} (greeted : Greeted record later) :
    later.key = record.key := by
  obtain ⟨_, _, rfl⟩ := greeted
  rfl

/-- A handshake announces no key. -/
theorem handshake_clear (record request : CLN) :
    ∀ frame ∈ (handshake record request).2.2, frame.announced = none := by
  intro frame member
  unfold handshake at member
  split at member
  · split at member
    · exact nomatch member
    · rw [List.mem_singleton.mp member]
      rfl
  · exact nomatch member

/-- The frames that come of a packet at once announce no key. -/
theorem sent_clear (handle : Nat) (record : CLN) (packet : Bytes) (allocated : Bool) :
    ∀ frame ∈ (serverWork handle record packet allocated).sent, frame.announced = none := by
  have memory {frame : Frame} (member : frame ∈ [oom, oom]) : frame.announced = none := by
    rcases List.mem_cons.mp member with rfl | member
    · rfl
    · rw [List.mem_singleton.mp member]
      rfl
  have greeted := handshake_clear (snapshot handle record packet).2
    (snapshot handle record packet).1
  intro frame member
  unfold serverWork dispatch at member
  dsimp only at member
  split at member
  · exact nomatch member
  · split at member
    · split at member
      · exact greeted frame member
      · split at member
        · exact greeted frame member
        · rcases List.mem_append.mp member with early | late
          · exact greeted frame early
          · exact memory (List.mem_cons_of_mem _ late)
    · refine memory ?_
      change frame ∈ (if record.info1 ≠ yes then [oom] else [oom, oom]) at member
      split at member
      · exact List.mem_cons_of_mem _ member
      · exact member

/-- What a server does that receives nothing from the connection and runs no task: the stored key
stays, and another connection's request arrives at most. -/
structure Elsewhere (config : Config) (conn : Nat) (server next : ServerState) : Prop where
  /-- The key of the connection. -/
  kept : KeysKept conn server.memory next.memory
  /-- No connection is accepted. -/
  accepted : next.accepted = server.accepted
  /-- A handle that is not in use stays so. -/
  unused : ∀ other, server.memory.conns other = none → next.memory.conns other = none
  /-- The tasks. -/
  tasks : (next.tasks = server.tasks ∧ server.objects ≤ next.objects) ∨
    ∃ request, request.conn ≠ conn ∧ next.objects = server.objects + 1 ∧
      next.tasks = server.tasks ++ [⟨request, server.objects, talk config request, false⟩]

/-- Memory, tasks and objects are the same. -/
theorem Elsewhere.same (memory : next.memory = server.memory)
    (accepted : next.accepted = server.accepted) (tasks : next.tasks = server.tasks)
    (objects : next.objects = server.objects) : Elsewhere config conn server next where
  kept record found := ⟨record, memory ▸ found, rfl⟩
  accepted := accepted
  unused _ free := memory ▸ free
  tasks := .inl ⟨tasks, objects.ge⟩

/-- A handle that is not in use stays so when a record is put back. -/
theorem store_unused {target other : Nat} {record : CLN}
    (free : server.memory.conns other = none) :
    (server.store target record).memory.conns other = none := by
  cases found : (server.store target record).memory.conns other with
  | none => rfl
  | some later =>
    obtain ⟨before, known, -⟩ := write_record found
    exact nomatch free.symm.trans known

/-- An event that receives nothing from the connection. -/
theorem on_keys {event : ServerEvent} (elsewhere : (Turn.event event).receives conn = false)
    (happened : server.on config event = some next) :
    (∃ socket, next = server.accept socket) ∨ Elsewhere config conn server next := by
  cases event with
  | accept socket => exact .inl ⟨socket, (Option.some.inj happened).symm⟩
  | ping lens =>
    obtain rfl := Option.some.inj happened
    exact .inr (.same rfl rfl rfl rfl)
  | addConnMemWait4Free allocated =>
    obtain ⟨_, _, rfl⟩ := addConnMemWait4Free_cases happened
    exact .inr (.same rfl rfl rfl rfl)
  | beginPass =>
    obtain rfl := beginPass_cases happened
    exact .inr (.same rfl rfl rfl rfl)
  | visit =>
    obtain ⟨entry, rest, -, outcome⟩ := visit_cases happened
    obtain ⟨-, rfl⟩ | ⟨freed, -, ⟨-, rfl⟩ | ⟨-, rfl⟩⟩ := outcome
    · exact .inr (.same rfl rfl rfl rfl)
    · refine .inr ⟨fun record found => ?_, rfl, fun other free => ?_, .inl ⟨rfl, le_rfl⟩⟩
      · exact ⟨record, (freeConn_record found).2, rfl⟩
      · cases found : (server.memory.freeConn entry.conn freed).conns other with
        | none => rfl
        | some record => exact nomatch free.symm.trans (freeConn_record found).2
    · exact .inr (.same rfl rfl rfl rfl)
  | receive target packet allocated =>
    have other : target ≠ conn := of_decide_eq_false elsewhere
    obtain ⟨record, known, outcome⟩ := receive_cases happened
    obtain ⟨-, rfl⟩ | ⟨-, -, rfl⟩ | ⟨later, greeted, rfl⟩ |
      ⟨-, -, later, request, greeted, -, copied, rfl⟩ := outcome
    · exact .inr (.same rfl rfl rfl rfl)
    · exact .inr (.same rfl rfl rfl rfl)
    · exact .inr ⟨keysKept_store known greeted.key, rfl, fun _ => store_unused,
        .inl ⟨rfl, Nat.le_succ _⟩⟩
    · refine .inr ⟨keysKept_store known greeted.key, rfl, fun _ => store_unused,
        .inr ⟨request, ?_, rfl, rfl⟩⟩
      rw [copied.fields.1]
      exact other

end

end UubangIot
