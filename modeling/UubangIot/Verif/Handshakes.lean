import UubangIot.Verif.Chronicle
import UubangIot.Verif.TextFacts

/-!
# Handshakes

A user's packet is handled once its connection has made a handshake. The flag of the handshake is
also set for every packet in the devices' format, and stands for the connection.
-/

namespace UubangIot

open Effect Transition Transition.System

/-- A packet that is read as a user's. -/
def userFormat (packet : Bytes) : Bool := !decide (10 < packet.length ∧ packet.length ≤ 205)

/-- The checkcode of a user's packet. -/
def packetCheckcode (packet : Bytes) : Bytes := field (packet ++ zeros (721 - packet.length)) 0 17

/-- A user's packet with a version that is served. -/
def carriesVersion (packet : Bytes) : Bool :=
  strstr (packetCheckcode packet) (text "ZYXX1226") ||
    strstr (packetCheckcode packet) (text "ZYXX1227")

/-- A packet whose connection is served from then on: a user's packet with a version, or a device's
packet that there was memory for. -/
def Note.vouches (conn : Nat) : Note → Bool
  | .received other _ packet allocated _ =>
    decide (other = conn) && if userFormat packet then carriesVersion packet else allocated
  | .did _ _ => false

/-- A user's packet is handed to the pool only if it has a version, or one before it on its
connection did or was a device's. -/
def HandshakeFirst (before : List Note) : Note → Prop
  | .received conn record packet allocated object =>
    userFormat packet = true → (requestOf conn record packet allocated).isSome →
      ∃ note ∈ before ++ [.received conn record packet allocated object], note.vouches conn
  | .did _ _ => True

/-! ## One packet -/

/-- A connection after the handshake of a packet. -/
def greeted (conn : Nat) (record : CLN) (packet : Bytes) : CLN :=
  (handshake (snapshot conn record packet).2 (snapshot conn record packet).1).1

variable {conn : Nat} {record : CLN} {packet : Bytes} {allocated : Bool}

/-- What is left of a connection after a packet with memory. -/
theorem serverWork_allocated (readable : readable packet = true) :
    serverWork conn record packet true =
      dispatch (snapshot conn record packet).2 (snapshot conn record packet).1 := by
  rw [serverWork, if_neg, if_pos rfl]
  rw [UubangIot.readable, decide_eq_true_eq] at readable
  omega

/-- A dispatched packet greeted its connection. -/
theorem dispatch_cases (record request : CLN) :
    (∃ sent, dispatch record request = .refused (handshake record request).1 sent) ∨
      ((handshake record request).1.info1 = yes ∧ ∃ sent copy, dispatch record request =
        .dispatched { (handshake record request).1 with
          taskNum := (handshake record request).1.taskNum + 1 } sent copy) := by
  rw [dispatch]
  dsimp only
  split
  · exact .inl ⟨_, rfl⟩
  · rename_i legal
    split
    · exact .inr ⟨not_not.mp legal, _, _, rfl⟩
    · exact .inl ⟨_, rfl⟩

/-- The last byte of a checkcode ends it. -/
def Closed (record : CLN) : Prop := ∃ front, front.length = 17 ∧ record.checkcode = front ++ [0]

/-- A user's packet has a whole checkcode. -/
theorem packetCheckcode_length (packet : Bytes) : (packetCheckcode packet).length = 17 := by
  simp only [packetCheckcode, field, zeros, List.drop_zero, List.length_take, List.length_append,
    List.length_replicate]
  omega

/-- The copy of a checkcode. -/
theorem Closed.drop (closed : Closed record) : record.checkcode.drop 17 = [0] := by
  obtain ⟨front, length, code⟩ := closed
  rw [code, ← length]
  exact List.drop_left

/-- The size of a checkcode. -/
theorem Closed.length (closed : Closed record) : record.checkcode.length = 18 := by
  obtain ⟨front, length, code⟩ := closed
  rw [code, List.length_append, length]
  rfl

/-- A user's packet gives its connection its checkcode. -/
theorem snapshot_user (conn : Nat) (closed : Closed record) (user : userFormat packet = true) :
    (snapshot conn record packet).2.checkcode = packetCheckcode packet ++ [0] ∧
      (snapshot conn record packet).2.info1 = record.info1 := by
  have length := packetCheckcode_length packet
  rw [userFormat, Bool.not_eq_true', decide_eq_false_iff_not] at user
  rw [snapshot, if_neg user]
  refine ⟨?_, rfl⟩
  have whole := closed.length
  change memcpy record.checkcode (memcpy record.checkcode (packetCheckcode packet) 17) 18 = _
  rw [memcpy, memcpy, closed.drop, List.take_of_length_le length.le, List.take_of_length_le,
    List.drop_of_length_le whole.le, List.append_nil]
  rw [List.length_append, length]
  rfl

/-- A device's packet leaves the last byte. -/
theorem snapshot_device (conn : Nat) (closed : Closed record) (device : userFormat packet = false) :
    Closed (snapshot conn record packet).2 ∧ (snapshot conn record packet).2.info1 = yes := by
  rw [userFormat, Bool.not_eq_false', decide_eq_true_eq] at device
  rw [snapshot, if_pos device]
  refine ⟨⟨(strcpy record.checkcode (field packet 0 2)).take 17, ?_, ?_⟩, rfl⟩
  · have short : strlen (field packet 0 2) ≤ 2 := by
      refine (List.takeWhile_prefix _).length_le.trans ?_
      rw [field, List.length_take]
      exact Nat.min_le_left _ _
    have whole := closed.length
    rw [List.length_take, strcpy, List.length_append, List.length_cons, List.length_drop, whole,
      ← strlen]
    omega
  · change memcpy record.checkcode (strcpy record.checkcode (field packet 0 2)) 17 = _
    rw [memcpy, closed.drop]

/-- A handshake sets the flag for a version that is served. -/
theorem handshake_flag (record request : CLN) :
    (handshake record request).1.checkcode = record.checkcode ∧
      ((handshake record request).1.info1 = yes → record.info1 = yes ∨
        strstr record.checkcode (text "ZYXX1226") = true ∨
          strstr record.checkcode (text "ZYXX1227") = true) := by
  rw [handshake]
  split
  · split
    · rename_i served
      exact ⟨rfl, fun _ => .inr served⟩
    · exact ⟨rfl, fun flag => .inl flag⟩
  · exact ⟨rfl, fun flag => .inl flag⟩

/-- A connection is greeted by a version or by a device. -/
theorem greeted_cases (conn : Nat) (packet : Bytes) (closed : Closed record) :
    Closed (greeted conn record packet) ∧
      ((greeted conn record packet).info1 = yes → record.info1 = yes ∨
        (userFormat packet = true → carriesVersion packet = true)) := by
  obtain ⟨code, flag⟩ := handshake_flag (snapshot conn record packet).2
    (snapshot conn record packet).1
  cases format : userFormat packet with
  | true =>
    obtain ⟨copied, kept⟩ := snapshot_user conn closed format
    refine ⟨⟨packetCheckcode packet, packetCheckcode_length packet, code.trans copied⟩, ?_⟩
    intro greeted
    rcases flag greeted with old | served
    · exact .inl (kept.symm.trans old)
    · right
      intro _
      rw [copied, strstr, strstr, cstr_snoc_zero] at served
      rw [carriesVersion, Bool.or_eq_true]
      exact served
  | false =>
    obtain ⟨⟨front, length, copied⟩, -⟩ := snapshot_device conn closed format
    exact ⟨⟨front, length, code.trans copied⟩, fun _ => .inr nofun⟩

/-! ## Every run -/

/-- The flag of a connection was set by one of its packets. -/
def Vouched (now : ServerState × List Note) : Prop :=
  ∀ conn record, now.1.memory.conns conn = some record → Closed record ∧
    (record.info1 = yes → ∃ note ∈ now.2, note.vouches conn)

section

variable {config : Config} {server after : ServerState} {log : List Note}

/-- A packet that greets its connection, with what is known before it. -/
theorem Vouched.greets (vouched : Vouched (server, log))
    (known : server.memory.conns conn = some record) (object : Nat)
    (flag : (greeted conn record packet).info1 = yes) :
    ∃ note ∈ log ++ [.received conn record packet true object], note.vouches conn := by
  obtain ⟨closed, earlier⟩ := vouched conn record known
  obtain ⟨-, greets⟩ := greeted_cases conn packet closed
  rcases greets flag with old | version
  · obtain ⟨note, member, vouches⟩ := earlier old
    exact ⟨note, List.mem_append_left _ member, vouches⟩
  · refine ⟨_, List.mem_append_right _ List.mem_cons_self, ?_⟩
    cases format : userFormat packet with
    | true => simp [Note.vouches, format, version format]
    | false => simp [Note.vouches, format]

/-- A packet that leaves its connection greeted. -/
theorem Vouched.store (vouched : Vouched (server, log))
    (known : server.memory.conns conn = some record) (object : Nat) {later : CLN}
    (memory : after.memory = server.memory.write conn fun _ => later)
    (code : later.checkcode = (greeted conn record packet).checkcode)
    (flag : later.info1 = (greeted conn record packet).info1) :
    Vouched (after, log ++ [.received conn record packet true object]) := by
  intro other found present
  rw [memory] at present
  obtain ⟨before, old, same⟩ := write_record present
  obtain ⟨closed, earlier⟩ := vouched other before old
  by_cases own : other = conn
  · subst own
    rw [if_pos rfl] at same
    obtain rfl := Option.some.inj (old.symm.trans known)
    obtain ⟨front, length, closes⟩ := (greeted_cases other packet closed).1
    rw [same]
    exact ⟨⟨front, length, code.trans closes⟩,
      fun set => vouched.greets known object (flag.symm.trans set)⟩
  · rw [if_neg own] at same
    rw [same]
    refine ⟨closed, fun set => ?_⟩
    obtain ⟨note, member, vouches⟩ := earlier set
    exact ⟨note, List.mem_append_left _ member, vouches⟩

/-- More is known after more notes. -/
theorem Vouched.mono (vouched : Vouched (server, log)) (notes : List Note)
    (kept : ∀ conn record, after.memory.conns conn = some record →
      ∃ before, server.memory.conns conn = some before ∧ record.checkcode = before.checkcode ∧
        record.info1 = before.info1) : Vouched (after, log ++ notes) := by
  intro conn record known
  obtain ⟨before, old, code, flag⟩ := kept conn record known
  obtain ⟨⟨front, length, closes⟩, earlier⟩ := vouched conn before old
  refine ⟨⟨front, length, code.trans closes⟩, fun set => ?_⟩
  obtain ⟨note, member, vouches⟩ := earlier (flag.symm.trans set)
  exact ⟨note, List.mem_append_left _ member, vouches⟩

/-- A packet of a connection. -/
theorem Vouched.receive (vouched : Vouched (server, log))
    (known : server.memory.conns conn = some record)
    (received : server.receive config conn packet allocated = some after) :
    Vouched (after, log ++ [.received conn record packet allocated server.objects]) ∧
      HandshakeFirst log (.received conn record packet allocated server.objects) := by
  rw [ServerState.receive, known] at received
  dsimp only at received
  rw [HandshakeFirst, requestOf]
  have same : ∀ other found, server.memory.conns other = some found →
      ∃ before, server.memory.conns other = some before ∧ found.checkcode = before.checkcode ∧
        found.info1 = before.info1 := fun _ found present => ⟨found, present, rfl, rfl⟩
  obtain ⟨-, worked⟩ | ⟨-, -, sent, worked⟩ | ⟨read, rfl, -⟩ | ⟨read, rfl, -⟩ :=
    serverWork_cases conn record packet allocated
  · rw [worked] at received ⊢
    obtain rfl := Option.some.inj received
    exact ⟨vouched.mono _ same, fun _ none => absurd none Bool.false_ne_true⟩
  · rw [worked] at received ⊢
    obtain rfl := Option.some.inj received
    exact ⟨vouched.mono _ same, fun _ none => absurd none Bool.false_ne_true⟩
  all_goals
    rw [serverWork_allocated read] at received ⊢
    obtain ⟨sent, worked⟩ | ⟨flag, sent, copy, worked⟩ :=
      dispatch_cases (snapshot conn record packet).2 (snapshot conn record packet).1
    · rw [worked] at received ⊢
      obtain rfl := Option.some.inj received
      exact ⟨vouched.store known _ rfl rfl rfl, fun _ none => absurd none Bool.false_ne_true⟩
    · rw [worked] at received ⊢
      obtain rfl := Option.some.inj received
      exact ⟨vouched.store known _ rfl rfl rfl, fun _ _ => vouched.greets known _ flag⟩

end

/-- No operation writes the checkcode or the flag of a handshake. -/
theorem writes_handshake {op : Op} {conn : Nat} {change : CLN → CLN}
    (written : op.writes = some (conn, change)) (record : CLN) :
    ((change record).checkcode, (change record).info1) = (record.checkcode, record.info1) := by
  cases op <;> simp only [Op.writes, Option.some.injEq, Prod.mk.injEq, reduceCtorEq] at written <;>
    obtain ⟨-, rfl⟩ := written <;> rfl

/-- A turn hands no packet over before a handshake, and every flag stays vouched for. -/
theorem vouched_turn (config : Config) (now : ServerState × List Note) (turn : Turn)
    (next : ServerState × List Note) (kept : Vouched now ∧ Throughout HandshakeFirst now.2)
    (turned : (chronicled config).step now turn = some next) :
    Vouched next ∧ Throughout HandshakeFirst next.2 := by
  obtain ⟨server, log⟩ := now
  obtain ⟨after, history⟩ := next
  obtain ⟨vouched, right⟩ := kept
  obtain ⟨conn, record, packet, allocated, -, known, received, rfl⟩ |
    ⟨index, answer, task, op, rest, response, memory, -, -, -, -, written, rfl, rfl⟩ |
    ⟨index, task, -, -, -, rfl, rfl⟩ | ⟨passes, rfl⟩ := chronicled_cases turned
  · obtain ⟨later, first⟩ := vouched.receive known received
    exact ⟨later, (throughout_snoc _ _).mpr ⟨right, first⟩⟩
  · refine ⟨vouched.mono _ fun conn record present => ?_,
      (throughout_snoc _ _).mpr ⟨right, trivial⟩⟩
    obtain ⟨before, old, same⟩ := after_field (fun record => (record.checkcode, record.info1))
      (fun conn change writes record => writes_handshake writes record) written present
    exact ⟨before, old, congrArg Prod.fst same, congrArg Prod.snd same⟩
  · exact ⟨vouched, right⟩
  · refine ⟨?_, right⟩
    cases passes with
    | accepted socket same =>
      subst same
      intro conn record present
      rcases accept_record present with ⟨-, rfl⟩ | ⟨-, old⟩
      · exact ⟨⟨zeros 17, rfl, rfl⟩, fun flag => absurd flag (show no ≠ yes by decide)⟩
      · exact vouched conn record old
    | freed conn record ahead same =>
      subst same
      exact fun other found present => vouched other found (freeConn_record present).2
    | moved pinged queued ahead passed same =>
      subst same
      exact vouched

/-- In every run, a user's packet is handed to the pool only if it has a version that is served, or
one before it on its connection did or was a device's. -/
theorem handshake_before_users (config : Config) (turns : List Turn) (server : ServerState)
    (log : List Note) (reached : (chronicled config).run (.initial, []) turns = some (server, log)) :
    Throughout HandshakeFirst log := by
  have start : Vouched (.initial, []) ∧ Throughout HandshakeFirst [] :=
    ⟨fun _ _ => nofun, throughout_nil⟩
  exact (run_preserved (vouched_turn config) start reached).2

/-- A connection that sends its handshake and then signs in. -/
def greetingFirst : List Turn :=
  [.event (.accept 5), .event (.receive 0 (text "ZYXX1226") true),
    .event (.receive 0 (text "SIA") true)]

/-- Both packets are handed to the pool. -/
theorem handshake_before_users_greeting : ∃ server log,
    (chronicled ⟨id, []⟩).run (.initial, []) greetingFirst = some (server, log) ∧
      server.tasks.length = 2 ∧ Throughout HandshakeFirst log :=
  ⟨_, _, rfl, rfl, handshake_before_users ⟨id, []⟩ greetingFirst _ _ rfl⟩

/-- A user's packet with a version that is served. -/
def Note.carriesVersion : Note → Bool
  | .received _ _ packet _ _ => userFormat packet && UubangIot.carriesVersion packet
  | .did _ _ => false

/-- A connection that sends a device's packet and then signs in as a user. -/
def deviceFirst : List Turn :=
  [.event (.accept 5), .event (.receive 0 (text "03_1_device") true),
    .event (.receive 0 (text "SIA") true)]

/-- After a device's packet a user is served without a handshake. -/
theorem user_without_handshake : ∃ server log,
    (chronicled ⟨id, []⟩).run (.initial, []) deviceFirst = some (server, log) ∧
      (∀ note ∈ log, note.carriesVersion = false) ∧
      userFormat (text "SIA") = true ∧
      server.tasks.map (fun task => task.request.requestClass) = [.device, .user .sia] := by
  refine ⟨_, _, rfl, ?_, by decide, by decide⟩
  decide

end UubangIot
