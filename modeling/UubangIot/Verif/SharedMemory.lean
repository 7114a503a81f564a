import UubangIot.Verif.Handlers

/-!
# What one operation does to the shared memory

Every operation writes to at most one connection and either keeps the online lists or makes one
removal or insertion in them. The invariants of the server use these two inversions and never the
definition of a step; what a received packet, a ping or a free pass does is inverted the same way.
-/

namespace UubangIot

open Effect Effect.Prog

/-! ## Operations -/

/-- The connection an operation writes to, and the change. -/
def Op.writes : Op → Option (Nat × (CLN → CLN))
  | .decrementTasks conn => some (conn, fun record => { record with taskNum := record.taskNum - 1 })
  | .setConnKey conn key => some (conn, fun record => { record with key })
  | .setConnPin conn pin count =>
    some (conn, fun record => { record with pin := memcpy record.pin pin count })
  | .setConnUserId conn userId =>
    some (conn, fun record => { record with userId := memcpy record.userId userId userId.length })
  | .setConnUserKeyId conn userKeyId => some (conn, fun record => { record with userKeyId })
  | .setConnSignedIn conn => some (conn, fun record => { record with info0 := yes })
  | .nextSeqNum conn => some (conn, CLN.advanceSeqNum)
  | _ => none

/-- The lists after an operation that has answered. -/
def Lists.afterOp (online : Lists) : Happening → Lists
  | ⟨.deleteOutUser userId socket, _⟩ => (online.deleteOutUser userId socket).2
  | ⟨.newOnlineUserOrIotDev a, result⟩ =>
    if (show Int from result) = 1 then online.newOnlineUserOrIotDev a else online
  | _ => online

variable {memory after : Memory} {op : Op} {response : op.Res}

/-- The connections after an operation. -/
theorem after_conns (stepped : memory.after ⟨op, response⟩ = some after) :
    after.conns = match op.writes with
      | none => memory.conns
      | some (conn, change) => (memory.write conn change).conns := by
  cases op
  case connSignedIn | connPin | nextSeqNum | findOnline | deleteOutUser =>
    obtain ⟨-, answered⟩ := Option.ite_none_right_eq_some.mp stepped
    obtain rfl := Option.some.inj answered
    rfl
  case newOnlineUserOrIotDev a =>
    simp only [Memory.after] at stepped
    split at stepped
    · obtain rfl := Option.some.inj stepped
      rfl
    · obtain ⟨-, answered⟩ := Option.ite_none_right_eq_some.mp stepped
      obtain rfl := Option.some.inj answered
      rfl
  all_goals
    obtain rfl := Option.some.inj stepped
    rfl

/-- The online lists after an operation. -/
theorem after_online (stepped : memory.after ⟨op, response⟩ = some after) :
    after.online = memory.online.afterOp ⟨op, response⟩ := by
  cases op
  case connSignedIn | connPin | nextSeqNum | findOnline | deleteOutUser =>
    obtain ⟨-, answered⟩ := Option.ite_none_right_eq_some.mp stepped
    obtain rfl := Option.some.inj answered
    rfl
  case newOnlineUserOrIotDev a =>
    simp only [Memory.after] at stepped
    simp only [Lists.afterOp]
    split at stepped
    · rename_i inserted
      obtain rfl := Option.some.inj stepped
      rw [if_pos inserted]
    · rename_i refused
      obtain ⟨-, answered⟩ := Option.ite_none_right_eq_some.mp stepped
      obtain rfl := Option.some.inj answered
      rw [if_neg refused]
  all_goals
    obtain rfl := Option.some.inj stepped
    rfl

/-- An insertion finds memory or does not. -/
theorem after_insertion {a : CLN} {result : Int}
    (stepped : memory.after ⟨.newOnlineUserOrIotDev a, result⟩ = some after) :
    (result = 1 ∧ after.online = memory.online.newOnlineUserOrIotDev a) ∨
      (result = -1 ∧ after.online = memory.online) := by
  by_cases done : result = 1
  · subst done
    obtain rfl := Option.some.inj stepped
    exact .inl ⟨rfl, rfl⟩
  · obtain ⟨failed, answered⟩ :=
      Option.ite_none_right_eq_some.mp ((if_neg done).symm.trans stepped)
    obtain rfl := Option.some.inj answered
    exact .inr ⟨failed, rfl⟩

/-- What a search of the online lists answers. -/
theorem after_findOnline {kind : Kind} {lookup : Lookup} {found : Option User}
    (stepped : memory.after ⟨.findOnline kind lookup, found⟩ = some after) :
    found = memory.online.find kind lookup ∧ after = memory := by
  obtain ⟨answer, answered⟩ := Option.ite_none_right_eq_some.mp stepped
  exact ⟨answer, (Option.some.inj answered).symm⟩

/-- After a write to a connection its record is the one that was written. -/
@[simp]
theorem Memory.write_conns_self (memory : Memory) (conn : Nat) (change : CLN → CLN) :
    (memory.write conn change).conns conn = (memory.conns conn).map change :=
  Function.update_self conn _ memory.conns

/-- A write to a connection leaves the records of the others. -/
theorem Memory.write_conns_of_ne (memory : Memory) {conn other : Nat} (change : CLN → CLN)
    (different : other ≠ conn) : (memory.write conn change).conns other = memory.conns other :=
  Function.update_of_ne different _ memory.conns

/-- A record after a write to a connection, and the one before. -/
theorem write_record {conn other : Nat} {change : CLN → CLN} {record : CLN}
    (found : (memory.write conn change).conns other = some record) :
    ∃ before, memory.conns other = some before ∧
      record = if other = conn then change before else before := by
  by_cases same : other = conn
  · subst same
    rw [Memory.write_conns_self] at found
    obtain ⟨before, known, rfl⟩ := Option.map_eq_some_iff.mp found
    exact ⟨before, known, (if_pos rfl).symm⟩
  · rw [memory.write_conns_of_ne change same] at found
    exact ⟨record, found, (if_neg same).symm⟩

/-- A record after an operation, and the one before. -/
theorem after_record (stepped : memory.after ⟨op, response⟩ = some after) {conn : Nat}
    {record : CLN} (found : after.conns conn = some record) :
    ∃ before, memory.conns conn = some before ∧
      record = match op.writes with
        | none => before
        | some (target, change) => if conn = target then change before else before := by
  rw [after_conns stepped] at found
  cases written : op.writes with
  | none =>
    rw [written] at found
    exact ⟨record, found, rfl⟩
  | some write =>
    rw [written] at found
    exact write_record found

/-- A field that no write of the operation changes. -/
theorem after_field {α : Type} (field : CLN → α)
    (kept : ∀ conn change, op.writes = some (conn, change) →
      ∀ record, field (change record) = field record)
    (stepped : memory.after ⟨op, response⟩ = some after) {conn : Nat} {record : CLN}
    (found : after.conns conn = some record) :
    ∃ before, memory.conns conn = some before ∧ field record = field before := by
  obtain ⟨before, known, rfl⟩ := after_record stepped found
  refine ⟨before, known, ?_⟩
  cases written : op.writes with
  | none => rfl
  | some write =>
    obtain ⟨target, change⟩ := write
    dsimp only
    split
    · exact kept target change written before
    · rfl

/-! ## Received packets -/

/-- A connection's record after a packet: its last code and its handshake may have changed. -/
def Greeted (record later : CLN) : Prop :=
  ∃ checkcode info1, later = { record with checkcode, info1 }

/-- The request of a packet: the copy of its connection, greeted. -/
def Copied (handle : Nat) (record : CLN) (packet : Bytes) (request : CLN) : Prop :=
  ∃ info1, request = { (snapshot handle record packet).1 with info1 }

/-- A packet that is handed to the pool once it has memory. -/
def admitted (handle : Nat) (record : CLN) (packet : Bytes) : Bool :=
  let (request, record) := snapshot handle record packet
  let (record, _, _) := handshake record request
  decide (record.info1 = yes ∧ record.info2 < 120)

/-- A packet of a size that is read. -/
def readable (packet : Bytes) : Bool := 0 < packet.length ∧ packet.length ≤ 721

/-- The record that is left with a snapshot. -/
theorem snapshot_greeted (handle : Nat) (record : CLN) (packet : Bytes) :
    Greeted record (snapshot handle record packet).2 := by
  unfold snapshot
  split
  · exact ⟨_, _, rfl⟩
  · exact ⟨_, _, rfl⟩

/-- A handshake greets the connection and the request. -/
theorem handshake_greeted (record request : CLN) :
    Greeted record (handshake record request).1 ∧
      ∃ info1, (handshake record request).2.1 = { request with info1 } := by
  unfold handshake
  split
  · split
    · exact ⟨⟨record.checkcode, yes, rfl⟩, yes, rfl⟩
    · exact ⟨⟨record.checkcode, record.info1, rfl⟩, request.info1, rfl⟩
  · exact ⟨⟨record.checkcode, record.info1, rfl⟩, request.info1, rfl⟩

/-- Two handshakes, one after the other, are one. -/
theorem Greeted.trans {first second third : CLN} (one : Greeted first second)
    (two : Greeted second third) : Greeted first third := by
  obtain ⟨_, _, rfl⟩ := one
  obtain ⟨checkcode, info1, rfl⟩ := two
  exact ⟨checkcode, info1, rfl⟩

/-- What `ServerWorkThread` makes of a packet. -/
theorem serverWork_cases (handle : Nat) (record : CLN) (packet : Bytes) (allocated : Bool) :
    (readable packet = false ∧ serverWork handle record packet allocated = .closed) ∨
    (readable packet = true ∧ allocated = false ∧
      ∃ sent, serverWork handle record packet allocated = .nullRequest sent) ∨
    (readable packet = true ∧ allocated = true ∧ admitted handle record packet = false ∧
      ∃ later sent, Greeted record later ∧
        serverWork handle record packet allocated = .refused later sent) ∨
    (readable packet = true ∧ allocated = true ∧ admitted handle record packet = true ∧
      ∃ later sent request, Greeted record later ∧ later.info2 < 120 ∧
        Copied handle record packet request ∧
        serverWork handle record packet allocated =
          .dispatched { later with taskNum := later.taskNum + 1 } sent request) := by
  have size : readable packet = false ↔ packet.length = 0 ∨ 721 < packet.length := by
    rw [readable, decide_eq_false_iff_not]
    omega
  unfold serverWork
  by_cases unread : packet.length = 0 ∨ 721 < packet.length
  · exact .inl ⟨size.mpr unread, if_pos unread⟩
  · have read : readable packet = true := by
      rw [← Bool.not_eq_false, size]
      exact unread
    rw [if_neg unread]
    cases allocated with
    | false => exact .inr (.inl ⟨read, rfl, _, if_neg Bool.false_ne_true⟩)
    | true =>
      obtain ⟨greeted, info1, copied⟩ := handshake_greeted
        (snapshot handle record packet).2 (snapshot handle record packet).1
      have later := (snapshot_greeted handle record packet).trans greeted
      rw [if_pos rfl]
      simp only [dispatch, admitted]
      split
      · rename_i illegal
        exact .inr (.inr (.inl ⟨read, trivial, by simp [illegal], _, _, later, rfl⟩))
      · rename_i legal
        split
        · rename_i room
          exact .inr (.inr (.inr ⟨read, trivial, by simp [not_not.mp legal, room], _, _, _, later,
            room, ⟨info1, copied⟩, rfl⟩))
        · rename_i full
          exact .inr (.inr (.inl ⟨read, trivial, by simp [full], _, _, later, rfl⟩))

/-- What the copy of a connection takes from it. -/
theorem snapshot_fields (handle : Nat) (record : CLN) (packet : Bytes) :
    (snapshot handle record packet).1.conn = handle ∧
      (snapshot handle record packet).1.socket = record.socket ∧
      (snapshot handle record packet).1.key = record.key := by
  unfold snapshot
  split <;> exact ⟨rfl, rfl, rfl⟩

/-- What a request takes from its connection. -/
theorem Copied.fields {handle : Nat} {record request : CLN} {packet : Bytes}
    (copied : Copied handle record packet request) :
    request.conn = handle ∧ request.socket = record.socket ∧ request.key = record.key := by
  obtain ⟨_, rfl⟩ := copied
  exact snapshot_fields handle record packet

/-- A request has the PIN of its connection. -/
theorem Copied.pin {handle : Nat} {record request : CLN} {packet : Bytes}
    (copied : Copied handle record packet request) : request.pin = record.pin := by
  obtain ⟨_, rfl⟩ := copied
  unfold snapshot
  split <;> rfl

/-- A request has the flag and the key id of its connection. -/
theorem Copied.info0 {handle : Nat} {record request : CLN} {packet : Bytes}
    (copied : Copied handle record packet request) : request.info0 = record.info0 := by
  obtain ⟨_, rfl⟩ := copied
  unfold snapshot
  split <;> rfl

/-- A request has the key id of its connection. -/
theorem Copied.userKeyId {handle : Nat} {record request : CLN} {packet : Bytes}
    (copied : Copied handle record packet request) : request.userKeyId = record.userKeyId := by
  obtain ⟨_, rfl⟩ := copied
  unfold snapshot
  split <;> rfl

/-! ## Turns of the server -/

variable {config : Config} {server next : ServerState} {conn index : Nat}

/-- The record of a connection after another was accepted. -/
theorem accept_record {socket : Nat} {record : CLN}
    (known : (server.accept socket).memory.conns conn = some record) :
    (conn = server.accepted ∧ record = .fresh socket) ∨
      (conn ≠ server.accepted ∧ server.memory.conns conn = some record) := by
  by_cases new : conn = server.accepted
  · subst new
    have fresh : (server.accept socket).memory.conns server.accepted = some (.fresh socket) :=
      Function.update_self server.accepted _ server.memory.conns
    exact .inl ⟨rfl, Option.some.inj (known.symm.trans fresh)⟩
  · have old : (server.accept socket).memory.conns conn = server.memory.conns conn :=
      Function.update_of_ne new _ server.memory.conns
    exact .inr ⟨new, old.symm.trans known⟩

/-- The record of a connection after another was freed. -/
theorem freeConn_record {freed : Nat} {last record : CLN}
    (known : (memory.freeConn freed last).conns conn = some record) :
    conn ≠ freed ∧ memory.conns conn = some record := by
  by_cases own : conn = freed
  · subst own
    have gone : (memory.freeConn conn last).conns conn = none :=
      Function.update_self conn _ memory.conns
    exact nomatch gone.symm.trans known
  · have old : (memory.freeConn freed last).conns conn = memory.conns conn :=
      Function.update_of_ne own _ memory.conns
    exact ⟨own, old.symm.trans known⟩

/-- A received packet is unreadable, dropped for want of memory, or copied for a new task. -/
theorem receive_cases {packet : Bytes} {allocated : Bool}
    (received : server.receive config conn packet allocated = some next) :
    ∃ record, server.memory.conns conn = some record ∧
      ((readable packet = false ∧ next = server) ∨
      (readable packet = true ∧ allocated = false ∧ next = { server with nullUsed := true }) ∨
      (∃ later, Greeted record later ∧
        next = { server.store conn later with
          objects := server.objects + 1
          frees := Function.update server.frees server.objects 1 }) ∨
      (admitted conn record packet = true ∧ readable packet = true ∧
        ∃ later request, Greeted record later ∧ later.info2 < 120 ∧
        Copied conn record packet request ∧
        next = { server.store conn { later with taskNum := later.taskNum + 1 } with
          objects := server.objects + 1
          tasks := server.tasks ++ [⟨request, server.objects, talk config request, false⟩] })) := by
  unfold ServerState.receive at received
  cases known : server.memory.conns conn with
  | none => simp [known] at received
  | some record =>
    refine ⟨record, rfl, ?_⟩
    simp only [known] at received
    obtain ⟨unread, worked⟩ | ⟨read, missing, sent, worked⟩ |
        ⟨read, -, -, later, sent, greeted, worked⟩ |
        ⟨read, -, admits, later, sent, request, greeted, room, copied, worked⟩ :=
      serverWork_cases conn record packet allocated
    · rw [worked] at received
      exact .inl ⟨unread, (Option.some.inj received).symm⟩
    · rw [worked] at received
      exact .inr (.inl ⟨read, missing, (Option.some.inj received).symm⟩)
    · rw [worked] at received
      exact .inr (.inr (.inl ⟨later, greeted, (Option.some.inj received).symm⟩))
    · rw [worked] at received
      exact .inr (.inr (.inr ⟨admits, read, later, request, greeted, room, copied,
        (Option.some.inj received).symm⟩))

/-- An operation of a task. -/
theorem step_cases {answer : Answer} (stepped : server.step index answer = some next) :
    ∃ task op rest response memory, server.tasks[index]? = some task ∧
      task.program = .call op rest ∧ op.read answer = some response ∧
      server.memory.after ⟨op, response⟩ = some memory ∧
      next = { server with
        memory
        frees := countFree server.frees task.object op
        tasks := server.tasks.set index (task.performed op (rest response)) } := by
  unfold ServerState.step at stepped
  cases found : server.tasks[index]? with
  | none => simp [found] at stepped
  | some task =>
    simp only [found] at stepped
    cases program : task.program with
    | ret value => simp [program] at stepped
    | call op rest =>
      simp only [program] at stepped
      obtain ⟨response, read, stepped⟩ := Option.bind_eq_some_iff.mp stepped
      obtain ⟨memory, after, rfl⟩ := Option.map_eq_some_iff.mp stepped
      exact ⟨task, op, rest, response, memory, rfl, program, read, after, rfl⟩

/-- A task that leaves the pool. -/
theorem leave_cases (left : server.leave index = some next) :
    ∃ task, server.tasks[index]? = some task ∧ task.program = .ret () ∧
      next = { server with tasks := server.tasks.eraseIdx index } := by
  unfold ServerState.leave at left
  split at left
  · rename_i request object value ended found
    exact ⟨_, found, rfl, (Option.some.inj left).symm⟩
  · contradiction

/-- A free pass at its next entry. -/
theorem visit_cases (visited : server.visit = some next) :
    ∃ entry rest, server.ahead = entry :: rest ∧
      ((server.memory.conns entry.conn = none ∧ next = { server with ahead := rest }) ∨
      ∃ record, server.memory.conns entry.conn = some record ∧
        ((entry.due record = true ∧
          next = { server with
            memory := server.memory.freeConn entry.conn record, ahead := rest }) ∨
        (entry.due record = false ∧
          next = { server with
            ahead := rest, passed := server.passed ++ [entry.kept record] }))) := by
  unfold ServerState.visit at visited
  cases list : server.ahead with
  | nil => simp [list] at visited
  | cons entry rest =>
    refine ⟨entry, rest, rfl, ?_⟩
    simp only [list] at visited
    cases known : server.memory.conns entry.conn with
    | none =>
      simp only [known] at visited
      exact .inl ⟨rfl, (Option.some.inj visited).symm⟩
    | some record =>
      refine .inr ⟨record, rfl, ?_⟩
      simp only [known] at visited
      split at visited
      · rename_i due
        exact .inl ⟨due, (Option.some.inj visited).symm⟩
      · rename_i early
        exact .inr ⟨Bool.eq_false_of_not_eq_true early, (Option.some.inj visited).symm⟩

/-- The passes over the connections other than at an entry that is due keep memory and tasks. -/
theorem addConnMemWait4Free_cases {allocated : Bool}
    (added : server.addConnMemWait4Free allocated = some next) :
    ∃ queued passed, next = { server with queued, passed } := by
  unfold ServerState.addConnMemWait4Free at added
  split at added
  · exact ⟨_, _, (Option.some.inj added).symm⟩
  · contradiction

/-- The start of a free pass. -/
theorem beginPass_cases (begun : server.beginPass = some next) :
    next = { server with ahead := server.passed, passed := [] } := by
  obtain ⟨-, answered⟩ := Option.ite_none_right_eq_some.mp begun
  exact (Option.some.inj answered).symm

end UubangIot
