import Mathlib.Data.List.Chain
import UubangIot.Lib.Transition
import UubangIot.Verif.LiveHandles
import UubangIot.Verif.OnlineLists
import UubangIot.Verif.StampedFrames
import UubangIot.Verif.TaskAccounting

/-!
# The sequence numbers on a device's socket

The frames that the tasks send to devices, in their order. On every socket the numbers count on from
one another as the counter of its connection does, in the runs where a number goes out at once, its
connection has not been freed, no handle is given out twice, and a command to a device by its key
finds nobody but its sender.
-/

namespace UubangIot

open Effect Effect.Prog Transition Transition.System

/-! ## What is sent -/

/-- The counter after a number was sent. -/
def wrapped (seqNum : UInt8) : UInt8 := if seqNum = 127 then 1 else seqNum

/-- The number after another. -/
def nextNumber (seqNum : UInt8) : UInt8 := wrapped seqNum + 1

/-- The socket and the number of a frame for a device. -/
def Op.deviceFrame : Op → Option (Nat × UInt8)
  | .send socket (.iot packet) => some (socket, packet.seqNum)
  | _ => none

/-- The next operation of a task. -/
def Task.asks (task : Task) : Option Op :=
  match task.program with
  | .ret _ => none
  | .call op _ => some op

/-- The frames for devices that a turn sends. -/
def ServerState.deviceFrames (server : ServerState) : Turn → List (Nat × UInt8)
  | .step index _ =>
    ((server.tasks[index]?.bind Task.asks).bind Op.deviceFrame).toList
  | _ => []

/-- The server with the frames it has sent to devices. -/
def framed (config : Config) : System (ServerState × List (Nat × UInt8)) Turn :=
  (interleaved config).observed ServerState.deviceFrames

/-- The numbers sent on a socket that are not zero. -/
def numbers (frames : List (Nat × UInt8)) (socket : Nat) : List UInt8 :=
  (frames.filter fun frame => frame.1 = socket ∧ frame.2 ≠ 0).map Prod.snd

/-- Numbers that count on from one another, the first from the counter of a new connection. -/
def Consecutive (sent : List UInt8) : Prop :=
  (0 :: sent).IsChain fun before now => now = nextNumber before

/-! ## The runs -/

/-- A frame with a number that the task is about to send. -/
def Task.outgoing (task : Task) : Option (Nat × UInt8) :=
  (task.asks.bind Op.deviceFrame).filter fun frame => frame.2 ≠ 0

/-- The turn is an operation of the task at a place. -/
def Turn.moves : Turn → Nat → Bool
  | .step index _, place => index = place
  | _, _ => false

/-- An operation of a request that finds its connection, or the sender of a command. -/
def ServerState.undiverted (server : ServerState) (a : CLN) : Op → Bool
  | .nextSeqNum conn => (server.memory.conns conn).isSome
  | .findOnline .iot (.key id) =>
    (server.memory.online.find .iot (.key id)).all fun node => node.userSocket = a.socket
  | _ => true

/-- A turn that takes up a new handle, or an undiverted operation. -/
def ServerState.regular (sockets : Nat → Nat) (server : ServerState) : Turn → Prop
  | .event (.accept socket) => socket = sockets server.accepted
  | .step index _ => ∀ task ∈ server.tasks[index]?, ∀ op ∈ task.asks,
    server.undiverted task.request op = true
  | _ => True

/-- A number that was taken goes out first. -/
def ServerState.sendsFirst (server : ServerState) (turn : Turn) : Prop :=
  ∀ place < server.tasks.length, (server.tasks[place]?.bind Task.outgoing).isSome = true →
    turn.moves place = true

/-- The condition on a turn. -/
def Undiverted (sockets : Nat → Nat) (now : ServerState × List (Nat × UInt8)) (turn : Turn) :
    Prop :=
  now.1.sendsFirst turn ∧ now.1.regular sockets turn

instance (server : ServerState) (turn : Turn) : Decidable (server.sendsFirst turn) :=
  inferInstanceAs (Decidable (∀ place < _, _ → _))

instance (sockets : Nat → Nat) (server : ServerState) :
    (turn : Turn) → Decidable (server.regular sockets turn)
  | .event (.accept _) => inferInstanceAs (Decidable (_ = _))
  | .step _ _ => inferInstanceAs (Decidable (∀ task ∈ _, ∀ op ∈ _, _ = _))
  | .event (.receive _ _ _) | .event (.ping _) | .event (.addConnMemWait4Free _)
  | .event .beginPass | .event .visit | .leave _ => inferInstanceAs (Decidable True)

instance (sockets : Nat → Nat) (now : ServerState × List (Nat × UInt8)) (turn : Turn) :
    Decidable (Undiverted sockets now turn) := inferInstanceAs (Decidable (_ ∧ _))

/-! ## Numbers of a history -/

variable {frames : List (Nat × UInt8)} {sent : List UInt8}

/-- The numbers of two parts are those of one and the other. -/
theorem numbers_append (frames more : List (Nat × UInt8)) (socket : Nat) :
    numbers (frames ++ more) socket = numbers frames socket ++ numbers more socket := by
  rw [numbers, List.filter_append, List.map_append]
  rfl

/-- A frame without a number, or for another socket. -/
theorem numbers_unnumbered {frame : Nat × UInt8} {socket : Nat}
    (other : frame.1 ≠ socket ∨ frame.2 = 0) : numbers [frame] socket = [] := by
  rw [numbers, List.filter_singleton]
  have dropped : decide (frame.1 = socket ∧ frame.2 ≠ 0) = false := by
    refine decide_eq_false fun kept => ?_
    rcases other with elsewhere | zero
    · exact elsewhere kept.1
    · exact kept.2 zero
  rw [dropped]
  rfl

/-- A frame with a number. -/
theorem numbers_numbered {socket : Nat} {seqNum : UInt8} (nonzero : seqNum ≠ 0) :
    numbers [(socket, seqNum)] socket = [seqNum] := by
  rw [numbers, List.filter_singleton, decide_eq_true (by exact ⟨rfl, nonzero⟩)]
  rfl

/-- An empty list of numbers is consecutive. -/
theorem consecutive_nil : Consecutive [] := .singleton 0

/-- Numbers that were sent earlier. -/
theorem Consecutive.left {earlier later : List UInt8} (consecutive : Consecutive (earlier ++ later)) :
    Consecutive earlier := by
  rw [Consecutive, ← List.cons_append] at consecutive
  exact (List.isChain_append.mp consecutive).1

/-- Consecutive numbers stay consecutive with the next one after them. -/
theorem Consecutive.snoc (consecutive : Consecutive sent) :
    Consecutive (sent ++ [nextNumber (sent.getLastD 0)]) := by
  rw [Consecutive, ← List.cons_append, List.isChain_append]
  refine ⟨consecutive, .singleton _, fun last found first same => ?_⟩
  rw [List.getLast?_cons, Option.mem_some_iff] at found
  rw [List.head?_cons, Option.mem_some_iff] at same
  rw [← same, ← found, List.getLastD_eq_getLast?]

/-! ## The invariant -/

variable {config : Config} {sockets : Nat → Nat} {server next : ServerState} {index : Nat}
  {log : List (Nat × UInt8)}

/-- What a request may hear of the online devices. -/
def Heard (sockets : Nat → Nat) (a : CLN) : Happening → Prop
  | ⟨.findOnline .iot (.key _), found⟩ =>
    ∀ node ∈ (show Option User from found), node.userSocket = a.socket
  | ⟨.findOnline .iot (.name _), found⟩ =>
    ∀ node ∈ (show Option User from found), node.userSocket = sockets node.connHandle
  | _ => True

/-- A task on the socket of its connection that stamps its frames; where it has taken a number, the
frame is what it does next. -/
def Task.Ready (sockets : Nat → Nat) (task : Task) : Prop :=
  task.request.socket = sockets task.request.conn ∧
    (Stamps sockets (Heard sockets task.request) task.program ∨
      ∃ socket packet rest, task.program = .call (.send socket (.iot packet)) rest ∧
        packet.seqNum ≠ 0 ∧ ∀ len, Stamps sockets (Heard sockets task.request) (rest len))

/-- The frames that were sent, and the one that is about to be. -/
def ServerState.committed (server : ServerState) (log : List (Nat × UInt8)) : List (Nat × UInt8) :=
  log ++ server.tasks.filterMap Task.outgoing

/-- Every connection counts what was sent on its socket. -/
structure Counted (sockets : Nat → Nat) (server : ServerState) (log : List (Nat × UInt8)) :
    Prop where
  /-- The connections, with their sockets and counters. -/
  records : ∀ conn record, server.memory.conns conn = some record →
    conn < server.accepted ∧ record.socket = sockets conn ∧ record.seqNum < 127 ∧
      record.seqNum = wrapped ((numbers (server.committed log) (sockets conn)).getLastD 0)
  /-- The online nodes. -/
  online : ∀ kind, ∀ node ∈ server.memory.online.nodes kind,
    node.userSocket = sockets node.connHandle
  /-- Nothing was sent before a connection was accepted. -/
  unused : ∀ conn, server.accepted ≤ conn → numbers (server.committed log) (sockets conn) = []
  /-- The tasks. -/
  ready : ∀ task ∈ server.tasks, task.Ready sockets
  /-- One number at a time. -/
  single : (server.tasks.filterMap Task.outgoing).length ≤ 1
  /-- The numbers. -/
  sent : ∀ socket, Consecutive (numbers (server.committed log) socket)

/-- Before the first connection nothing is numbered. -/
theorem counted_initial : Counted sockets .initial [] where
  records _ _ found := nomatch found
  online kind node member := by
    cases kind with
    | user => exact nomatch member
    | iot => exact nomatch member
  unused _ _ := rfl
  ready _ member := nomatch member
  single := Nat.zero_le 1
  sent _ := consecutive_nil

/-- What was sent is part of it. -/
theorem Counted.consecutive (counted : Counted sockets server log) (socket : Nat) :
    Consecutive (numbers log socket) := by
  have all := counted.sent socket
  rw [ServerState.committed, numbers_append] at all
  exact all.left

/-- A task with no number taken has no frame to send. -/
theorem Stamps.outgoing {task : Task} {heard : Happening → Prop}
    (stamps : Stamps sockets heard task.program) : task.outgoing = none := by
  unfold Task.outgoing Task.asks
  generalize task.program = program at stamps
  cases stamps with
  | ret value => rfl
  | @call op next first later =>
    cases op with
    | send socket frame =>
      cases frame with
      | iot packet => exact Bool.noConfusion first
      | user packet => rfl
      | raw bytes => rfl
    | _ => rfl
  | stamp own later => rfl

/-! ## Events -/

/-- A turn that keeps the memory and the frames that are about to be sent. -/
theorem Counted.frame (counted : Counted sockets server log) (memory : next.memory = server.memory)
    (accepted : next.accepted = server.accepted)
    (outgoing : next.tasks.filterMap Task.outgoing = server.tasks.filterMap Task.outgoing)
    (ready : ∀ task ∈ next.tasks, task.Ready sockets) : Counted sockets next log := by
  have committed : next.committed log = server.committed log := congrArg (log ++ ·) outgoing
  constructor
  · rw [memory, accepted, committed]
    exact counted.records
  · rw [memory]
    exact counted.online
  · rw [accepted, committed]
    exact counted.unused
  · exact ready
  · rw [outgoing]
    exact counted.single
  · rw [committed]
    exact counted.sent

/-- A turn that keeps the memory and the tasks. -/
theorem Counted.same (counted : Counted sockets server log) (memory : next.memory = server.memory)
    (accepted : next.accepted = server.accepted) (tasks : next.tasks = server.tasks) :
    Counted sockets next log :=
  counted.frame memory accepted (congrArg _ tasks) (tasks ▸ counted.ready)

/-- A connection is accepted on a handle of its own. -/
theorem Counted.accept (counted : Counted sockets server log) :
    Counted sockets (server.accept (sockets server.accepted)) log where
  records conn record found := by
    rcases accept_record found with ⟨rfl, rfl⟩ | ⟨-, old⟩
    · refine ⟨Nat.lt_succ_self _, rfl, show (0 : UInt8) < 127 by decide, ?_⟩
      have none : numbers ((server.accept (sockets server.accepted)).committed log)
          (sockets server.accepted) = [] := counted.unused _ le_rfl
      rw [none]
      rfl
    · obtain ⟨below, known⟩ := counted.records conn record old
      exact ⟨Nat.lt_succ_of_lt below, known⟩
  online := counted.online
  unused conn later := counted.unused conn (Nat.le_of_succ_le later)
  ready := counted.ready
  single := counted.single
  sent := counted.sent

/-- A connection that is freed sends no more frames, so the count is kept. -/
theorem Counted.free (counted : Counted sockets server log) {conn : Nat} {last : CLN}
    {rest : List Waiting} :
    Counted sockets { server with memory := server.memory.freeConn conn last, ahead := rest } log where
  records other record found := counted.records other record (freeConn_record found).2
  online kind node member := by
    obtain ⟨old, present, line, handle⟩ := deleteOutUser_paired _ _ _ kind node member
    rw [line, handle]
    exact counted.online kind old present
  unused := counted.unused
  ready := counted.ready
  single := counted.single
  sent := counted.sent

/-- A packet changes neither the socket nor the counter of its connection. -/
theorem Counted.store (counted : Counted sockets server log) {conn : Nat} {before : CLN}
    (known : server.memory.conns conn = some before) (later : CLN) (socket : later.socket = before.socket)
    (seqNum : later.seqNum = before.seqNum) : Counted sockets (server.store conn later) log where
  records other record found := by
    obtain ⟨old, there, rfl⟩ := write_record found
    split
    · rename_i own
      subst own
      rw [socket, seqNum]
      exact counted.records _ before known
    · exact counted.records other old there
  online := counted.online
  unused := counted.unused
  ready := counted.ready
  single := counted.single
  sent := counted.sent

/-- A request is taken up. -/
theorem Counted.dispatch (counted : Counted sockets server log) {a : CLN}
    (own : a.socket = sockets a.conn) (object : Nat) :
    Counted sockets { server with
      tasks := server.tasks ++ [⟨a, object, talk config a, false⟩] } log := by
  have stamps : Stamps sockets (Heard sockets a) (talk config a) :=
    talk_stamps config a own (fun _ node found => found node rfl) fun _ node found => found node rfl
  have silent : Task.outgoing ⟨a, object, talk config a, false⟩ = none := by
    apply Stamps.outgoing
    exact stamps
  refine counted.frame rfl rfl ?_ fun task member => ?_
  · rw [List.filterMap_append, List.filterMap_cons_none silent, List.filterMap_nil, List.append_nil]
  · rcases List.mem_append.mp member with old | new
    · exact counted.ready task old
    · rw [List.mem_singleton.mp new]
      exact ⟨own, .inl stamps⟩

/-- A packet that is received sends nothing, so the count is kept. -/
theorem Counted.receive (counted : Counted sockets server log) {conn : Nat} {packet : Bytes}
    {allocated : Bool} (received : server.receive config conn packet allocated = some next) :
    Counted sockets next log := by
  obtain ⟨record, known, ⟨-, rfl⟩ | ⟨-, -, rfl⟩ | ⟨later, greeted, rfl⟩ |
      ⟨-, -, later, request, greeted, -, copied, rfl⟩⟩ := receive_cases received
  · exact counted
  · exact counted.same rfl rfl rfl
  · obtain ⟨checkcode, info1, rfl⟩ := greeted
    have stored := counted.store known { record with checkcode, info1 } rfl rfl
    exact stored.same rfl rfl rfl
  · obtain ⟨checkcode, info1, rfl⟩ := greeted
    obtain ⟨handle, line, -⟩ := copied.fields
    have own : request.socket = sockets request.conn := by
      rw [handle, line]
      exact (counted.records conn record known).2.1
    have stored := counted.store known
      { record with checkcode, info1, taskNum := record.taskNum + 1 } rfl rfl
    exact (stored.dispatch own server.objects).same rfl rfl rfl

/-- Lists of at most one element that hold the same. -/
theorem eq_of_perm_of_single {α : Type} {left right : List α} (perm : left.Perm right)
    (single : right.length ≤ 1) : left = right := by
  rcases right with _ | ⟨only, _ | ⟨second, rest⟩⟩
  · exact perm.eq_nil
  · exact List.perm_singleton.mp perm
  · rw [List.length_cons, List.length_cons] at single
    omega

/-- A task that has returned. -/
theorem Counted.leave (counted : Counted sockets server log) {task : Task}
    (found : server.tasks[index]? = some task) (returned : task.program = .ret ()) :
    Counted sockets { server with tasks := server.tasks.eraseIdx index } log := by
  have silent : task.outgoing = none := by
    rw [Task.outgoing, Task.asks, returned]
    rfl
  have perm := (pool_perm found).filterMap Task.outgoing
  rw [List.filterMap_cons_none silent] at perm
  refine counted.frame rfl rfl (eq_of_perm_of_single perm.symm counted.single) fun other member => ?_
  exact counted.ready other (List.mem_of_mem_eraseIdx member)

/-! ## Operations -/

/-- The socket and the counter of a record after an operation that takes no number. -/
theorem after_counter {memory after : Memory} {op : Op} {response : op.Res}
    (still : op.leavesNumbers sockets) (stepped : memory.after ⟨op, response⟩ = some after)
    {conn : Nat} {record : CLN} (found : after.conns conn = some record) :
    ∃ before, memory.conns conn = some before ∧
      (record.socket, record.seqNum) = (before.socket, before.seqNum) := by
  refine after_field (fun record => (record.socket, record.seqNum)) ?_ stepped found
  intro target change written record
  cases op with
  | nextSeqNum conn => exact still.elim
  | _ => cases written <;> rfl

/-- The nodes after an operation that takes no number. -/
theorem after_paired {memory after : Memory} {op : Op} {response : op.Res}
    (still : op.leavesNumbers sockets) (stepped : memory.after ⟨op, response⟩ = some after)
    (paired : ∀ kind, ∀ node ∈ memory.online.nodes kind, node.userSocket = sockets node.connHandle)
    (kind : Kind) (node : User) (member : node ∈ after.online.nodes kind) :
    node.userSocket = sockets node.connHandle := by
  rw [after_online stepped] at member
  cases op with
  | deleteOutUser userId socket =>
    obtain ⟨old, present, line, handle⟩ := deleteOutUser_paired _ _ _ kind node member
    rw [line, handle]
    exact paired kind old present
  | newOnlineUserOrIotDev a =>
    simp only [Lists.afterOp] at member
    split at member
    · rw [newOnline_nodes] at member
      split at member
      · rcases List.mem_cons.mp member with rfl | old
        · exact still
        · exact paired kind node old
      · exact paired kind node member
    · exact paired kind node member
  | _ => exact paired kind node member

/-- What an undiverted operation answers is what its request may hear. -/
theorem Counted.heard (counted : Counted sockets server log) {a : CLN} {op : Op}
    {response : op.Res} {memory : Memory} (undiverted : server.undiverted a op = true)
    (after : server.memory.after ⟨op, response⟩ = some memory) :
    Heard sockets a ⟨op, response⟩ := by
  cases op with
  | findOnline kind lookup =>
    cases kind with
    | user => trivial
    | iot =>
      obtain ⟨rfl, -⟩ := after_findOnline after
      cases lookup with
      | key id =>
        intro node found
        have self : (server.memory.online.find .iot (.key id)).all
            (fun node => node.userSocket = a.socket) = true := undiverted
        rw [show server.memory.online.find .iot (.key id) = some node from found] at self
        exact of_decide_eq_true self
      | name userId =>
        intro node found
        exact counted.online .iot node (find_some found).1
  | _ => trivial

section

variable {task : Task} {op : Op} {rest : op.Res → Handler Unit} {response : op.Res} {memory : Memory}

/-- The state after an operation of a task. -/
def ServerState.stepped (server : ServerState) (index : Nat) (task : Task) (op : Op)
    (rest : Handler Unit) (memory : Memory) : ServerState :=
  { server with
    memory
    frees := countFree server.frees task.object op
    tasks := server.tasks.set index (task.performed op rest) }

/-- The tasks after an operation. -/
theorem Counted.ready_set (counted : Counted sockets server log) {later : Task}
    (ready : later.Ready sockets) : ∀ other ∈ server.tasks.set index later, other.Ready sockets := by
  intro other member
  rcases List.mem_or_eq_of_mem_set member with old | rfl
  · exact counted.ready other old
  · exact ready

/-- An operation that takes no number and sends no frame. -/
theorem Counted.quiet (counted : Counted sockets server log)
    (found : server.tasks[index]? = some task) (silent : task.outgoing = none)
    (still : op.leavesNumbers sockets) (after : server.memory.after ⟨op, response⟩ = some memory)
    (stamps : Stamps sockets (Heard sockets task.request) (rest response)) :
    Counted sockets (server.stepped index task op (rest response) memory) log := by
  have outgoing : (server.tasks.set index (task.performed op (rest response))).filterMap
      Task.outgoing = server.tasks.filterMap Task.outgoing := by
    have before := (pool_perm found).filterMap Task.outgoing
    have now := (pool_set_perm found (task.performed op (rest response))).filterMap Task.outgoing
    have quiet : (task.performed op (rest response)).outgoing = none := by
      apply Stamps.outgoing
      exact stamps
    rw [List.filterMap_cons_none silent] at before
    rw [List.filterMap_cons_none quiet] at now
    exact eq_of_perm_of_single (now.trans before.symm) counted.single
  have own := (counted.ready task (List.mem_of_getElem? found)).1
  have moved : Counted sockets { server with memory } log := {
    records := fun conn record known => by
      obtain ⟨old, there, same⟩ := after_counter still after known
      obtain ⟨line, count⟩ := Prod.mk.inj same
      rw [line, count]
      exact counted.records conn old there
    online := after_paired still after counted.online
    unused := counted.unused
    ready := counted.ready
    single := counted.single
    sent := counted.sent }
  exact moved.frame rfl rfl outgoing (counted.ready_set ⟨own, .inl stamps⟩)

/-- A frame with a number goes out. -/
theorem Counted.sends (counted : Counted sockets server log)
    (found : server.tasks[index]? = some task) {socket : Nat} {packet : IotPacket}
    {following : Int → Handler Unit}
    (program : task.program = .call (.send socket (.iot packet)) following)
    (nonzero : packet.seqNum ≠ 0) {len : Int}
    (stamps : Stamps sockets (Heard sockets task.request) (following len)) :
    Counted sockets (server.stepped index task (.send socket (.iot packet)) (following len)
      server.memory) (log ++ [(socket, packet.seqNum)]) := by
  have leaves : task.outgoing = some (socket, packet.seqNum) := by
    rw [Task.outgoing, Task.asks, program]
    exact if_pos (decide_eq_true nonzero)
  have before := (pool_perm found).filterMap Task.outgoing
  rw [List.filterMap_cons_some leaves] at before
  have others : (server.tasks.eraseIdx index).filterMap Task.outgoing = [] := by
    have count := before.length_eq
    rw [List.length_cons] at count
    have single := counted.single
    exact List.eq_nil_of_length_eq_zero (by omega)
  rw [others] at before
  have was : server.tasks.filterMap Task.outgoing = [(socket, packet.seqNum)] :=
    List.perm_singleton.mp before
  have later := (pool_set_perm found
    (task.performed (.send socket (.iot packet)) (following len))).filterMap Task.outgoing
  have quiet : (task.performed (.send socket (.iot packet)) (following len)).outgoing = none := by
    apply Stamps.outgoing
    exact stamps
  rw [List.filterMap_cons_none quiet, others] at later
  have own := (counted.ready task (List.mem_of_getElem? found)).1
  have committed : (server.stepped index task (.send socket (.iot packet)) (following len)
      server.memory).committed (log ++ [(socket, packet.seqNum)]) = server.committed log := by
    rw [ServerState.committed, ServerState.committed, was]
    change _ ++ (server.tasks.set index _).filterMap Task.outgoing = _
    rw [later.eq_nil, List.append_nil]
  constructor
  · rw [committed]
    exact counted.records
  · exact counted.online
  · rw [committed]
    exact counted.unused
  · exact counted.ready_set ⟨own, .inl stamps⟩
  · change ((server.tasks.set index _).filterMap Task.outgoing).length ≤ 1
    rw [later.eq_nil]
    exact Nat.zero_le 1
  · rw [committed]
    exact counted.sent

/-- A counter below 127 goes on below 127, and the number is not zero. -/
theorem number_facts {seqNum : UInt8} (below : seqNum < 127) :
    seqNum + 1 ≠ 0 ∧ wrapped (seqNum + 1) < 127 := by
  have bound : seqNum.toNat < 127 := below
  have value : (seqNum + 1).toNat = seqNum.toNat + 1 := by
    rw [UInt8.toNat_add]
    change (seqNum.toNat + 1) % 256 = _
    omega
  constructor
  · intro zero
    rw [zero] at value
    change 0 = _ at value
    omega
  · unfold wrapped
    split
    · decide
    · rename_i different
      have other : (seqNum + 1).toNat ≠ 127 := fun same => different (UInt8.toNat_inj.mp same)
      change (seqNum + 1).toNat < 127
      omega

/-- A number is taken while no frame is about to be sent. -/
theorem Counted.takes (counted : Counted sockets server log) (distinct : Function.Injective sockets)
    (found : server.tasks[index]? = some task)
    (alone : server.tasks.filterMap Task.outgoing = []) {conn : Nat} {record : CLN}
    (known : server.memory.conns conn = some record) {opCode payLoad : Bytes}
    {following : UInt8 → Int → Handler Unit}
    (stamps : ∀ len, Stamps sockets (Heard sockets task.request)
      (following record.nextSeqNum len)) :
    Counted sockets (server.stepped index task (.nextSeqNum conn)
      (.call (.send (sockets conn) (.iot ⟨opCode, record.nextSeqNum, payLoad⟩))
        (following record.nextSeqNum))
      (server.memory.write conn CLN.advanceSeqNum)) log := by
  obtain ⟨accepted, line, below, count⟩ := counted.records conn record known
  have nonzero : record.nextSeqNum ≠ 0 := (number_facts below).1
  have bounded : wrapped record.nextSeqNum < 127 := (number_facts below).2
  have was : server.committed log = log := by rw [ServerState.committed, alone, List.append_nil]
  rw [was] at count
  have number : record.nextSeqNum = nextNumber ((numbers log (sockets conn)).getLastD 0) :=
    congrArg (· + 1) count
  generalize laterIs : task.performed (.nextSeqNum conn)
    (.call (.send (sockets conn) (.iot ⟨opCode, record.nextSeqNum, payLoad⟩))
      (following record.nextSeqNum)) = later
  have leaves : later.outgoing = some (sockets conn, record.nextSeqNum) := by
    rw [← laterIs]
    exact if_pos (decide_eq_true nonzero)
  have ready : later.Ready sockets := by
    rw [← laterIs]
    exact ⟨(counted.ready task (List.mem_of_getElem? found)).1,
      .inr ⟨_, _, _, rfl, nonzero, stamps⟩⟩
  have others := (pool_perm found).filterMap Task.outgoing
  rw [alone] at others
  have now := (pool_set_perm found later).filterMap Task.outgoing
  have erased : (server.tasks.eraseIdx index).filterMap Task.outgoing = [] := by
    have empty := others.symm.eq_nil
    cases out : task.outgoing with
    | none => rwa [List.filterMap_cons_none out] at empty
    | some frame =>
      rw [List.filterMap_cons_some out] at empty
      contradiction
  rw [List.filterMap_cons_some leaves, erased] at now
  have outgoing := List.perm_singleton.mp now
  have sent (socket : Nat) : numbers ((server.stepped index task (.nextSeqNum conn)
      (.call (.send (sockets conn) (.iot ⟨opCode, record.nextSeqNum, payLoad⟩))
        (following record.nextSeqNum))
      (server.memory.write conn CLN.advanceSeqNum)).committed log) socket =
      numbers log socket ++ numbers [(sockets conn, record.nextSeqNum)] socket := by
    rw [ServerState.committed, ServerState.stepped, laterIs, outgoing, numbers_append]
  have elsewhere {socket : Nat} (other : sockets conn ≠ socket) :
      numbers log socket ++ numbers [(sockets conn, record.nextSeqNum)] socket =
        numbers (server.committed log) socket := by
    rw [numbers_unnumbered (.inl other), List.append_nil, was]
  constructor
  · intro other later found
    rw [sent]
    obtain ⟨old, there, rfl⟩ := write_record found
    by_cases own : other = conn
    · subst own
      obtain rfl := Option.some.inj (there.symm.trans known)
      rw [if_pos rfl, numbers_numbered nonzero, List.getLastD_concat]
      exact ⟨accepted, line, bounded, rfl⟩
    · rw [if_neg own, elsewhere fun same => own (distinct same).symm]
      exact counted.records other old there
  · exact counted.online
  · intro other unaccepted
    have different : conn ≠ other := fun same => absurd accepted (by
      rw [same]
      exact Nat.not_lt.mpr unaccepted)
    rw [sent, elsewhere fun same => different (distinct same)]
    exact counted.unused other unaccepted
  · rw [ServerState.stepped, laterIs]
    exact counted.ready_set ready
  · rw [ServerState.stepped, laterIs, outgoing]
    exact le_rfl
  · intro socket
    rw [sent]
    by_cases own : sockets conn = socket
    · subst own
      rw [numbers_numbered nonzero, number]
      have before := counted.sent (sockets conn)
      rw [was] at before
      exact before.snoc
    · rw [elsewhere own]
      exact counted.sent socket

end

/-! ## Runs -/

/-- While a turn moves a task that has no frame to send, no task has. -/
theorem alone_of_moves {turn : Turn} {task : Task}
    (first : server.sendsFirst turn)
    (moves : ∀ place, turn.moves place = true → place = index)
    (found : server.tasks[index]? = some task) (silent : task.outgoing = none) :
    server.tasks.filterMap Task.outgoing = [] := by
  refine List.filterMap_eq_nil_iff.mpr fun other member => ?_
  obtain ⟨place, there⟩ := List.mem_iff_getElem?.mp member
  by_contra some
  have out : (server.tasks[place]?.bind Task.outgoing).isSome = true := by
    rw [there]
    exact Option.isSome_iff_ne_none.mpr some
  have inside : place < server.tasks.length := (List.getElem?_eq_some_iff.mp there).1
  obtain rfl := moves place (first place inside out)
  obtain rfl := Option.some.inj (there.symm.trans found)
  exact some silent

/-- An undiverted operation keeps the count of the frames. -/
theorem Counted.step (counted : Counted sockets server log) (distinct : Function.Injective sockets)
    {answer : Answer} (undiverted : Undiverted sockets (server, log) (.step index answer))
    (stepped : server.step index answer = some next) :
    Counted sockets next (log ++ server.deviceFrames (.step index answer)) := by
  obtain ⟨task, op, rest, response, memory, found, program, read, after, rfl⟩ := step_cases stepped
  obtain ⟨first, regular⟩ := undiverted
  have asks : task.asks = some op := by rw [Task.asks, program]
  have direct : server.undiverted task.request op = true := regular task found op asks
  have frames : server.deviceFrames (.step index answer) = op.deviceFrame.toList := by
    rw [ServerState.deviceFrames, found]
    change ((task.asks).bind Op.deviceFrame).toList = _
    rw [asks]
    rfl
  rw [frames]
  obtain ⟨own, stamps | ⟨socket, packet, following, sends, nonzero, later⟩⟩ :=
    counted.ready task (List.mem_of_getElem? found)
  · have silent := Stamps.outgoing stamps
    rw [program] at stamps
    cases stamps with
    | call still later =>
      have unsent : op.deviceFrame = none := by
        cases op with
        | send socket frame =>
          cases frame with
          | iot packet => exact Bool.noConfusion still
          | user packet => rfl
          | raw bytes => rfl
        | _ => rfl
      rw [unsent]
      change Counted sockets _ (log ++ [])
      rw [List.append_nil]
      exact counted.quiet found silent still after (later response (counted.heard direct after))
    | @stamp conn socket opCode payLoad following line later =>
      subst line
      have alone : server.tasks.filterMap Task.outgoing = [] :=
        alone_of_moves first (fun place moves => (of_decide_eq_true moves).symm) found silent
      obtain ⟨record, known⟩ := Option.isSome_iff_exists.mp direct
      obtain ⟨answered, wrote⟩ := Option.ite_none_right_eq_some.mp after
      obtain rfl := Option.some.inj wrote
      rw [Memory.reads, known] at answered
      obtain rfl : (show UInt8 from response) = record.nextSeqNum := of_decide_eq_true answered
      change Counted sockets _ (log ++ [])
      rw [List.append_nil]
      exact counted.takes distinct found alone known (later record.nextSeqNum)
  · rw [program] at sends
    cases sends
    obtain rfl := Option.some.inj after
    exact counted.sends found program nonzero (later response)

/-- An undiverted turn keeps the count of the frames. -/
theorem Counted.turn (config : Config) (distinct : Function.Injective sockets)
    (now : ServerState × List (Nat × UInt8)) (turn : Turn) (next : ServerState × List (Nat × UInt8))
    (undiverted : Undiverted sockets now turn) (counted : Counted sockets now.1 now.2)
    (moved : (framed config).step now turn = some next) : Counted sockets next.1 next.2 := by
  obtain ⟨server, log⟩ := now
  obtain ⟨after, history⟩ := next
  obtain ⟨stepped, shown⟩ := observed_step.mp moved
  change history = log ++ server.deviceFrames turn at shown
  subst shown
  change Counted sockets after (log ++ server.deviceFrames turn)
  cases turn with
  | step index answer => exact counted.step distinct undiverted stepped
  | leave index =>
    change Counted sockets after (log ++ [])
    rw [List.append_nil]
    obtain ⟨task, found, returned, rfl⟩ := leave_cases stepped
    exact counted.leave found returned
  | event event =>
    change Counted sockets after (log ++ [])
    rw [List.append_nil]
    cases event with
    | accept socket =>
      obtain rfl : socket = sockets server.accepted := undiverted.2
      obtain rfl := Option.some.inj stepped
      exact counted.accept
    | receive conn packet allocated => exact counted.receive stepped
    | ping lens =>
      obtain rfl := Option.some.inj stepped
      exact counted.same rfl rfl rfl
    | addConnMemWait4Free allocated =>
      obtain ⟨queued, passed, rfl⟩ := addConnMemWait4Free_cases stepped
      exact counted.same rfl rfl rfl
    | beginPass =>
      obtain rfl := beginPass_cases stepped
      exact counted.same rfl rfl rfl
    | visit =>
      obtain ⟨entry, rest, -, ⟨-, rfl⟩ | ⟨record, -, ⟨-, rfl⟩ | ⟨-, rfl⟩⟩⟩ := visit_cases stepped
      · exact counted.same rfl rfl rfl
      · exact counted.free
      · exact counted.same rfl rfl rfl

/-- In every undiverted run the numbers on every socket are consecutive. -/
theorem numbers_consecutive (config : Config) (sockets : Nat → Nat)
    (distinct : Function.Injective sockets) (turns : List Turn)
    (undiverted : (framed config).Meets (Undiverted sockets) (.initial, []) turns) :
    (framed config).Always (fun now => ∀ socket, Consecutive (numbers now.2 socket)) (.initial, [])
      turns :=
  always_of_meets (fun _ counted => counted.consecutive) (Counted.turn config distinct)
    counted_initial undiverted

/-- A packet in the format of a device. -/
def devicePacket (opCode data : String) : Bytes :=
  text opCode ++ [0, 49, 0] ++ text data ++ zeros 10

/-- The only task is run to its end. -/
def servedTurns (answers : List Answer) : List Turn := answers.map (.step 0) ++ [.leave 0]

/-- The node of a device that has signed in on a connection. -/
def onlineDevice (conn : Nat) (userId : String) (key : Int) : User :=
  ⟨conn + 5, text userId, key, text "secret", [no, yes], conn, true⟩

/-- A device greets and signs in. -/
def joining (conn : Nat) (userId : String) (key : Int) : List Turn :=
  .event (.receive conn (text "ZYXX1226") true) :: servedTurns [.int 721, .unit, .unit] ++
    .event (.receive conn (siaPacket userId) true) :: servedTurns
      [.int 1, .found none, .found (some ⟨0, text userId, key, text "secret", [], 0, true⟩), .unit,
        .int 1, .unit, .found none, .unit, .int 721, .unit, .unit]

/-- A signed-in device signs in again and is refused in one frame. -/
def refusing (conn : Nat) (seqNum : UInt8) : List Turn :=
  .event (.receive conn (devicePacket "03" "again_") true) ::
    servedTurns [.flag true, .byte seqNum, .int 205, .unit, .unit]

/-- A command to the device of key 7 that is online on the first connection. -/
def commanding (conn : Nat) (seqNum : UInt8) : List Turn :=
  .event (.receive conn (devicePacket "08" "7_1_2_") true) ::
    servedTurns [.found (some (onlineDevice 0 "device01" 7)), .bytes (zeros 7), .byte seqNum,
      .int 205, .unit, .unit]

/-- A device that is refused and then commands itself gets the numbers 1 and 2. -/
theorem numbers_consecutive_own :
    ∃ server log, (framed bareConfig).run (.initial, [])
        (.event (.accept 5) :: joining 0 "device01" 7 ++ refusing 0 1 ++ commanding 0 2) =
          some (server, log) ∧
      numbers log 5 = [1, 2] ∧ ∀ socket, Consecutive (numbers log socket) := by
  have sent : ((framed bareConfig).run (.initial, [])
      (.event (.accept 5) :: joining 0 "device01" 7 ++ refusing 0 1 ++ commanding 0 2)).map
        (fun now => numbers now.2 5) = some [1, 2] := by decide +kernel
  obtain ⟨⟨server, log⟩, ran, two⟩ := Option.map_eq_some_iff.mp sent
  have undiverted : (framed bareConfig).Meets (Undiverted (· + 5)) (.initial, [])
      (.event (.accept 5) :: joining 0 "device01" 7 ++ refusing 0 1 ++ commanding 0 2) := by
    decide +kernel
  have always := numbers_consecutive bareConfig (· + 5) (add_left_injective 5) _ undiverted
  exact ⟨server, log, ran, two, always _ _ ((congrArg _ (List.take_length)).trans ran)⟩

/-- A command of another device, whose own counter is behind, repeats a number: every frame is sent
as soon as its number is taken, and 1 is followed by 1. -/
theorem number_of_another :
    ∃ server log, (framed bareConfig).run (.initial, [])
        ([.event (.accept 5), .event (.accept 6)] ++ joining 0 "device01" 7 ++
          joining 1 "device02" 8 ++ refusing 0 1 ++ commanding 1 1) = some (server, log) ∧
      (framed bareConfig).Meets (fun now turn => now.1.sendsFirst turn) (.initial, [])
        ([.event (.accept 5), .event (.accept 6)] ++ joining 0 "device01" 7 ++
          joining 1 "device02" 8 ++ refusing 0 1 ++ commanding 1 1) ∧
      numbers log 5 = [1, 1] ∧ ¬Consecutive (numbers log 5) := by
  have sent : ((framed bareConfig).run (.initial, [])
      ([.event (.accept 5), .event (.accept 6)] ++ joining 0 "device01" 7 ++
        joining 1 "device02" 8 ++ refusing 0 1 ++ commanding 1 1)).map
        (fun now => numbers now.2 5) = some [1, 1] := by decide +kernel
  obtain ⟨⟨server, log⟩, ran, twice⟩ := Option.map_eq_some_iff.mp sent
  change numbers log 5 = [1, 1] at twice
  refine ⟨server, log, ran, by decide +kernel, twice, ?_⟩
  rw [twice]
  intro consecutive
  have second : (1 : UInt8) = nextNumber 1 :=
    (List.isChain_cons_cons.mp (List.isChain_cons_cons.mp consecutive).2).1
  exact absurd second (by decide)

end UubangIot
