import Mathlib.Logic.Function.Basic
import UubangIot.Lib.Semantics
import UubangIot.Server.Talk

/-!
# Connections, the worker threads and the reclaiming passes

The memory the handlers share (the accepted connections and the online lists), what
`ServerWorkThread` does with a received packet, the ping and free passes over the connections,
and the two ways the handlers are run: one operation at a time, in any interleaving, or a whole
request at once. A handle is the number of its connection in the order of acceptance and is not
used again.
-/

namespace UubangIot

open Effect Transition

/-! ## Shared memory -/

/-- What the handlers share. -/
structure Memory where
  /-- The connections that have been accepted and not yet freed. -/
  conns : Nat → Option CLN
  /-- `onlineUserHead` and `onlineIotHead`. -/
  online : Lists

/-- Write to a connection. A write to one that was freed is undefined (`Op.records`); here it changes
nothing. -/
def Memory.write (memory : Memory) (conn : Nat) (change : CLN → CLN) : Memory :=
  { memory with conns := Function.update memory.conns conn ((memory.conns conn).map change) }

/-- A read of a connection answers with its value; after it has been freed, with anything. -/
def Memory.reads {α : Type} [DecidableEq α] (memory : Memory) (conn : Nat) (value : CLN → α)
    (answer : α) : Bool :=
  match memory.conns conn with
  | none => true
  | some record => answer = value record

/-- The value sent after the increment of `SeqNum`. -/
def CLN.nextSeqNum (record : CLN) : UInt8 := record.seqNum + 1

/-- `SeqNum` after it was sent. -/
def CLN.advanceSeqNum (record : CLN) : CLN :=
  { record with seqNum := if record.nextSeqNum = 127 then 1 else record.nextSeqNum }

/-- One operation on the shared memory. Searches, removals and insertions answer with what they
find; an insertion may lack memory. What the database, the sockets and the registered lists
answer is left open. -/
def Memory.after (memory : Memory) : Happening → Option Memory
  | ⟨.decrementTasks conn, _⟩ =>
    some (memory.write conn fun record => { record with taskNum := record.taskNum - 1 })
  | ⟨.setConnKey conn key, _⟩ => some (memory.write conn fun record => { record with key })
  | ⟨.setConnPin conn pin count, _⟩ =>
    some (memory.write conn fun record => { record with pin := memcpy record.pin pin count })
  | ⟨.setConnUserId conn userId, _⟩ =>
    some (memory.write conn fun record =>
      { record with userId := memcpy record.userId userId userId.length })
  | ⟨.setConnUserKeyId conn userKeyId, _⟩ =>
    some (memory.write conn fun record => { record with userKeyId })
  | ⟨.setConnSignedIn conn, _⟩ =>
    some (memory.write conn fun record => { record with info0 := yes })
  | ⟨.connSignedIn conn, flag⟩ =>
    if memory.reads conn CLN.signedIn (show Bool from flag) then some memory else none
  | ⟨.connPin conn, pin⟩ =>
    if memory.reads conn CLN.pin (show Bytes from pin) then some memory else none
  | ⟨.nextSeqNum conn, seqNum⟩ =>
    if memory.reads conn CLN.nextSeqNum (show UInt8 from seqNum) then
      some (memory.write conn CLN.advanceSeqNum)
    else none
  | ⟨.findOnline kind lookup, found⟩ =>
    if (show Option User from found) = memory.online.find kind lookup then some memory else none
  | ⟨.deleteOutUser userId socket, result⟩ =>
    if (show Int from result) = (memory.online.deleteOutUser userId socket).1 then
      some { memory with online := (memory.online.deleteOutUser userId socket).2 }
    else none
  | ⟨.newOnlineUserOrIotDev a, result⟩ =>
    if (show Int from result) = 1 then
      some { memory with online := memory.online.newOnlineUserOrIotDev a }
    else if (show Int from result) = -1 then some memory
    else none
  | _ => some memory

/-- The shared memory under its operations. -/
def Memory.system : System Memory Happening := ⟨Memory.after⟩

/-! ## Receiving a packet -/

/-- A part of a packet. -/
def field (packet : Bytes) (offset size : Nat) : Bytes := (packet.drop offset).take size

/-- `CopyUserPacketInterface2Cln` of a packet in a zeroed buffer. -/
def copyUserPacketInterface2Cln (packet : Bytes) (a : CLN) : CLN :=
  let buffer := packet ++ zeros (721 - packet.length)
  { a with
    checkcode := memcpy a.checkcode (field buffer 0 17) 17
    userId := memcpy a.userId (field buffer 18 11) 11
    userPassword := memcpy a.userPassword (field buffer 30 32) 32
    talktoId := memcpy a.talktoId (field buffer 63 11) 11
    reUserPassword := memcpy a.reUserPassword (field buffer 75 32) 32
    data := memcpy a.data (field buffer 108 512) 512
    date := memcpy a.date (field buffer 621 99) 99 }

/-- `CopyRecIotData2Cln`. -/
def copyRecIotData2Cln (packet : Bytes) (a : CLN) : CLN :=
  { a with
    checkcode := strcpy a.checkcode (field packet 0 2)
    date := strcpy a.date (field packet 3 1)
    data := memcpy a.data (packet.drop 5) (packet.length - 5) }

/-- The request copied from its connection and the packet, and the connection after it; the
length of the packet selects the format. -/
def snapshot (handle : Nat) (record : CLN) (packet : Bytes) : CLN × CLN :=
  if 10 < packet.length ∧ packet.length ≤ 205 then
    let request := { copyRecIotData2Cln packet record with conn := handle }
    (request, { record with
      checkcode := memcpy record.checkcode request.checkcode 17, info1 := yes })
  else
    let request := copyUserPacketInterface2Cln packet { record with conn := handle }
    (request, { record with checkcode := memcpy record.checkcode request.checkcode 18 })

/-- `"OOM\n"`. -/
def oom : Frame := .raw (text "OOM\n" ++ [0])
/-- `"UPD\n"`. -/
def updateNotice : Frame := .raw (text "UPD\n" ++ [0])

/-- What comes of a received packet, with the connection and the frames sent to it. -/
inductive Work
  /-- Nothing to read, or too much: the socket is closed. -/
  | closed
  /-- There was no memory, and the null request was used. -/
  | nullRequest (sent : List Frame)
  /-- The request was freed; an illegal connection's socket is closed. -/
  | refused (record : CLN) (sent : List Frame)
  /-- The request was handed to the pool. -/
  | dispatched (record : CLN) (sent : List Frame) (request : CLN)

/-- The handshake of a connection that has not made one, with the version it names. -/
def handshake (record request : CLN) : CLN × CLN × List Frame :=
  if strstr record.checkcode (text "ZYX") ∧ record.info1 ≠ yes then
    if strstr record.checkcode (text "ZYXX1226") ∨ strstr record.checkcode (text "ZYXX1227") then
      ({ record with info1 := yes }, { request with info1 := yes }, [])
    else (record, request, [updateNotice])
  else (record, request, [])

/-- `ServerWorkThread` after the request was copied: greet, count, dispatch. -/
def dispatch (record request : CLN) : Work :=
  let (record, request, sent) := handshake record request
  if record.info1 ≠ yes then .refused record sent
  else if record.info2 < 120 then
    .dispatched { record with taskNum := record.taskNum + 1 } sent request
  else .refused record (sent ++ [oom])

/-- `ServerWorkThread` on a completed receive. Without memory for the request, the reply is sent
and the null request is then freed through its own mark. -/
def serverWork (handle : Nat) (record : CLN) (packet : Bytes) (allocated : Bool) : Work :=
  if packet.length = 0 ∨ 721 < packet.length then .closed
  else if allocated then
    let (request, record) := snapshot handle record packet
    dispatch record request
  else .nullRequest (if record.info1 ≠ yes then [oom] else [oom, oom])

/-! ## The server -/

/-- A `talk` task, queued or running. -/
structure Task where
  /-- Its request. -/
  request : CLN
  /-- The number of the request object. -/
  object : Nat
  /-- What is left to do. -/
  program : Handler Unit
  /-- The task has taken itself off its connection. -/
  ended : Bool

/-- `CLN_LINK`. -/
structure Waiting where
  /-- `CONNHANDLE`. -/
  conn : Nat
  /-- `time`. -/
  time : Nat
  /-- `left_time`. -/
  leftTime : Nat
  deriving DecidableEq, Repr

/-- The whole server. -/
structure ServerState where
  /-- Connections and online lists. -/
  memory : Memory
  /-- The connections accepted so far. -/
  accepted : Nat
  /-- The request objects allocated so far. -/
  objects : Nat
  /-- How often each of them was freed. -/
  frees : Nat → Nat
  /-- A null request object was used. -/
  nullUsed : Bool
  /-- The tasks in the pool. -/
  tasks : List Task
  /-- `MallocHead`. -/
  pinged : List Waiting
  /-- The `addConnMemWait4Free` tasks. -/
  queued : List Nat
  /-- `Head`, the part a free pass has still to visit. -/
  ahead : List Waiting
  /-- `Head`, the part it has visited. -/
  passed : List Waiting

/-- Before the first connection. -/
def ServerState.initial : ServerState :=
  ⟨⟨fun _ => none, .empty⟩, 0, 0, fun _ => 0, false, [], [], [], [], []⟩

/-- The record of a connection when it is accepted. -/
def CLN.fresh (socket : Nat) : CLN := { CLN.zero with socket, info0 := no, info1 := no }

/-- `AcceptClient`. -/
def ServerState.accept (server : ServerState) (socket : Nat) : ServerState :=
  { server with
    memory := { server.memory with
      conns := Function.update server.memory.conns server.accepted (some (.fresh socket)) }
    accepted := server.accepted + 1
    pinged := server.pinged ++ [⟨server.accepted, 0, 0⟩] }

/-- Put back the record of a connection. -/
def ServerState.store (server : ServerState) (conn : Nat) (record : CLN) : ServerState :=
  { server with memory := server.memory.write conn fun _ => record }

/-- A packet on a connection. A receive that was pending when the connection was freed is undefined
(`ServerState.undefinedReceive`); here it does not come. -/
def ServerState.receive (config : Config) (server : ServerState) (conn : Nat) (packet : Bytes)
    (allocated : Bool) : Option ServerState :=
  match server.memory.conns conn with
  | none => none
  | some record =>
    match serverWork conn record packet allocated with
    | .closed => some server
    | .nullRequest _ => some { server with nullUsed := true }
    | .refused record _ =>
      some { server.store conn record with
        objects := server.objects + 1, frees := Function.update server.frees server.objects 1 }
    | .dispatched record _ request =>
      some { server.store conn record with
        objects := server.objects + 1
        tasks := server.tasks ++ [⟨request, server.objects, talk config request, false⟩] }

/-- `PingMallocConnList` over the entries, with the result of each send (none where the mutex is
taken): the entries kept and the connections given up. -/
def pingLoop : List Waiting → List (Option Int) → List Waiting × List Nat
  | [], _ => ([], [])
  | entry :: rest, lens =>
    let failed := match lens.headD none with
      | none => false
      | some len => sendFailed len
    let time := if failed then entry.time + 1 else entry.time
    let (kept, given) := pingLoop rest lens.tail
    if 1 < time then (kept, entry.conn :: given) else ({ entry with time } :: kept, given)

/-- `PingMallocConnList`. -/
def ServerState.ping (server : ServerState) (lens : List (Option Int)) : ServerState :=
  { server with
    pinged := (pingLoop server.pinged lens).1
    queued := server.queued ++ (pingLoop server.pinged lens).2 }

/-- `addConnMemWait4Free`, between two passes; without memory the connection is forgotten. -/
def ServerState.addConnMemWait4Free (server : ServerState) (allocated : Bool) :
    Option ServerState :=
  match server.queued, server.ahead with
  | conn :: rest, [] =>
    some { server with
      queued := rest
      passed := if allocated then server.passed ++ [⟨conn, 0, 0⟩] else server.passed }
  | _, _ => none

/-- `freeConnMemWait4Free` begins a pass. -/
def ServerState.beginPass (server : ServerState) : Option ServerState :=
  if server.ahead = [] then some { server with ahead := server.passed, passed := [] } else none

/-- The condition under which a pass frees a connection. -/
def Waiting.due (entry : Waiting) (record : CLN) : Bool :=
  (entry.time = 1 ∧ record.info2 = 0) ∨ 100 ≤ entry.leftTime

/-- An entry that a pass leaves in the list. -/
def Waiting.kept (entry : Waiting) (record : CLN) : Waiting :=
  if record.info2 ≠ 0 then { entry with time := 0, leftTime := entry.leftTime + 1 }
  else { entry with time := entry.time + 1 }

/-- `delete_out_user(CONNHANDLE)` and `free(CONNHANDLE)`. -/
def Memory.freeConn (memory : Memory) (conn : Nat) (record : CLN) : Memory :=
  { conns := Function.update memory.conns conn none
    online := (memory.online.deleteOutUser record.userId record.socket).2 }

/-- `freeConnMemWait4Free` at one entry of its list. -/
def ServerState.visit (server : ServerState) : Option ServerState :=
  match server.ahead with
  | [] => none
  | entry :: rest =>
    match server.memory.conns entry.conn with
    | none => some { server with ahead := rest }
    | some record =>
      if entry.due record then
        some { server with memory := server.memory.freeConn entry.conn record, ahead := rest }
      else
        some { server with ahead := rest, passed := server.passed ++ [entry.kept record] }

/-- What happens around the handlers. -/
inductive ServerEvent
  /-- A connection is accepted. -/
  | accept (socket : Nat)
  /-- A packet is received; there may be no memory for its request. -/
  | receive (conn : Nat) (packet : Bytes) (allocated : Bool)
  /-- A ping pass. -/
  | ping (lens : List (Option Int))
  /-- A connection that was given up is added to the free list. -/
  | addConnMemWait4Free (allocated : Bool)
  /-- A free pass begins. -/
  | beginPass
  /-- A free pass comes to its next entry. -/
  | visit

/-- One event. -/
def ServerState.on (config : Config) (server : ServerState) : ServerEvent → Option ServerState
  | .accept socket => some (server.accept socket)
  | .receive conn packet allocated => server.receive config conn packet allocated
  | .ping lens => some (server.ping lens)
  | .addConnMemWait4Free allocated => server.addConnMemWait4Free allocated
  | .beginPass => server.beginPass
  | .visit => server.visit

/-! ## One operation at a time -/

/-- The operation that takes a task off its connection. -/
def Op.isDecrement : Op → Bool
  | .decrementTasks _ => true
  | _ => false

/-- The operation that frees a request. -/
def Op.isFree : Op → Bool
  | .freeNode => true
  | _ => false

/-- A task after one of its operations. -/
def Task.performed (task : Task) (op : Op) (rest : Handler Unit) : Task :=
  { task with program := rest, ended := task.ended || op.isDecrement }

/-- The free counts after an operation on a request object. -/
def countFree (frees : Nat → Nat) (object : Nat) (op : Op) : Nat → Nat :=
  if op.isFree then Function.update frees object (frees object + 1) else frees

/-- The next operation of a task. A mutex that is taken does not hold it up: the server with its
mutexes has some of these runs, and no others. -/
def ServerState.step (server : ServerState) (index : Nat) (answer : Answer) :
    Option ServerState :=
  match server.tasks[index]? with
  | none => none
  | some task =>
    match task.program with
    | .ret _ => none
    | .call op next =>
      (op.read answer).bind fun response =>
        (server.memory.after ⟨op, response⟩).map fun memory =>
          { server with
            memory
            frees := countFree server.frees task.object op
            tasks := server.tasks.set index (task.performed op (next response)) }

/-- A task that has returned leaves the pool. -/
def ServerState.leave (server : ServerState) (index : Nat) : Option ServerState :=
  match server.tasks[index]? with
  | some ⟨_, _, .ret _, _⟩ => some { server with tasks := server.tasks.eraseIdx index }
  | _ => none

/-- A turn of the server. -/
inductive Turn
  | event (event : ServerEvent)
  | step (index : Nat) (answer : Answer)
  | leave (index : Nat)

/-- The state after one turn. -/
def ServerState.turn (config : Config) (server : ServerState) : Turn → Option ServerState
  | .event event => server.on config event
  | .step index answer => server.step index answer
  | .leave index => server.leave index

/-- The server with its tasks interleaved. -/
def interleaved (config : Config) : System ServerState Turn := ⟨ServerState.turn config⟩

/-! ## One request at a time -/

/-- A whole task, with what its operations answer. -/
def ServerState.request (server : ServerState) (index : Nat) (answers : List Answer) :
    Option ServerState :=
  match server.tasks[index]? with
  | none => none
  | some task =>
    (answering task.program answers).bind fun (trace, _) =>
      (Memory.system.run server.memory trace).map fun memory =>
        { server with
          memory
          frees := trace.foldl (fun frees happening => countFree frees task.object happening.1)
            server.frees
          tasks := server.tasks.eraseIdx index }

/-- A round of the server. -/
inductive Round
  | event (event : ServerEvent)
  | request (index : Nat) (answers : List Answer)

/-- The state after one round. -/
def ServerState.round (config : Config) (server : ServerState) : Round → Option ServerState
  | .event event => server.on config event
  | .request index answers => server.request index answers

/-- The server with every request handled at once. -/
def atomic (config : Config) : System ServerState Round := ⟨ServerState.round config⟩

end UubangIot
