import UubangIot.Lib.Transition
import UubangIot.Server.Worker

/-!
# Undefined accesses

The record of a connection and the nodes of the online lists are freed while the server still has
pointers to them: in the tasks of a connection that is freed as busy, in a receive that is pending on
it, in the lists themselves and in a task that has found a node. The state of the server has numbers
where the source has addresses, and they are not given out again. Here is which turns use memory that
was freed, a pointer that is NULL or overwritten, or the `int` of a text that is too large for one;
such a turn may leave any state. A text that runs over its array into the next arrays of its own
record is another matter.
-/

namespace UubangIot

open Effect Transition

/-! ## The nodes behind the lists -/

/-- A node that a task has found: its number, and the connection it points to. -/
structure FoundNode where
  /-- Its number. -/
  number : Nat
  /-- `CONNHANDLE`. -/
  conn : Nat
  deriving DecidableEq, Repr

/-- The nodes of the online lists, numbered as they are allocated. -/
structure NodeNumbers where
  /-- The number of the next one. -/
  next : Nat
  /-- The nodes of a list in its order. -/
  lists : Kind → List Nat
  /-- The nodes that were freed. -/
  freed : List Nat
  /-- The nodes that the task of an object has found. -/
  found : Nat → List FoundNode

/-- Before the first node. -/
def NodeNumbers.initial : NodeNumbers := ⟨0, fun _ => [], [], fun _ => []⟩

/-- A node is inserted in front. -/
def NodeNumbers.push (numbers : NodeNumbers) (kind : Kind) : NodeNumbers :=
  { numbers with
    next := numbers.next + 1
    lists := Function.update numbers.lists kind (numbers.next :: numbers.lists kind) }

/-- A node is found by the task of an object. -/
def NodeNumbers.find (numbers : NodeNumbers) (kind : Kind) (place object : Nat) (node : User) :
    NodeNumbers :=
  { numbers with
    found := Function.update numbers.found object (numbers.found object ++
      ((numbers.lists kind)[place]?.map fun number => ⟨number, node.connHandle⟩).toList) }

/-- The place of the node that `delete_out_user` unlinks. -/
def Lists.unlinked (lists : Lists) (userId : Bytes) (socket : Nat) : Option Nat :=
  if strlen userId < 6 then none
  else (lists.head (kindOf userId)).nodes.findIdx? (owns userId socket)

/-- `delete_out_user` — the first node is freed itself, after a later one the node behind it. -/
def NodeNumbers.unlink (numbers : NodeNumbers) (kind : Kind) (place : Nat) : NodeNumbers :=
  let rest := (numbers.lists kind).eraseIdx place
  { numbers with
    lists := Function.update numbers.lists kind rest
    freed := numbers.freed ++
      (if place = 0 then (numbers.lists kind).head? else rest[place]?).toList }

/-- `delete_out_user` of an id and a socket. -/
def NodeNumbers.deleteOutUser (numbers : NodeNumbers) (online : Lists) (userId : Bytes)
    (socket : Nat) : NodeNumbers :=
  match online.unlinked userId socket with
  | none => numbers
  | some place => numbers.unlink (kindOf userId) place

/-- The nodes after an operation of the task of an object. -/
def NodeNumbers.performed (numbers : NodeNumbers) (online : Lists) (object : Nat) :
    Op → Answer → NodeNumbers
  | .findOnline kind lookup, .found (some node) =>
    match (online.head kind).nodes.findIdx? lookup.matches with
    | none => numbers
    | some place => numbers.find kind place object node
  | .deleteOutUser userId socket, _ => numbers.deleteOutUser online userId socket
  | .newOnlineUserOrIotDev a, .int 1 => numbers.push (kindOf a.userId)
  | _, _ => numbers

/-- The next operation of a task. -/
def ServerState.nextOp (server : ServerState) (index : Nat) : Option (Task × Op) :=
  match server.tasks[index]? with
  | none => none
  | some task =>
    match task.program with
    | .ret _ => none
    | .call op _ => some (task, op)

/-- The connection that the next visit of a free pass frees. -/
def ServerState.nextFreed (server : ServerState) : Option CLN :=
  match server.ahead with
  | [] => none
  | entry :: _ =>
    match server.memory.conns entry.conn with
    | none => none
    | some record => if entry.due record then some record else none

/-- The nodes after a turn. -/
def NodeNumbers.follow (numbers : NodeNumbers) (server : ServerState) : Turn → NodeNumbers
  | .step index answer =>
    match server.nextOp index with
    | none => numbers
    | some (task, op) => numbers.performed server.memory.online task.object op answer
  | .event .visit =>
    match server.nextFreed with
    | none => numbers
    | some record => numbers.deleteOutUser server.memory.online record.userId record.socket
  | _ => numbers

/-! ## What is undefined -/

/-- The record of a connection was freed. -/
def ServerState.gone (server : ServerState) (conn : Nat) : Bool :=
  conn < server.accepted && (server.memory.conns conn).isNone

/-- A list function reads a node that was freed: it reads the nodes up to the first that passes its
test. -/
def readsFreed (nodes : List User) (test : User → Bool) : Bool :=
  (nodes.take (nodes.findIdx test + 1)).any fun node => !node.allocated

/-- `delete_out_user` reads a node that was freed, or frees one again. -/
def Lists.deletesFreed (lists : Lists) (userId : Bytes) (socket : Nat) : Bool :=
  let nodes := (lists.head (kindOf userId)).nodes
  6 ≤ strlen userId &&
    (readsFreed nodes (owns userId socket) ||
      (lists.unlinked userId socket).any fun place =>
        0 < place && nodes[place + 1]?.any fun node => !node.allocated)

/-- The records of connections that an operation of a request reads or writes. Its frames are sent
under the mutex of its own connection. -/
def Op.records (request : CLN) : Op → List Nat
  | .decrementTasks conn | .setConnKey conn _ | .setConnPin conn _ _ | .setConnUserId conn _
  | .setConnUserKeyId conn _ | .setConnSignedIn conn | .connSignedIn conn | .connPin conn
  | .nextSeqNum conn => [conn]
  | .send _ _ => [request.conn]
  | _ => []

/-- The operation reads the node that its task has found online: `SIGNIN` takes the socket for the
removal from it and sends the notice to it, a command goes to its socket. -/
def Op.readsFound (request : CLN) : Op → Bool
  | .deleteOutUser _ _ | .connPin _ => true
  | .send _ frame => frame = reply "STO" || request.requestClass = .user .icm
  | .nextSeqNum _ | .closeSocket _ => request.requestClass = .user .icm
  | _ => false

/-- The node is freed, or the operation sends under the mutex of a connection that is. -/
def FoundNode.dangles (node : FoundNode) (numbers : NodeNumbers) (server : ServerState) (op : Op) :
    Bool :=
  numbers.freed.contains node.number ||
    match op with
    | .send _ _ => server.gone node.conn
    | _ => false

/-- The numbers in a statement. -/
def Statement.ints : Statement → List Int
  | .insertUser _ _ _ _ | .insertServerInfo | .selectUsers | .selectIotNodes => []
  | .insertIotNode _ deviceClass _ => [deviceClass]
  | .selectUsersAbove id | .selectIotNodesAbove id | .updatePassword _ id => [id]
  | .insertEvent iotId evtClass status _ | .updateEvent status _ iotId evtClass =>
    [iotId, evtClass, status]
  | .insertScene iotid devClass _ status _ _ cmdGroup fromUserId =>
    [iotid, devClass, status, cmdGroup, fromUserId]
  | .insertFriend userId friendId | .insertMessage _ userId friendId _ => [userId, friendId]
  | .insertUserIot userId iotId => [userId, iotId]
  | .updateTimestamp index userId flag => [index, userId, flag]
  | .insertCommand iotid devClass status _ fromid _ => [iotid, devClass, status, fromid]
  | .selectCommands iotid devClass | .deleteCommands iotid devClass => [iotid, devClass]
  | .selectEvents id | .deleteScenes id | .selectScenes id | .selectFriends id
  | .selectUserIots id => [id]

/-- The numbers that an operation has from texts. -/
def Op.ints : Op → List Int
  | .findOnline _ (.key id) | .findRegister _ (.key id) => [id]
  | .addtoLocal entry => [entry.userKeyId]
  | .realQuery _ statement => statement.ints
  | _ => []

/-- A number that an `int` does not hold; `atoi` of its text is undefined. -/
def outOfInt (value : Int) : Bool := value < -2 ^ 31 || 2 ^ 31 ≤ value

/-- An operation of a task is undefined: it is a fault, has a number that no `int` holds, or uses a
record or a node that was freed. -/
def ServerState.undefinedOp (server : ServerState) (numbers : NodeNumbers) (task : Task) (op : Op) :
    Bool :=
  op.ints.any outOfInt || (op.records task.request).any server.gone ||
    (op.readsFound task.request &&
      (numbers.found task.object).any fun node => node.dangles numbers server op) ||
    match op with
    | .fault => true
    | .findOnline kind lookup => readsFreed (server.memory.online.head kind).nodes lookup.matches
    | .deleteOutUser userId socket => server.memory.online.deletesFreed userId socket
    | _ => false

/-- A packet is undefined: its receive was pending on a connection that is freed, or it uses the null
request. -/
def ServerState.undefinedReceive (server : ServerState) (conn : Nat) (packet : Bytes)
    (allocated : Bool) : Bool :=
  server.gone conn ||
    (server.memory.conns conn).any fun record =>
      match serverWork conn record packet allocated with
      | .nullRequest _ => true
      | _ => false

/-- A turn is undefined. -/
def ServerState.undefined (server : ServerState) (numbers : NodeNumbers) : Turn → Bool
  | .step index _ =>
    match server.nextOp index with
    | none => false
    | some (task, op) => server.undefinedOp numbers task op
  | .event (.receive conn packet allocated) => server.undefinedReceive conn packet allocated
  | .event (.ping _) => server.pinged.any fun entry => server.gone entry.conn
  | .event .visit =>
    (server.ahead.head?.any fun entry => server.gone entry.conn) ||
      server.nextFreed.any fun record =>
        server.memory.online.deletesFreed record.userId record.socket
  | _ => false

section

variable {State : Type} (view : State → ServerState)

/-- A system over the server in which an undefined turn may leave any state. -/
def wild (system : System State Turn) : System (State × NodeNumbers) (Turn × State × NodeNumbers) :=
  (system.shadowed fun state turn numbers => numbers.follow (view state) turn).orAnything
    fun now turn => (view now.1).undefined now.2 turn

/-- The turn is defined. -/
def Defined (now : State × NodeNumbers) (choice : Turn × State × NodeNumbers) : Prop :=
  (view now.1).undefined now.2 choice.1 = false

instance (now : State × NodeNumbers) (choice : Turn × State × NodeNumbers) :
    Decidable (Defined view now choice) := inferInstanceAs (Decidable (_ = _))

variable {view} {system : System State Turn}

/-- A defined turn is one of the system. -/
theorem wild_step {now next : State × NodeNumbers} {choice : Turn × State × NodeNumbers}
    (defined : Defined view now choice) (stepped : (wild view system).step now choice = some next) :
    system.step now.1 choice.1 = some next.1 :=
  System.shadowed_step (System.orAnything_step stepped defined)

/-- A run of defined turns is one of the system. -/
theorem wild_run {now final : State × NodeNumbers} {choices : List (Turn × State × NodeNumbers)}
    (defined : (wild view system).Meets (Defined view) now choices)
    (ran : (wild view system).run now choices = some final) :
    system.run now.1 (choices.map Prod.fst) = some final.1 :=
  System.shadowed_run (System.orAnything_run ran defined)

/-- Turns that are all expected to be defined: the state that an undefined one leaves is the first. -/
def certain (start : State) (turns : List Turn) : List (Turn × State × NodeNumbers) :=
  turns.map fun turn => (turn, start, .initial)

end

end UubangIot
