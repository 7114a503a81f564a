import UubangIot.Lib.Transition
import UubangIot.Server.IotTalk

/-!
# Commands stored for a device

The requests of devices that store a command in `iotcmd` (opcode 9) or read one (opcode 5), each handled
by a thread of its own. `INSERT` appends a row, `SELECT` returns the matching rows in the order of
insertion and `DELETE` removes all of them; queries and sends succeed. Rows are numbered, so that equal
commands can be told apart. What a task has selected stays with its connection until the result is
stored, and what it has read, deleted or stored is written down with it.
-/

namespace UubangIot.StoredCommands

open Effect Transition

/-- A row of `iotcmd`. -/
structure Command where
  /-- Its place in the order of insertion. -/
  serial : Nat
  /-- `iotid`, the device it is for. -/
  iotid : Int
  /-- `class`. -/
  devClass : Int
  /-- `status`. -/
  status : Int
  /-- `cmd`. -/
  cmd : Bytes
  /-- `fromid`. -/
  fromid : Int
  /-- `cmdDate`. -/
  cmdDate : Bytes
  deriving DecidableEq, Repr

/-- The columns of a row; `cmdStatus` is 0. -/
def Command.row (x : Command) : Row :=
  [decimal x.iotid, decimal x.devClass, decimal x.status, x.cmd, decimal x.fromid, x.cmdDate, text "0"]

/-- The row matches `iotid` and `class`. -/
def Command.answers (iotid devClass : Int) (x : Command) : Bool :=
  x.iotid = iotid ∧ x.devClass = devClass

/-- What a task has done with the commands. -/
inductive Stage
  /-- Nothing that is still to do. -/
  | free
  /-- The rows of its `SELECT` wait for `mysql_store_result`. -/
  | selected (rows : List Command)
  /-- It has read a command and not deleted it. -/
  | holds (x : Command)
  /-- It has deleted what it read and not replied. -/
  | owes (x : Command)
  /-- It has stored a command and not replied. -/
  | stored (x : Command)
  deriving DecidableEq, Repr

/-- The command that a task is between reading and deleting. -/
def Stage.holding : Stage → Option Command
  | .selected rows => rows.head?
  | .holds x => some x
  | _ => none

/-- A `DELETE` of the task. -/
def Stage.deleted : Stage → Stage
  | .holds x => .owes x
  | stage => stage

/-- A request that is handled. -/
structure Task where
  /-- The request. -/
  request : CLN
  /-- What is left of `IoTtalk`. -/
  program : Handler Unit
  /-- What it has done with the commands. -/
  stage : Stage

/-- The operation a task is before. -/
def Task.op (task : Task) : Option Op :=
  match task.program with
  | .ret _ => none
  | .call op _ => some op

/-- A reply `05`. -/
structure Reply where
  /-- The command that was read for it. -/
  command : Command
  /-- The request it answers. -/
  request : CLN
  /-- `payLoad`. -/
  payLoad : Bytes
  deriving DecidableEq, Repr

/-- `iotcmd` and the requests. -/
structure State where
  /-- The rows of `iotcmd`. -/
  table : List Command
  /-- All rows that were ever inserted. -/
  inserted : List Command
  /-- The requests. -/
  tasks : List Task
  /-- The commands acknowledged with `09`. -/
  acknowledged : List Command
  /-- The replies `05`. -/
  delivered : List Reply

/-- A frame is sent: a reply `05` delivers what the task read, `09` acknowledges what it stored. -/
def State.sent (state : State) (request : CLN) (packet : IotPacket) : Stage → State × Stage
  | .owes x =>
    if packet.opCode = text "05" then
      ({ state with delivered := state.delivered ++ [⟨x, request, packet.payLoad⟩] }, .free)
    else (state, .owes x)
  | .stored x =>
    if packet.opCode = text "09" then
      ({ state with acknowledged := state.acknowledged ++ [x] }, .free)
    else (state, .stored x)
  | stage => (state, stage)

/-- A stored result: the first row is what the task reads. -/
def Stage.fetched (rows : Option (List Row)) : Stage → Option Stage
  | .selected found =>
    if rows = some (found.map Command.row) then some (found.head?.elim .free .holds) else none
  | _ => none

/-- An operation with its answer, when it succeeds. -/
def State.perform (state : State) (request : CLN) (stage : Stage) :
    Op → Answer → Option (State × Stage)
  | .getDbConnect, .node none => none
  | .realQuery _ _, .query (.failed _) => none
  | .realQuery _ (.selectCommands iotid devClass), _ =>
    some (state, .selected (state.table.filter (Command.answers iotid devClass)))
  | .realQuery _ (.deleteCommands iotid devClass), _ =>
    some ({ state with table := state.table.filter fun x => !x.answers iotid devClass },
      stage.deleted)
  | .realQuery _ (.insertCommand iotid devClass status cmd fromid cmdDate), _ =>
    let x := ⟨state.inserted.length, iotid, devClass, status, cmd, fromid, cmdDate⟩
    some ({ state with table := state.table ++ [x], inserted := state.inserted ++ [x] }, .stored x)
  | .storeResult _, .rows rows => (stage.fetched rows).map fun stage => (state, stage)
  | .send _ (.iot packet), .int len =>
    if sendFailed len then none else some (state.sent request packet stage)
  | _, _ => some (state, stage)

/-- A request arrives, or a task takes its next operation and its answer. -/
inductive Label
  /-- A request of opcode 5 or 9. -/
  | enter (request : CLN)
  /-- An operation of a task. -/
  | turn (t : Nat) (answer : Answer)

/-- Stores and reads in any order. -/
def system : System State Label where
  step state label :=
    match label with
    | .enter request =>
      if atoi request.checkcode = 5 ∨ atoi request.checkcode = 9 then
        some { state with tasks := state.tasks ++ [⟨request, iotTalk request, .free⟩] }
      else none
    | .turn t answer => state.tasks[t]?.bind fun task =>
      match task.program with
      | .ret _ => none
      | .call op next => (op.read answer).bind fun response =>
        (state.perform task.request task.stage op answer).map fun (later, stage) =>
          { later with tasks := state.tasks.set t ⟨task.request, next response, stage⟩ }

/-- An empty `iotcmd`. -/
def initial : State := ⟨[], [], [], [], []⟩

end UubangIot.StoredCommands
