import Mathlib.Data.List.Nodup
import UubangIot.Server.StoredCommands
import UubangIot.Verif.TextFacts

/-!
# Delivery of stored commands

A read takes the first row of its class and then deletes the class. It loses the others that waited
with the row, and those that were stored in between; two reads that select the same row deliver it
twice. When a read finds at most one command of its class, and from then to the `DELETE` nobody else
selects or stores in the class, every acknowledged command that left the table is in exactly one reply
to its device.
-/

namespace UubangIot.StoredCommands

open Effect Transition

variable {state later : State} {a : CLN} {stage after : Stage} {op : Op} {answer : Answer}
  {x y : Command} {iotid devClass : Int} {t : Nat}

/-- `class_status_cmd_fromid_cmdDate_`. -/
def Command.text (x : Command) : Bytes :=
  ((List.range 5).map fun i => cstr (column x.row (i + 1)) ++ [underscore]).flatten

/-- A task that still runs has deleted a command and not replied. -/
def State.Owed (state : State) (x : Command) : Prop :=
  ∃ task ∈ state.tasks, task.op.isSome = true ∧ task.stage = .owes x

/-- A reply carries its command to the device it is for. -/
def Reply.Right (reply : Reply) : Prop :=
  reply.request.userKeyId = reply.command.iotid ∧
    reply.payLoad = encrypt reply.command.text reply.command.text.length reply.request.pin

/-- Every acknowledged command that is no longer in the table, nor in the hands of a read, was
delivered in one reply. -/
def DeliveredOnce (state : State) : Prop :=
  ∀ x ∈ state.acknowledged, x ∉ state.table → ¬ state.Owed x →
    ∃ reply, state.delivered.filter (fun reply => reply.command = x) = [reply] ∧ reply.Right

/-! ## Reads and stores that stay apart -/

/-- An access of the commands of a device and a class. -/
inductive Access
  | select (iotid devClass : Int)
  | insert (iotid devClass : Int)

/-- The access of an operation. -/
def access : Op → Option Access
  | .realQuery _ (.selectCommands iotid devClass) => some (.select iotid devClass)
  | .realQuery _ (.insertCommand iotid devClass _ _ _ _) => some (.insert iotid devClass)
  | _ => none

/-- No task is between reading and deleting a command of the device and the class. -/
def State.Unheld (state : State) (iotid devClass : Int) : Prop :=
  ∀ task ∈ state.tasks, ∀ x ∈ task.stage.holding, ¬ (x.iotid = iotid ∧ x.devClass = devClass)

/-- A read finds at most one command, and neither a read nor a store comes between another read and its
`DELETE`. -/
def Access.Apart (state : State) : Access → Prop
  | .select iotid devClass => (state.table.filter (Command.answers iotid devClass)).length ≤ 1 ∧
    state.Unheld iotid devClass
  | .insert iotid devClass => state.Unheld iotid devClass

/-- The condition on the steps. -/
def Apart (state : State) : Label → Prop
  | .enter _ => True
  | .turn t _ => ∀ task ∈ state.tasks[t]?, ∀ op ∈ task.op, ∀ found ∈ access op, found.Apart state

instance (state : State) (iotid devClass : Int) : Decidable (state.Unheld iotid devClass) :=
  inferInstanceAs (Decidable (∀ task ∈ state.tasks, ∀ x ∈ task.stage.holding,
    ¬ (x.iotid = iotid ∧ x.devClass = devClass)))

instance (state : State) : (found : Access) → Decidable (found.Apart state)
  | .select iotid devClass => inferInstanceAs (Decidable
    ((state.table.filter (Command.answers iotid devClass)).length ≤ 1 ∧ state.Unheld iotid devClass))
  | .insert iotid devClass => inferInstanceAs (Decidable (state.Unheld iotid devClass))

instance (state : State) : (label : Label) → Decidable (Apart state label)
  | .enter _ => .isTrue trivial
  | .turn t _ => inferInstanceAs (Decidable (∀ task ∈ state.tasks[t]?, ∀ op ∈ task.op,
    ∀ found ∈ access op, found.Apart state))

/-! ## What an operation does -/

/-- The ways an operation can go. -/
theorem perform_cases (performed : state.perform a stage op answer = some (later, after)) :
    (later = state ∧ after = stage) ∨
    (∃ node iotid devClass, op = .realQuery node (.selectCommands iotid devClass) ∧ later = state ∧
      after = .selected (state.table.filter (Command.answers iotid devClass))) ∨
    (∃ node iotid devClass, op = .realQuery node (.deleteCommands iotid devClass) ∧
      later = { state with table := state.table.filter fun x => !x.answers iotid devClass } ∧
      after = stage.deleted) ∨
    (∃ node x, op = .realQuery node
        (.insertCommand x.iotid x.devClass x.status x.cmd x.fromid x.cmdDate) ∧
      x.serial = state.inserted.length ∧
      later = { state with table := state.table ++ [x], inserted := state.inserted ++ [x] } ∧
      after = .stored x) ∨
    (∃ found, stage = .selected found ∧ later = state ∧ after = found.head?.elim .free .holds) ∨
    (∃ x socket packet, op = .send socket (.iot packet) ∧ packet.opCode = text "05" ∧
      stage = .owes x ∧ after = .free ∧
      later = { state with delivered := state.delivered ++ [⟨x, a, packet.payLoad⟩] }) ∨
    (∃ x socket packet, op = .send socket (.iot packet) ∧ packet.opCode = text "09" ∧
      stage = .stored x ∧ after = .free ∧
      later = { state with acknowledged := state.acknowledged ++ [x] }) := by
  unfold State.perform at performed
  split at performed
  · contradiction
  · contradiction
  · rename_i node iotid devClass _
    cases performed
    exact .inr (.inl ⟨node, iotid, devClass, rfl, rfl, rfl⟩)
  · rename_i node iotid devClass _
    cases performed
    exact .inr (.inr (.inl ⟨node, iotid, devClass, rfl, rfl, rfl⟩))
  · rename_i node iotid devClass status cmd fromid cmdDate _
    cases performed
    exact .inr (.inr (.inr (.inl
      ⟨node, ⟨_, iotid, devClass, status, cmd, fromid, cmdDate⟩, rfl, rfl, rfl, rfl⟩)))
  · obtain ⟨fetched, result, same⟩ := Option.map_eq_some_iff.mp performed
    cases same
    cases stage with
    | selected found =>
      obtain ⟨-, head⟩ := Option.ite_none_right_eq_some.mp result
      exact .inr (.inr (.inr (.inr (.inl ⟨found, rfl, rfl, (Option.some.inj head).symm⟩))))
    | free => contradiction
    | holds x => contradiction
    | owes x => contradiction
    | stored x => contradiction
  · rename_i socket packet len
    obtain ⟨-, result⟩ := Option.ite_none_left_eq_some.mp performed
    cases stage with
    | owes x =>
      rw [State.sent] at result
      split at result
      · rename_i code
        cases result
        exact .inr (.inr (.inr (.inr (.inr (.inl ⟨x, socket, packet, rfl, code, rfl, rfl, rfl⟩)))))
      · cases result
        exact .inl ⟨rfl, rfl⟩
    | stored x =>
      rw [State.sent] at result
      split at result
      · rename_i code
        cases result
        exact .inr (.inr (.inr (.inr (.inr (.inr ⟨x, socket, packet, rfl, code, rfl, rfl, rfl⟩)))))
      · cases result
        exact .inl ⟨rfl, rfl⟩
    | free =>
      cases result
      exact .inl ⟨rfl, rfl⟩
    | selected rows =>
      cases result
      exact .inl ⟨rfl, rfl⟩
    | holds x =>
      cases result
      exact .inl ⟨rfl, rfl⟩
  · cases performed
    exact .inl ⟨rfl, rfl⟩

/-! ## The handlers -/

/-- What an operation of a request needs of its stage. -/
def Stage.Allows (stage : Stage) (a : CLN) : Op → Prop
  | .realQuery _ (.selectCommands iotid _) => stage = .free ∧ iotid = a.userKeyId
  | .realQuery _ (.deleteCommands iotid devClass) =>
    ∃ x, stage = .holds x ∧ x.answers iotid devClass = true
  | .realQuery _ (.insertCommand _ _ _ _ _ _) => stage = .free
  | .send _ (.iot packet) => ∀ x, stage = .owes x →
    packet.payLoad = encrypt x.text x.text.length a.pin
  | _ => True

/-- A program goes through the stages in their order, and owes nothing when it ends. -/
def Follows (a : CLN) : Stage → Handler Unit → Prop
  | stage, .ret _ => ∀ x, stage ≠ .owes x
  | stage, .call op next => stage.Allows a op ∧
    ∀ (state later : State) answer response after, op.read answer = some response →
      state.perform a stage op answer = some (later, after) → Follows a after (next response)

variable {α : Type}

/-- An operation that leaves the commands alone. -/
theorem Follows.plain {next : op.Res → Handler Unit} (allows : stage.Allows a op)
    (keeps : ∀ (state later : State) answer after,
      state.perform a stage op answer = some (later, after) → after = stage)
    (rest : ∀ response, Follows a stage (next response)) : Follows a stage (.call op next) := by
  refine ⟨allows, fun state later answer response after _ performed => ?_⟩
  rw [keeps state later answer after performed]
  exact rest response

/-- A node that is given back changes no stage. -/
theorem Follows.releaseNode {node : Nat} {next : Unit → Handler Unit}
    (rest : Follows a stage (next ())) : Follows a stage (.call (.releaseNode node) next) := by
  refine .plain trivial (fun state later answer after performed => ?_) fun _ => rest
  cases performed
  rfl

/-- A number that is taken changes no stage. -/
theorem Follows.nextSeqNum {conn : Nat} {next : UInt8 → Handler Unit}
    (rest : ∀ seqNum, Follows a stage (next seqNum)) :
    Follows a stage (.call (.nextSeqNum conn) next) := by
  refine .plain trivial (fun state later answer after performed => ?_) rest
  cases performed
  rfl

/-- A search changes no stage. -/
theorem Follows.findRegister {kind : Kind} {lookup : Lookup} {next : Option User → Handler Unit}
    (rest : ∀ found, Follows a stage (next found)) :
    Follows a stage (.call (.findRegister kind lookup) next) := by
  refine .plain trivial (fun state later answer after performed => ?_) rest
  cases performed
  rfl

/-- A NULL dereference does not go on. -/
theorem Follows.fault {next : Empty → Handler Unit} : Follows a stage (.call .fault next) :=
  ⟨trivial, fun _ _ _ response => response.elim⟩

/-- The pool always has a node; it changes no stage. -/
theorem Follows.getDbConnect {next : Option Nat → Handler Unit}
    (rest : ∀ node, Follows a stage (next (some node))) :
    Follows a stage (.call .getDbConnect next) := by
  refine ⟨trivial, fun state later answer response after read performed => ?_⟩
  cases answer with
  | node found =>
    obtain rfl := Option.some.inj read
    cases found with
    | none => contradiction
    | some node =>
      cases performed
      exact rest node
  | _ => contradiction

/-- A `SELECT` returns commands of the device and the class. -/
theorem Follows.select {node : Nat} {next : QueryResult → Handler Unit}
    (rest : ∀ rows : List Command, (∀ x ∈ rows, x.answers a.userKeyId devClass = true) →
      Follows a (.selected rows) (next .done)) :
    Follows a .free (.call (.realQuery node (.selectCommands a.userKeyId devClass)) next) := by
  refine ⟨⟨rfl, rfl⟩, fun state later answer response after read performed => ?_⟩
  cases answer with
  | query result =>
    obtain rfl := Option.some.inj read
    cases result with
    | failed duplicate => contradiction
    | done =>
      cases performed
      exact rest _ fun x member => (List.mem_filter.mp member).2
  | _ => contradiction

/-- `mysql_store_result` after a query holds the first command that was selected. -/
theorem Follows.storeResult {node : Nat} {rows : List Command}
    {next : Option (List Row) → Handler Unit}
    (rest : Follows a (rows.head?.elim .free .holds) (next (some (rows.map Command.row)))) :
    Follows a (.selected rows) (.call (.storeResult node) next) := by
  refine ⟨trivial, fun state later answer response after read performed => ?_⟩
  cases answer with
  | rows found =>
    obtain rfl := Option.some.inj read
    obtain ⟨fetched, result, same⟩ := Option.map_eq_some_iff.mp performed
    obtain ⟨equal, head⟩ := Option.ite_none_right_eq_some.mp result
    cases same
    obtain rfl := Option.some.inj head
    rw [equal]
    exact rest
  | _ => contradiction

/-- A `DELETE` of the class that was read. -/
theorem Follows.delete {node : Nat} {next : QueryResult → Handler Unit}
    (same : x.answers iotid devClass = true) (rest : Follows a (.owes x) (next .done)) :
    Follows a (.holds x) (.call (.realQuery node (.deleteCommands iotid devClass)) next) := by
  refine ⟨⟨x, rfl, same⟩, fun state later answer response after read performed => ?_⟩
  cases answer with
  | query result =>
    obtain rfl := Option.some.inj read
    cases result with
    | failed duplicate => contradiction
    | done =>
      cases performed
      exact rest
  | _ => contradiction

/-- An `INSERT` that is done has stored its command. -/
theorem Follows.insert {node : Nat} {status : Int} {cmd : Bytes} {fromid : Int} {cmdDate : Bytes}
    {next : QueryResult → Handler Unit} (rest : ∀ x, Follows a (.stored x) (next .done)) :
    Follows a .free (.call (.realQuery node
      (.insertCommand iotid devClass status cmd fromid cmdDate)) next) := by
  refine ⟨rfl, fun state later answer response after read performed => ?_⟩
  cases answer with
  | query result =>
    obtain rfl := Option.some.inj read
    cases result with
    | failed duplicate => contradiction
    | done =>
      cases performed
      exact rest _
  | _ => contradiction

/-- A reply that goes out. -/
theorem Follows.send {socket : Nat} {packet : IotPacket} {next : Int → Handler Unit}
    (right : ∀ x, stage = .owes x → packet.payLoad = encrypt x.text x.text.length a.pin)
    (rest : ∀ (state : State) len, sendFailed len = false →
      Follows a (state.sent a packet stage).2 (next len)) :
    Follows a stage (.call (.send socket (.iot packet)) next) := by
  refine ⟨right, fun state later answer response after read performed => ?_⟩
  cases answer with
  | int len =>
    obtain rfl := Option.some.inj read
    obtain ⟨went, sent⟩ := Option.ite_none_left_eq_some.mp performed
    obtain ⟨-, rfl⟩ := Prod.mk.inj (Option.some.inj sent)
    exact rest state len (Bool.eq_false_of_not_eq_true went)
  | _ => contradiction

/-- `SEND_OP_BACK` at the end of a handler. -/
theorem follows_sendOpBack (b : CLN) {code : String} {payLoad : Bytes}
    (right : ∀ x, stage = .owes x → code = "05" ∧ payLoad = encrypt x.text x.text.length a.pin) :
    Follows a stage (sendOpBack b code payLoad) := by
  refine .nextSeqNum fun seqNum => .send (fun x owes => (right x owes).2) fun state len went => ?_
  show Follows a _ (Prog.bind (if sendFailed len = true then _ else _) _)
  rw [if_neg (Bool.eq_false_iff.mp went)]
  intro x
  cases stage with
  | owes y =>
    rw [State.sent, (right y rfl).1, if_pos rfl]
    exact Stage.noConfusion
  | stored y =>
    rw [State.sent]
    split
    · exact Stage.noConfusion
    · exact Stage.noConfusion
  | free => exact Stage.noConfusion
  | selected rows => exact Stage.noConfusion
  | holds y => exact Stage.noConfusion

/-- The text of a command ends where it ends. -/
theorem Command.text_plain (x : Command) : 0 ∉ x.text := by
  intro member
  obtain ⟨field, found, here⟩ := List.mem_flatten.mp member
  obtain ⟨i, -, rfl⟩ := List.mem_map.mp found
  rcases List.mem_append.mp here with inside | last
  · exact zero_not_mem_cstr _ inside
  · exact absurd (List.mem_singleton.mp last) (by decide)

/-- A reply encrypts the text that was copied into the request. -/
theorem encrypt_copied (target pin : Bytes) (x : Command) :
    encrypt (strcpy target x.text) (strlen (strcpy target x.text)) pin =
      encrypt x.text x.text.length pin := by
  have copied : cstr x.text = x.text := cstr_of_plain x.text_plain
  have size : strlen (strcpy target x.text) = x.text.length := by
    rw [strlen, cstr_strcpy, copied]
  rw [size, encrypt, encrypt, strcpy, copied, List.take_left, List.take_length]

/-- Opcode 5 goes through the stages of a delivery in their order. -/
theorem follows_iotRead (a : CLN) : Follows a .free (iotRead a) := by
  rw [iotRead]
  split
  · exact fun x => Stage.noConfusion
  · rename_i devclass others split
    refine .getDbConnect fun node => .select fun rows same => .storeResult ?_
    cases rows with
    | nil =>
      refine .releaseNode ?_
      exact follows_sendOpBack _ fun x => Stage.noConfusion
    | cons x rows =>
      refine .releaseNode (.getDbConnect fun node => .delete (same x List.mem_cons_self)
        (.releaseNode (follows_sendOpBack _ fun y owes => ⟨rfl, ?_⟩)))
      cases owes
      exact encrypt_copied _ _ x

/-- Opcode 9 goes through the stages of a storage in their order. -/
theorem follows_iotStore (a : CLN) : Follows a .free (iotStore a) := by
  rw [iotStore]
  split
  · refine .findRegister fun registered => ?_
    cases registered with
    | none => exact follows_sendOpBack _ fun x => Stage.noConfusion
    | some node =>
      refine .findRegister fun target => ?_
      cases target with
      | none => exact .fault
      | some target =>
        refine .getDbConnect fun node => .insert fun x => .releaseNode ?_
        exact follows_sendOpBack _ fun y => Stage.noConfusion
  · exact fun x => Stage.noConfusion

/-- A request that is not signed in does nothing. -/
theorem Follows.whenSignedIn {handler : Handler Unit} (signedIn : Follows a .free handler) :
    Follows a .free (a.whenSignedIn handler) := by
  rw [CLN.whenSignedIn]
  split
  · exact signedIn
  · exact fun x => Stage.noConfusion

/-- The requests of both opcodes. -/
theorem follows_iotTalk (opcode : atoi a.checkcode = 5 ∨ atoi a.checkcode = 9) :
    Follows a .free (iotTalk a) := by
  rcases opcode with read | store
  · rw [iotTalk, read]
    exact (follows_iotRead a).whenSignedIn
  · rw [iotTalk, store]
    exact (follows_iotStore a).whenSignedIn

/-! ## The invariant -/

/-- The commands in the hands of reads that have deleted them. -/
def State.owing (state : State) (x : Command) : Nat :=
  state.tasks.countP fun task => task.stage = .owes x

/-- The replies with a command. -/
def State.replies (state : State) (x : Command) : Nat :=
  state.delivered.countP fun reply => reply.command = x

/-- Every command that was inserted is in the table, in the hands of one read or in one reply. -/
structure Sound (state : State) : Prop where
  follows : ∀ task ∈ state.tasks, Follows task.request task.stage task.program
  counted : ∀ x, state.inserted.count x = state.table.count x + state.owing x + state.replies x
  once : state.inserted.Nodup
  numbered : ∀ x ∈ state.inserted, x.serial < state.inserted.length
  /-- A command between reading and deleting is for the reader and alone in its class. -/
  alone : ∀ task ∈ state.tasks, ∀ x, task.stage.holding = some x →
    x.iotid = task.request.userKeyId ∧ state.table.filter (Command.answers x.iotid x.devClass) = [x]
  /-- Two reads hold commands of different classes. -/
  apart : ∀ (t u : Nat) (task other : Task) x y, state.tasks[t]? = some task →
    state.tasks[u]? = some other → t ≠ u → task.stage.holding = some x →
    other.stage.holding = some y → ¬ (x.iotid = y.iotid ∧ x.devClass = y.devClass)
  owner : ∀ task ∈ state.tasks, ∀ x, task.stage = .owes x → task.request.userKeyId = x.iotid
  stored : ∀ task ∈ state.tasks, ∀ x, task.stage = .stored x → x ∈ state.inserted
  acknowledged : ∀ x ∈ state.acknowledged, x ∈ state.inserted
  right : ∀ reply ∈ state.delivered, reply.Right

/-- An acknowledged command that has left was delivered once. -/
theorem Sound.deliveredOnce (sound : Sound state) : DeliveredOnce state := by
  intro x acknowledged left unowed
  have inserted : state.inserted.count x = 1 :=
    List.count_eq_one_of_mem sound.once (sound.acknowledged x acknowledged)
  have gone : state.table.count x = 0 := List.count_eq_zero.mpr left
  have none : state.owing x = 0 := by
    refine List.countP_eq_zero.mpr fun task member owes => unowed ?_
    have owing : task.stage = .owes x := of_decide_eq_true owes
    refine ⟨task, member, ?_, owing⟩
    -- a task that has ended owes nothing
    have follows := sound.follows task member
    rw [Task.op]
    cases program : task.program with
    | ret value =>
      rw [program] at follows
      exact absurd owing (follows x)
    | call op next => rfl
  have one : (state.delivered.filter fun reply => reply.command = x).length = 1 := by
    rw [← List.countP_eq_length_filter]
    have counted := sound.counted x
    rw [inserted, gone, none] at counted
    exact (counted.trans (Nat.zero_add _)).symm
  obtain ⟨reply, single⟩ := List.length_eq_one_iff.mp one
  have member : reply ∈ state.delivered.filter fun reply => reply.command = x := by
    rw [single]
    exact List.mem_singleton_self reply
  exact ⟨reply, single, sound.right reply (List.mem_filter.mp member).1⟩

/-- What a step of a task may do to the commands, the others keeping theirs. -/
structure Moves (state later : State) (t : Nat) (a : CLN) (before after : Stage) : Prop where
  tasks : later.tasks = state.tasks
  counted : ∀ x, later.inserted.count x + state.table.count x + state.replies x +
      (if before = .owes x then 1 else 0) =
    state.inserted.count x + later.table.count x + later.replies x +
      (if after = .owes x then 1 else 0)
  once : later.inserted.Nodup
  numbered : ∀ x ∈ later.inserted, x.serial < later.inserted.length
  alone : ∀ x, after.holding = some x →
    x.iotid = a.userKeyId ∧ later.table.filter (Command.answers x.iotid x.devClass) = [x]
  kept : ∀ (u : Nat) (other : Task) x, u ≠ t → state.tasks[u]? = some other →
    other.stage.holding = some x →
    later.table.filter (Command.answers x.iotid x.devClass) =
        state.table.filter (Command.answers x.iotid x.devClass) ∧
      ∀ y, after.holding = some y → ¬ (x.iotid = y.iotid ∧ x.devClass = y.devClass)
  owner : ∀ x, after = .owes x → a.userKeyId = x.iotid
  stored : ∀ x, after = .stored x → x ∈ later.inserted
  grown : ∀ x ∈ state.inserted, x ∈ later.inserted
  acknowledged : ∀ x ∈ later.acknowledged, x ∈ later.inserted
  right : ∀ reply ∈ later.delivered, reply.Right

/-- A task that is replaced, and the others. -/
theorem mem_set_cases {tasks : List Task} {replaced task : Task} (member : task ∈ tasks.set t replaced) :
    task = replaced ∨ ∃ u, u ≠ t ∧ tasks[u]? = some task := by
  obtain ⟨u, found⟩ := List.mem_iff_getElem?.mp member
  by_cases same : u = t
  · left
    have inside : t < tasks.length := by
      have bound := (List.getElem?_eq_some_iff.mp found).1
      rw [List.length_set, same] at bound
      exact bound
    rw [same, List.getElem?_set_self inside] at found
    exact (Option.some.inj found).symm
  · right
    rw [List.getElem?_set_ne (Ne.symm same)] at found
    exact ⟨u, same, found⟩

/-- A step of a task keeps the invariant. -/
theorem Sound.moves {task : Task} {program : Handler Unit} (sound : Sound state)
    (here : state.tasks[t]? = some task) (moves : Moves state later t task.request task.stage after)
    (follows : Follows task.request after program) :
    Sound { later with tasks := state.tasks.set t ⟨task.request, program, after⟩ } := by
  obtain ⟨inside, found⟩ := List.getElem?_eq_some_iff.mp here
  have lookup {u : Nat} {other : Task}
      (there : (state.tasks.set t ⟨task.request, program, after⟩)[u]? = some other) :
      (u = t ∧ other = ⟨task.request, program, after⟩) ∨ (u ≠ t ∧ state.tasks[u]? = some other) := by
    by_cases same : u = t
    · rw [same, List.getElem?_set_self inside] at there
      exact .inl ⟨same, (Option.some.inj there).symm⟩
    · rw [List.getElem?_set_ne (Ne.symm same)] at there
      exact .inr ⟨same, there⟩
  constructor
  · intro other member
    rcases mem_set_cases member with rfl | ⟨u, -, there⟩
    · exact follows
    · exact sound.follows other (List.mem_of_getElem? there)
  · intro x
    have before := sound.counted x
    have step := moves.counted x
    have tasks := List.countP_set inside (a := ⟨task.request, program, after⟩)
      (p := fun task => decide (task.stage = .owes x))
    have least : (if task.stage = .owes x then 1 else 0) ≤ state.owing x := by
      split
      · rename_i owes
        exact List.countP_pos_iff.mpr ⟨task, List.mem_of_getElem? here, decide_eq_true owes⟩
      · exact Nat.zero_le _
    rw [found] at tasks
    simp only [decide_eq_true_eq] at tasks
    show later.inserted.count x = later.table.count x +
      (state.tasks.set t ⟨task.request, program, after⟩).countP _ + later.replies x
    rw [tasks]
    show _ = _ + (state.owing x - _ + _) + _
    omega
  · exact moves.once
  · exact moves.numbered
  · intro other member x holding
    rcases mem_set_cases member with rfl | ⟨u, apart, there⟩
    · exact moves.alone x holding
    · have kept := (moves.kept u other x apart there holding).1
      have alone := sound.alone other (List.mem_of_getElem? there) x holding
      exact ⟨alone.1, kept.trans alone.2⟩
  · intro first second one other x y there also different holding holding'
    rcases lookup there with ⟨same, rfl⟩ | ⟨away, there⟩
    · rcases lookup also with ⟨same', -⟩ | ⟨away', also⟩
      · exact absurd (same.trans same'.symm) different
      · have apart := (moves.kept second other y away' also holding').2 x holding
        exact fun equal => apart ⟨equal.1.symm, equal.2.symm⟩
    · rcases lookup also with ⟨same', rfl⟩ | ⟨away', also⟩
      · exact (moves.kept first one x away there holding).2 y holding'
      · exact sound.apart first second one other x y there also different holding holding'
  · intro other member x owes
    rcases mem_set_cases member with rfl | ⟨u, -, there⟩
    · exact moves.owner x owes
    · exact sound.owner other (List.mem_of_getElem? there) x owes
  · intro other member x stored
    rcases mem_set_cases member with rfl | ⟨u, -, there⟩
    · exact moves.stored x stored
    · exact moves.grown x (sound.stored other (List.mem_of_getElem? there) x stored)
  · exact moves.acknowledged
  · exact moves.right

/-! ## The steps -/

section Steps

variable {task : Task} (sound : Sound state) (here : state.tasks[t]? = some task)

include sound here

/-- A step that touches no command. -/
theorem Sound.stays (holding : after.holding = task.stage.holding)
    (owes : ∀ x, after = .owes x ↔ task.stage = .owes x)
    (stored : ∀ x, after = .stored x → task.stage = .stored x) :
    Moves state state t task.request task.stage after := by
  have member := List.mem_of_getElem? here
  constructor
  · rfl
  · intro x
    simp only [owes x]
  · exact sound.once
  · exact sound.numbered
  · intro x held
    exact sound.alone task member x (holding ▸ held)
  · intro u other x away there held
    refine ⟨rfl, fun y also => ?_⟩
    exact sound.apart u t other task x y there here away held (holding ▸ also)
  · intro x owing
    exact sound.owner task member x ((owes x).mp owing)
  · intro x kept
    exact sound.stored task member x (stored x kept)
  · exact fun x inserted => inserted
  · exact sound.acknowledged
  · exact sound.right

omit here in
/-- A `SELECT` of a class in which at most one command waits and nobody reads. -/
theorem Sound.selects (free : task.stage = .free) (reader : iotid = task.request.userKeyId)
    (few : (state.table.filter (Command.answers iotid devClass)).length ≤ 1)
    (unheld : state.Unheld iotid devClass) :
    Moves state state t task.request task.stage
      (.selected (state.table.filter (Command.answers iotid devClass))) := by
  have head (x : Command) (first : (state.table.filter (Command.answers iotid devClass)).head? = some x) :
      (x.iotid = iotid ∧ x.devClass = devClass) ∧
        state.table.filter (Command.answers iotid devClass) = [x] := by
    have member := List.mem_of_head? first
    refine ⟨of_decide_eq_true (List.mem_filter.mp member).2, ?_⟩
    obtain ⟨rest, whole⟩ := List.head?_eq_some_iff.mp first
    rw [whole, List.length_cons] at few
    have empty : rest = [] := List.length_eq_zero_iff.mp (by omega)
    rw [whole, empty]
  rw [free]
  constructor
  · rfl
  · intro x
    simp only [reduceCtorEq, if_false]
  · exact sound.once
  · exact sound.numbered
  · intro x held
    obtain ⟨⟨rfl, rfl⟩, single⟩ := head x held
    exact ⟨reader, single⟩
  · intro u other x away there held
    refine ⟨rfl, fun y also => ?_⟩
    obtain ⟨⟨rfl, rfl⟩, -⟩ := head y also
    exact unheld other (List.mem_of_getElem? there) x held
  · exact fun x => Stage.noConfusion
  · exact fun x => Stage.noConfusion
  · exact fun x inserted => inserted
  · exact sound.acknowledged
  · exact sound.right

/-- A `DELETE` of the class of the command that was read. -/
theorem Sound.deletes (holds : task.stage = .holds x) (same : x.answers iotid devClass = true) :
    Moves state { state with table := state.table.filter fun x => !x.answers iotid devClass } t
      task.request task.stage (.owes x) := by
  have member := List.mem_of_getElem? here
  have holding : task.stage.holding = some x := by
    rw [holds]
    rfl
  obtain ⟨owner, alone⟩ := sound.alone task member x holding
  obtain ⟨rfl, rfl⟩ : x.iotid = iotid ∧ x.devClass = devClass := of_decide_eq_true same
  have removed (y : Command) : state.table.count y =
      (state.table.filter fun x_1 => !x_1.answers x.iotid x.devClass).count y +
        if x = y then 1 else 0 := by
    by_cases answers : y.answers x.iotid x.devClass = true
    · have before : state.table.count y = [x].count y := by
        rw [← alone]
        exact (List.count_filter answers).symm
      have gone : (state.table.filter fun x_1 => !x_1.answers x.iotid x.devClass).count y = 0 := by
        rw [List.count_eq_zero]
        intro kept
        have other := (List.mem_filter.mp kept).2
        rw [answers] at other
        contradiction
      rw [before, gone, List.count_singleton, Nat.zero_add]
      simp only [beq_iff_eq]
    · have kept : (!y.answers x.iotid x.devClass) = true := by
        rw [Bool.eq_false_of_not_eq_true answers]
        rfl
      have different : x ≠ y := fun equal => answers (equal ▸ same)
      have count := List.count_filter (p := fun z => !z.answers x.iotid x.devClass) (l := state.table) kept
      rw [count, if_neg different, Nat.add_zero]
  rw [holds]
  constructor
  · rfl
  · intro y
    have count := removed y
    simp only [reduceCtorEq, if_false, Stage.owes.injEq]
    show state.inserted.count y + state.table.count y + state.replies y + 0 =
      state.inserted.count y + _ + state.replies y + _
    omega
  · exact sound.once
  · exact sound.numbered
  · exact fun y held => absurd held.symm (Option.some_ne_none y)
  · intro u other y away there held
    have apart := sound.apart u t other task y x there here away held holding
    refine ⟨?_, fun z also => absurd also.symm (Option.some_ne_none z)⟩
    show (state.table.filter _).filter _ = _
    rw [List.filter_filter]
    refine List.filter_congr fun z _ => ?_
    cases found : z.answers y.iotid y.devClass with
    | false => rfl
    | true =>
      have equal : z.iotid = y.iotid ∧ z.devClass = y.devClass := of_decide_eq_true found
      have other : z.answers x.iotid x.devClass = false :=
        decide_eq_false fun both => apart ⟨equal.1.symm.trans both.1, equal.2.symm.trans both.2⟩
      rw [other]
      rfl
  · intro y owes
    obtain rfl := Stage.owes.inj owes
    exact owner.symm
  · exact fun y => Stage.noConfusion
  · exact fun y inserted => inserted
  · exact sound.acknowledged
  · exact sound.right

omit here in
/-- An `INSERT` in a class in which nobody reads. -/
theorem Sound.inserts (free : task.stage = .free) (serial : x.serial = state.inserted.length)
    (unheld : state.Unheld x.iotid x.devClass) :
    Moves state { state with table := state.table ++ [x], inserted := state.inserted ++ [x] } t
      task.request task.stage (.stored x) := by
  have new : x ∉ state.inserted := fun inserted => by
    have number := sound.numbered x inserted
    omega
  rw [free]
  constructor
  · rfl
  · intro y
    simp only [reduceCtorEq, if_false, List.count_append]
    show _ + _ + state.table.count y + state.replies y + 0 = _ + (_ + _) + state.replies y + 0
    omega
  · refine List.nodup_append.mpr ⟨sound.once, List.nodup_singleton x, fun y old z last equal => ?_⟩
    rw [equal, List.mem_singleton.mp last] at old
    exact new old
  · intro y member
    show y.serial < (state.inserted ++ [x]).length
    rw [List.length_append, List.length_singleton]
    rcases List.mem_append.mp member with old | last
    · exact Nat.lt_succ_of_lt (sound.numbered y old)
    · rw [List.mem_singleton.mp last, serial]
      exact Nat.lt_succ_self _
  · exact fun y held => absurd held.symm (Option.some_ne_none y)
  · intro u other y away there held
    refine ⟨?_, fun z also => absurd also.symm (Option.some_ne_none z)⟩
    have apart := unheld other (List.mem_of_getElem? there) y held
    have fails : x.answers y.iotid y.devClass = false :=
      decide_eq_false fun both => apart ⟨both.1.symm, both.2.symm⟩
    show (state.table ++ [x]).filter _ = _
    rw [List.filter_append, List.filter_cons_of_neg (Bool.eq_false_iff.mp fails), List.filter_nil,
      List.append_nil]
  · exact fun y => Stage.noConfusion
  · intro y stored
    obtain rfl := Stage.stored.inj stored
    exact List.mem_append_right _ (List.mem_singleton_self x)
  · exact fun y inserted => List.mem_append_left _ inserted
  · exact fun y acknowledged => List.mem_append_left _ (sound.acknowledged y acknowledged)
  · exact sound.right

/-- A reply `05` carries the command that its task owes. -/
theorem Sound.delivers {payLoad : Bytes} (owes : task.stage = .owes x)
    (payload : payLoad = encrypt x.text x.text.length task.request.pin) :
    Moves state { state with delivered := state.delivered ++ [⟨x, task.request, payLoad⟩] } t
      task.request task.stage .free := by
  have owner := sound.owner task (List.mem_of_getElem? here) x owes
  rw [owes]
  constructor
  · rfl
  · intro y
    have replies : State.replies { state with
        delivered := state.delivered ++ [⟨x, task.request, payLoad⟩] } y =
          state.replies y + if x = y then 1 else 0 := by
      rw [State.replies, State.replies, List.countP_append, List.countP_singleton]
      simp only [decide_eq_true_eq]
    simp only [reduceCtorEq, if_false, Stage.owes.injEq]
    rw [replies]
    omega
  · exact sound.once
  · exact sound.numbered
  · exact fun y held => absurd held.symm (Option.some_ne_none y)
  · exact fun u other y away there held => ⟨rfl, fun z also => absurd also.symm (Option.some_ne_none z)⟩
  · exact fun y => Stage.noConfusion
  · exact fun y => Stage.noConfusion
  · exact fun y inserted => inserted
  · exact sound.acknowledged
  · intro reply member
    rcases List.mem_append.mp member with old | last
    · exact sound.right reply old
    · rw [List.mem_singleton.mp last]
      exact ⟨owner, payload⟩

/-- A reply `09` acknowledges the command that its task has stored. -/
theorem Sound.acknowledges (stored : task.stage = .stored x) :
    Moves state { state with acknowledged := state.acknowledged ++ [x] } t task.request task.stage
      .free := by
  have inserted := sound.stored task (List.mem_of_getElem? here) x stored
  rw [stored]
  constructor
  · rfl
  · intro y
    simp only [reduceCtorEq, if_false]
    rfl
  · exact sound.once
  · exact sound.numbered
  · exact fun y held => absurd held.symm (Option.some_ne_none y)
  · exact fun u other y away there held => ⟨rfl, fun z also => absurd also.symm (Option.some_ne_none z)⟩
  · exact fun y => Stage.noConfusion
  · exact fun y => Stage.noConfusion
  · exact fun y member => member
  · intro y member
    rcases List.mem_append.mp member with old | last
    · exact sound.acknowledged y old
    · rw [List.mem_singleton.mp last]
      exact inserted
  · exact sound.right

/-- An operation of a task. -/
theorem Sound.performs (allows : task.stage.Allows task.request op)
    (separate : ∀ found ∈ access op, found.Apart state)
    (performed : state.perform task.request task.stage op answer = some (later, after)) :
    Moves state later t task.request task.stage after := by
  rcases perform_cases performed with ⟨rfl, rfl⟩ | ⟨node, iotid, devClass, rfl, rfl, rfl⟩ |
    ⟨node, iotid, devClass, rfl, rfl, rfl⟩ | ⟨node, x, rfl, serial, rfl, rfl⟩ |
    ⟨found, selected, rfl, rfl⟩ | ⟨x, socket, packet, rfl, -, owes, rfl, rfl⟩ |
    ⟨x, socket, packet, rfl, -, stored, rfl, rfl⟩
  · exact sound.stays here rfl (fun x => Iff.rfl) fun x stored => stored
  · obtain ⟨few, unheld⟩ := separate _ rfl
    exact sound.selects allows.1 allows.2 few unheld
  · obtain ⟨x, holds, same⟩ := allows
    have owes : task.stage.deleted = .owes x := by
      rw [holds]
      rfl
    rw [owes]
    exact sound.deletes here holds same
  · exact sound.inserts allows serial (separate _ rfl)
  · have unowed (x : Command) : ¬ task.stage = .owes x := by
      rw [selected]
      exact Stage.noConfusion
    cases found with
    | nil =>
      refine sound.stays here ?_ (fun x => ⟨fun owes => ?_, fun owes => absurd owes (unowed x)⟩) ?_
      · rw [selected]
        rfl
      · contradiction
      · exact fun x => Stage.noConfusion
    | cons first rest =>
      refine sound.stays here ?_ (fun x => ⟨fun owes => ?_, fun owes => absurd owes (unowed x)⟩) ?_
      · rw [selected]
        rfl
      · contradiction
      · exact fun x => Stage.noConfusion
  · exact sound.delivers here owes (allows x owes)
  · exact sound.acknowledges here stored

end Steps

/-! ## Runs -/

/-- A step that keeps reads and stores apart. -/
theorem Sound.step {next : State} {label : Label} (separate : Apart state label) (sound : Sound state)
    (stepped : system.step state label = some next) : Sound next := by
  cases label with
  | enter request =>
    obtain ⟨opcode, entered⟩ := Option.ite_none_right_eq_some.mp stepped
    obtain rfl := Option.some.inj entered
    have cases {task : Task} (member : task ∈ state.tasks ++ [⟨request, iotTalk request, .free⟩]) :
        task ∈ state.tasks ∨ task = ⟨request, iotTalk request, .free⟩ :=
      (List.mem_append.mp member).imp_right List.mem_singleton.mp
    have old {u : Nat} {task : Task} {x : Command}
        (there : (state.tasks ++ [⟨request, iotTalk request, .free⟩])[u]? = some task)
        (holding : task.stage.holding = some x) : state.tasks[u]? = some task := by
      by_cases inside : u < state.tasks.length
      · rwa [List.getElem?_append_left inside] at there
      · rw [List.getElem?_append_right (Nat.not_lt.mp inside)] at there
        rw [List.mem_singleton.mp (List.mem_of_getElem? there)] at holding
        contradiction
    constructor
    · intro task member
      rcases cases member with known | rfl
      · exact sound.follows task known
      · exact follows_iotTalk opcode
    · intro x
      have same : State.owing { state with
          tasks := state.tasks ++ [⟨request, iotTalk request, .free⟩] } x = state.owing x := by
        rw [State.owing, List.countP_append, List.countP_singleton]
        rfl
      rw [same]
      exact sound.counted x
    · exact sound.once
    · exact sound.numbered
    · intro task member x holding
      rcases cases member with known | rfl
      · exact sound.alone task known x holding
      · contradiction
    · intro first second task other x y there also different holding holding'
      exact sound.apart first second task other x y (old there holding) (old also holding')
        different holding holding'
    · intro task member x owes
      rcases cases member with known | rfl
      · exact sound.owner task known x owes
      · contradiction
    · intro task member x stored
      rcases cases member with known | rfl
      · exact sound.stored task known x stored
      · contradiction
    · exact sound.acknowledged
    · exact sound.right
  | turn t answer =>
    obtain ⟨task, here, moved⟩ := Option.bind_eq_some_iff.mp stepped
    have follows := sound.follows task (List.mem_of_getElem? here)
    cases program : task.program with
    | ret value =>
      rw [program] at moved
      contradiction
    | call op next =>
      rw [program] at moved follows
      obtain ⟨response, read, result⟩ := Option.bind_eq_some_iff.mp moved
      obtain ⟨⟨later, after⟩, performed, rfl⟩ := Option.map_eq_some_iff.mp result
      have current : task.op = some op := by
        rw [Task.op, program]
      have moves := sound.performs here follows.1 (separate task here op current) performed
      exact sound.moves here moves (follows.2 state later answer response after read performed)

/-- An empty table owes nothing. -/
theorem initial_sound : Sound initial := by
  constructor
  · intro task member
    contradiction
  · intro x
    rfl
  · exact List.nodup_nil
  · intro x member
    contradiction
  · intro task member
    contradiction
  · intro first second task other x y there
    contradiction
  · intro task member
    contradiction
  · intro task member
    contradiction
  · intro x member
    contradiction
  · intro reply member
    contradiction

/-- In every run in which a read finds at most one command of its class, and neither a read nor a store
of the class comes between another read and its `DELETE`, every acknowledged command that has
left the table was delivered in exactly one reply to its device, in every state. -/
theorem commands_delivered_once (labels : List Label) (separate : system.Meets Apart initial labels) :
    system.Always DeliveredOnce initial labels :=
  System.always_of_meets (fun _ sound => sound.deliveredOnce)
    (fun _ _ _ separate sound stepped => sound.step separate stepped) initial_sound separate

/-- The PIN of the requests below. -/
def somePin : Bytes := text "123456" ++ [0]

/-- A request of a device that is signed in. -/
def request (opcode data : String) (userKeyId : Int) : CLN :=
  { CLN.zero with
    checkcode := strcpy (zeros 18) (text opcode)
    data := encrypt (text data) data.length somePin ++ zeros 100
    userKeyId := userKeyId
    info0 := yes
    pin := somePin }

/-- The device that commands are stored for. -/
def target : User := ⟨0, text "0000000007", 7, [], [], 0, true⟩

/-- A request for it of the task with a number is handled to its end. -/
def stores (t : Nat) (data : String) : List Label :=
  .enter (request "09" data 5) :: [Answer.found (some target), .found (some target), .node (some 0),
    .query .done, .unit, .byte 1, .int 210].map (.turn t)

/-- A read by the device of the row that it finds. -/
def reads (t : Nat) (x : Command) : List Label :=
  .enter (request "05" "1_" 7) :: [Answer.node (some 0), .query .done, .rows (some [x.row]), .unit,
    .node (some 0), .query .done, .unit, .byte 1, .int 210].map (.turn t)

/-- `on` of class 1 for the device 7, from the device 5. -/
def switchOn : Command := ⟨0, 7, 1, 0, text "on", 5, text "00:00:00"⟩

/-- A command is stored, then read: the read finds it alone. -/
theorem commands_delivered_once_read :
    system.Meets Apart initial (stores 0 "7_1_on_" ++ reads 1 switchOn) ∧
    ((system.run initial (stores 0 "7_1_on_" ++ reads 1 switchOn)).map fun state =>
      (state.table, state.acknowledged, state.delivered.map Reply.command)) =
        some ([], [switchOn], [switchOn]) ∧
    system.Always DeliveredOnce initial (stores 0 "7_1_on_" ++ reads 1 switchOn) :=
  ⟨by decide +kernel, by decide +kernel, commands_delivered_once _ (by decide +kernel)⟩

/-- `off` after it. -/
def switchOff : Command := ⟨1, 7, 1, 0, text "off", 5, text "00:00:00"⟩

/-- Both are stored and acknowledged. -/
def bothStored : List Label := stores 0 "7_1_on_" ++ stores 1 "7_1_off_"

/-- The read of the class that follows. -/
def readsBoth : List Label :=
  .enter (request "05" "1_" 7) :: [Answer.node (some 0), .query .done,
    .rows (some [switchOn.row, switchOff.row]), .unit, .node (some 0), .query .done, .unit, .byte 1,
    .int 210].map (.turn 2)

/-- Two commands of one class wait, and one read takes the first and deletes both: the second was
acknowledged, is in no table and in no reply. -/
theorem second_command_lost : ∃ state,
    system.run initial (bothStored ++ readsBoth) = some state ∧ switchOff ∈ state.acknowledged ∧
      state.table = [] ∧ state.delivered.map Reply.command = [switchOn] ∧ ¬ DeliveredOnce state := by
  have summary : ((system.run initial (bothStored ++ readsBoth)).map fun state =>
      (state.table, state.acknowledged, state.delivered.map Reply.command,
        state.tasks.map fun task => task.op.isSome)) =
      some ([], [switchOn, switchOff], [switchOn], [false, false, false]) := by
    decide +kernel
  obtain ⟨state, reached, facts⟩ := Option.map_eq_some_iff.mp summary
  simp only [Prod.mk.injEq] at facts
  obtain ⟨table, acknowledged, delivered, ended⟩ := facts
  have told : switchOff ∈ state.acknowledged := by
    rw [acknowledged]
    exact List.mem_cons_of_mem _ List.mem_cons_self
  have unowed : ¬ state.Owed switchOff := by
    rintro ⟨task, member, running, -⟩
    have mapped := List.mem_map_of_mem (f := fun task : Task => task.op.isSome) member
    rw [ended, running] at mapped
    contradiction
  refine ⟨state, reached, told, table, delivered, fun once => ?_⟩
  obtain ⟨reply, single, -⟩ := once switchOff told (by rw [table]; exact List.not_mem_nil) unowed
  have member : reply ∈ state.delivered.filter fun reply => reply.command = switchOff := by
    rw [single]
    exact List.mem_singleton_self reply
  obtain ⟨known, same⟩ := List.mem_filter.mp member
  have mapped := List.mem_map_of_mem (f := Reply.command) known
  rw [delivered, of_decide_eq_true same] at mapped
  contradiction

end UubangIot.StoredCommands
