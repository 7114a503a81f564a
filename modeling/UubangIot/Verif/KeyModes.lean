import UubangIot.Verif.ClientExchange
import UubangIot.Verif.TaskAccounting

/-!
# Where a stored key is

A key that is stored is with a task that has still to announce it, on its way to the client, or
with the client; or its announcement failed, and with it the connection. Moves that have nothing
to do with keys leave it there.
-/

namespace UubangIot

open Effect Effect.Prog RsaUtils Transition

/-! ## Where a key is -/

section

variable {conn : Nat} {exchange later : Exchange}

/-- The client's key is the stored one. -/
def Agrees (conn : Nat) (exchange : Exchange) : Prop :=
  ∀ text, exchange.key = some text →
    ∀ record, exchange.server.memory.conns conn = some record → announcement record.key = text

/-- No key is under way, and the client has the stored one. -/
structure Settled (conn : Nat) (exchange : Exchange) : Prop where
  /-- No task has to do with keys. -/
  idle : Idle conn exchange.server.tasks
  /-- No announcement is on its way. -/
  clear : Clear exchange.wire
  /-- The client's key. -/
  agrees : Agrees conn exchange

/-- The stored key of the connection. -/
def Stored (conn : Nat) (exchange : Exchange) (key : RSAKey) : Prop :=
  ∀ record, exchange.server.memory.conns conn = some record → record.key = key

/-- Where the stored key is on its way to the client. -/
inductive Mode (conn : Nat) (exchange : Exchange) : Prop
  /-- The client has it. -/
  | matched (agrees : Agrees conn exchange) (clear : Clear exchange.wire)
      (rekeys : ∀ task ∈ exchange.server.tasks, task.request.conn = conn →
        Rekeys task.request task.program)
  /-- A task has still to announce it. -/
  | stored (task : Task) (member : task ∈ exchange.server.tasks)
      (own : task.request.conn = conn) (key : RSAKey)
      (announces : Announces task.request key task.program) (stored : Stored conn exchange key)
      (clear : Clear exchange.wire)
  /-- Its announcement is on its way. -/
  | announced (idle : Idle conn exchange.server.tasks) (before after : List (Nat × Frame))
      (entry : Nat × Frame) (wire : exchange.wire = before ++ entry :: after)
      (clear : Clear (before ++ after)) (key : RSAKey)
      (text : entry.2.announced = some (announcement key)) (stored : Stored conn exchange key)
  /-- Its announcement failed, and with it the connection. -/
  | lost (idle : Idle conn exchange.server.tasks) (clear : Clear exchange.wire)
      (lost : exchange.lost = true)

/-- One of two tasks has nothing to do with the keys of the connection. -/
def Exclusive (conn : Nat) (first second : Task) : Prop :=
  first.request.conn = conn → second.request.conn = conn →
    first.program.Only keyless ∨ second.program.Only keyless

/-- Exclusion goes both ways. -/
theorem Exclusive.symm {first second : Task} (exclusive : Exclusive conn first second) :
    Exclusive conn second first := fun late early => (exclusive early late).symm

/-- A move that has nothing to do with the key of the connection. -/
structure KeepsKeys (conn : Nat) (exchange later : Exchange) : Prop where
  /-- The stored key. -/
  kept : KeysKept conn exchange.server.memory later.server.memory
  /-- The client's key. -/
  key : later.key = exchange.key
  /-- What is sent announces no key. -/
  wire : ∃ sent, later.wire = exchange.wire ++ sent ∧ Clear sent
  /-- A lost connection stays lost. -/
  lost : exchange.lost = true → later.lost = true
  /-- New tasks have nothing to do with keys. -/
  older : ∀ task ∈ later.server.tasks, task.request.conn = conn →
    task.program.Only keyless ∨ task ∈ exchange.server.tasks
  /-- Tasks that have to do with keys stay. -/
  stays : ∀ task ∈ exchange.server.tasks, task.request.conn = conn →
    task.program.Only keyless ∨ task ∈ later.server.tasks

/-- Two clear parts make a clear wire. -/
theorem Clear.append {wire sent : List (Nat × Frame)} (first : Clear wire) (second : Clear sent) :
    Clear (wire ++ sent) := by
  intro entry member
  rcases List.mem_append.mp member with early | late
  · exact first entry early
  · exact second entry late

/-- The agreement is about keys only. -/
theorem Agrees.frame (agrees : Agrees conn exchange) (keeps : KeepsKeys conn exchange later) :
    Agrees conn later := by
  intro text told record found
  obtain ⟨before, known, same⟩ := keeps.kept record found
  rw [same]
  exact agrees text (keeps.key.symm.trans told) before known

/-- What is stored is about keys only. -/
theorem Stored.frame {key : RSAKey} (stored : Stored conn exchange key)
    (keeps : KeepsKeys conn exchange later) : Stored conn later key := by
  intro record found
  obtain ⟨before, known, same⟩ := keeps.kept record found
  exact same.trans (stored before known)

/-- That no task is about to change a key is about keys only. -/
theorem Idle.frame (idle : Idle conn exchange.server.tasks)
    (keeps : KeepsKeys conn exchange later) : Idle conn later.server.tasks := by
  intro task member own
  obtain still | old := keeps.older task member own
  · exact still
  · exact idle task old own

/-- Where keys are kept none is put on the wire. -/
theorem KeepsKeys.clear (keeps : KeepsKeys conn exchange later) (clear : Clear exchange.wire) :
    Clear later.wire := by
  obtain ⟨sent, wire, silent⟩ := keeps.wire
  rw [wire]
  exact clear.append silent

/-- Nothing stays under way. -/
theorem Settled.frame (settled : Settled conn exchange) (keeps : KeepsKeys conn exchange later) :
    Settled conn later :=
  ⟨settled.idle.frame keeps, keeps.clear settled.clear, settled.agrees.frame keeps⟩

/-- The key stays where it is. -/
theorem Mode.frame (mode : Mode conn exchange) (keeps : KeepsKeys conn exchange later) :
    Mode conn later := by
  cases mode with
  | matched agrees clear rekeys =>
    refine .matched (agrees.frame keeps) (keeps.clear clear) fun task member own => ?_
    obtain still | old := keeps.older task member own
    · exact .here (.inl still)
    · exact rekeys task old own
  | stored task member own key announces stored clear =>
    have stays := (keeps.stays task member own).resolve_left announces.busy
    exact .stored task stays own key announces (stored.frame keeps) (keeps.clear clear)
  | announced idle before after entry wire clear key text stored =>
    obtain ⟨sent, longer, silent⟩ := keeps.wire
    refine .announced (idle.frame keeps) before (after ++ sent) entry ?_ ?_ key text
      (stored.frame keeps)
    · rw [longer, wire, List.append_assoc, List.cons_append]
    · rw [← List.append_assoc]
      exact clear.append silent
  | lost idle clear lost => exact .lost (idle.frame keeps) (keeps.clear clear) (keeps.lost lost)

/-- When nothing is under way the client has the stored key. -/
theorem Mode.settled (mode : Mode conn exchange) (idle : Idle conn exchange.server.tasks)
    (clear : Clear exchange.wire) (connected : exchange.lost = false) : Settled conn exchange := by
  cases mode with
  | matched agrees _ _ => exact ⟨idle, clear, agrees⟩
  | stored task member own key announces _ _ => exact absurd (idle task member own) announces.busy
  | announced _ before after entry wire _ key text _ =>
    have member : entry ∈ exchange.wire := by
      rw [wire]
      exact List.mem_append_right _ List.mem_cons_self
    exact nomatch (clear entry member).symm.trans text
  | lost _ _ lost => exact Bool.noConfusion (connected.symm.trans lost)

/-- A settled exchange is matched. -/
theorem Settled.mode (settled : Settled conn exchange) : Mode conn exchange :=
  .matched settled.agrees settled.clear fun task member own => .here (.inl (settled.idle task member own))

end

/-! ## One operation of a task -/

/-- The exchange after an operation of a task, with the memory and the wire it leaves. -/
def Exchange.performed (exchange : Exchange) (index : Nat) (task : Task) (op : Op)
    (rest : Handler Unit) (memory : Memory) (wire : List (Nat × Frame)) (lost : Bool) : Exchange :=
  { exchange with
    server := { exchange.server with
      memory
      frees := countFree exchange.server.frees task.object op
      tasks := exchange.server.tasks.set index (task.performed op rest) }
    wire
    lost }

/-- What an operation of a task sends to the client. -/
inductive Emits (conn : Nat) (request : CLN) (op : Op) (wire : List (Nat × Frame)) (lost : Bool) :
    List (Nat × Frame) → Bool → Prop
  /-- Nothing. -/
  | silent (unsent : request.conn = conn → ∀ frame, op ≠ .send request.socket frame) :
      Emits conn request op wire lost wire lost
  /-- A frame, but the send fails. -/
  | failed (own : request.conn = conn) (frame : Frame) (send : op = .send request.socket frame) :
      Emits conn request op wire lost wire true
  /-- A frame. -/
  | sent (own : request.conn = conn) (frame : Frame) (send : op = .send request.socket frame)
      (number : Nat) :
      Emits conn request op wire lost (wire ++ [(number, frame)]) lost

section

variable {config : Config} {conn index : Nat} {answer : Answer} {exchange later : Exchange}

/-- An operation of a task in the exchange. -/
theorem turn_step_cases
    (moved : exchange.turn config conn (.step index answer) = some later) :
    ∃ task op rest response memory wire lost,
      exchange.server.tasks[index]? = some task ∧ task.program = .call op rest ∧
      exchange.server.memory.after ⟨op, response⟩ = some memory ∧
      Emits conn task.request op exchange.wire exchange.lost wire lost ∧
      later = exchange.performed index task op (rest response) memory wire lost := by
  unfold Exchange.turn at moved
  rw [if_neg (show ¬(Turn.step index answer).receives conn = true from Bool.false_ne_true)] at moved
  obtain ⟨server, stepped, rfl⟩ := Option.map_eq_some_iff.mp moved
  obtain ⟨task, op, rest, response, memory, found, program, read, after, rfl⟩ := step_cases stepped
  refine ⟨task, op, rest, response, memory, ?_⟩
  -- only the send of a frame is answered with a length
  by_cases sends : ∃ frame, op = .send task.request.socket frame ∧ task.request.conn = conn
  · obtain ⟨frame, rfl, own⟩ := sends
    have emission : task.emission conn = some frame := by
      rw [Task.emission, program]
      exact if_pos ⟨own, rfl⟩
    cases answer with
    | int len =>
      have emitted : exchange.emitted conn (.step index (.int len)) =
          some (task.object, frame, sendFailed len) := by
        rw [Exchange.emitted, found, Option.bind_some, emission]
        rfl
      cases failing : sendFailed len with
      | true =>
        refine ⟨_, _, found, program, after, .failed own frame rfl, ?_⟩
        rw [emitted, failing]
        rfl
      | false =>
        refine ⟨_, _, found, program, after,
          .sent own frame rfl (exchange.origin task.object).1, ?_⟩
        rw [emitted, failing]
        rfl
    | _ => exact nomatch read
  · have silent : exchange.emitted conn (.step index answer) = none := by
      cases answer with
      | int len =>
        rw [Exchange.emitted, found, Option.bind_some, Task.emission, program]
        split
        · rename_i socket frame next shape
          obtain ⟨rfl, -⟩ := Prog.call.inj shape
          rw [if_neg (fun both => sends ⟨frame, by rw [both.2], both.1⟩)]
          rfl
        · rfl
      | _ => rfl
    refine ⟨_, _, found, program, after, .silent fun own frame send => sends ⟨frame, send, own⟩, ?_⟩
    rw [silent]
    rfl

/-- A keyless operation sends no announcement. -/
theorem Emits.clear {request : CLN} {op : Op} {wire after : List (Nat × Frame)} {lost broken : Bool}
    (emits : Emits conn request op wire lost after broken) (still : keyless op) :
    (∃ sent, after = wire ++ sent ∧ Clear sent) ∧ (lost = true → broken = true) := by
  have unannounced (frame : Frame) (send : op = .send request.socket frame) :
      frame.announced = none := by
    by_contra announced
    subst send
    exact still (if_neg announced)
  cases emits with
  | silent unsent => exact ⟨⟨[], (List.append_nil _).symm, fun _ member => nomatch member⟩, id⟩
  | failed own frame send =>
    exact ⟨⟨[], (List.append_nil _).symm, fun _ member => nomatch member⟩, fun _ => rfl⟩
  | sent own frame send number =>
    refine ⟨⟨_, rfl, fun entry member => ?_⟩, id⟩
    rw [List.mem_singleton.mp member]
    exact unannounced frame send

/-- Another connection's task sends the client nothing. -/
theorem Emits.foreign {request : CLN} {op : Op} {wire after : List (Nat × Frame)}
    {lost broken : Bool} (emits : Emits conn request op wire lost after broken)
    (other : request.conn ≠ conn) : after = wire ∧ broken = lost := by
  cases emits with
  | silent unsent => exact ⟨rfl, rfl⟩
  | failed own => exact absurd own other
  | sent own => exact absurd own other

end

end UubangIot
