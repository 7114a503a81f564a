import UubangIot.Lib.Transition
import UubangIot.Verif.SharedMemory

/-!
# Invariants of the connection records

A record is made at accept, greeted when a packet arrives and written by the operations of the
requests that were copied from it. `Discipline` is what a property of records and of unfinished
requests needs for every turn of the server to keep it; a run may be restricted in the requests it
takes up and in the answers its operations hear.
-/

namespace UubangIot

open Effect Effect.Prog Transition Transition.System

/-- A property of records and one of requests with what is left of them, as the server keeps them. -/
structure Discipline (config : Config) (good : CLN → Prop) (tame : CLN → Handler Unit → Prop)
    (admits : CLN → Prop) (heard : Happening → Prop) : Prop where
  /-- A new connection. -/
  fresh : ∀ socket, good (.fresh socket)
  /-- The handshake and the count of tasks do not matter. -/
  flags : ∀ {record : CLN} (info1 : UInt8) (taskNum : Int), good record →
    good { record with info1, taskNum }
  /-- What a packet leaves of its connection. -/
  stored : ∀ {handle : Nat} {record : CLN} {packet : Bytes}, readable packet = true →
    good record → good (snapshot handle record packet).2
  /-- A request when it is taken up. -/
  starts : ∀ {handle : Nat} {record request : CLN} {packet : Bytes}, readable packet = true →
    good record → Copied handle record packet request → admits request →
    tame request (talk config request)
  /-- A request after an operation. -/
  goes : ∀ {request : CLN} {op : Op} {next : op.Res → Handler Unit} {response : op.Res},
    tame request (.call op next) → heard ⟨op, response⟩ → tame request (next response)
  /-- A record after an operation. -/
  writes : ∀ {request record : CLN} {op : Op} {next : op.Res → Handler Unit} {conn : Nat}
    {change : CLN → CLN}, tame request (.call op next) → op.writes = some (conn, change) →
    good record → good (change record)

/-- The restriction of a turn: what is taken up, and what is heard. -/
def Heeds (admits : CLN → Prop) (heard : Happening → Prop) (server : ServerState) : Turn → Prop
  | .event (.receive conn packet _) => ∀ record, server.memory.conns conn = some record →
    ∀ request, Copied conn record packet request → admits request
  | .step index answer => ∀ task op next response, server.tasks[index]? = some task →
    task.program = .call op next → op.read answer = some response → heard ⟨op, response⟩
  | _ => True

/-- All records and all requests have their property. -/
structure Orderly (good : CLN → Prop) (tame : CLN → Handler Unit → Prop)
    (server : ServerState) : Prop where
  /-- The connections. -/
  records : ∀ conn record, server.memory.conns conn = some record → good record
  /-- The tasks. -/
  tasks : ∀ task ∈ server.tasks, tame task.request task.program

/-- A record that `ServerWorkThread` puts back is the one its snapshot left, with its flags. -/
theorem dispatch_stored (record request : CLN) :
    (∃ later sent info1, dispatch record request = .refused later sent ∧
        later = { record with info1 }) ∨
      ∃ later sent other info1 taskNum, dispatch record request = .dispatched later sent other ∧
        later = { record with info1, taskNum } := by
  have greeted : ∃ info1, (handshake record request).1 = { record with info1 } := by
    unfold handshake
    split
    · split
      · exact ⟨yes, rfl⟩
      · exact ⟨record.info1, rfl⟩
    · exact ⟨record.info1, rfl⟩
  obtain ⟨info1, greeted⟩ := greeted
  simp only [dispatch]
  rw [greeted]
  split
  · exact .inl ⟨_, _, info1, rfl, rfl⟩
  · split
    · exact .inr ⟨_, _, _, info1, _, rfl, rfl⟩
    · exact .inl ⟨_, _, info1, rfl, rfl⟩

variable {config : Config} {good : CLN → Prop} {tame : CLN → Handler Unit → Prop}
  {admits : CLN → Prop} {heard : Happening → Prop} {server next : ServerState}

/-- Records after a packet: as before, or what the packet left of its connection. -/
theorem receive_record {conn other : Nat} {packet : Bytes} {allocated : Bool}
    (received : server.receive config conn packet allocated = some next) {record : CLN}
    (found : next.memory.conns other = some record) :
    server.memory.conns other = some record ∨
      readable packet = true ∧ ∃ before info1 taskNum, server.memory.conns conn = some before ∧
        record = { (snapshot conn before packet).2 with info1, taskNum } := by
  unfold ServerState.receive at received
  cases known : server.memory.conns conn with
  | none => simp [known] at received
  | some before =>
    simp only [known] at received
    have put {later : CLN} (at_conn : (server.store conn later).memory.conns other = some record) :
        server.memory.conns other = some record ∨ record = later := by
      obtain ⟨old, kept, rfl⟩ := write_record at_conn
      split
      · exact .inr rfl
      · exact .inl kept
    by_cases read : readable packet = true
    · by_cases memory : allocated = true
      · subst memory
        have worked : serverWork conn before packet true =
            dispatch (snapshot conn before packet).2 (snapshot conn before packet).1 := by
          have size : ¬(packet.length = 0 ∨ 721 < packet.length) := by
            simp only [readable, decide_eq_true_eq] at read
            omega
          simp only [serverWork, if_neg size, if_true]
        rw [worked] at received
        rcases dispatch_stored (snapshot conn before packet).2 (snapshot conn before packet).1 with
          ⟨later, sent, info1, dispatched, rfl⟩ |
          ⟨later, sent, request, info1, taskNum, dispatched, rfl⟩
        · rw [dispatched] at received
          obtain rfl := Option.some.inj received
          rcases put found with old | rfl
          · exact .inl old
          · exact .inr ⟨read, before, info1, _, rfl, rfl⟩
        · rw [dispatched] at received
          obtain rfl := Option.some.inj received
          rcases put found with old | rfl
          · exact .inl old
          · exact .inr ⟨read, before, info1, taskNum, rfl, rfl⟩
      · obtain ⟨sent, worked⟩ : ∃ sent, serverWork conn before packet allocated =
            .nullRequest sent := by
          have size : ¬(packet.length = 0 ∨ 721 < packet.length) := by
            simp only [readable, decide_eq_true_eq] at read
            omega
          exact ⟨_, by rw [serverWork, if_neg size, if_neg memory]⟩
        rw [worked] at received
        obtain rfl := Option.some.inj received
        exact .inl found
    · have worked : serverWork conn before packet allocated = .closed := by
        have size : packet.length = 0 ∨ 721 < packet.length := by
          simp only [readable, decide_eq_true_eq] at read
          omega
        rw [serverWork, if_pos size]
      rw [worked] at received
      obtain rfl := Option.some.inj received
      exact .inl found

/-- Before the first connection there is nothing to keep. -/
theorem orderly_initial : Orderly good tame .initial where
  records _ _ found := nomatch found
  tasks _ member := nomatch member

/-- A packet that is received keeps the records orderly. -/
theorem Orderly.receive (kept : Discipline config good tame admits heard)
    (orderly : Orderly good tame server) {conn : Nat} {packet : Bytes} {allocated : Bool}
    (heeds : Heeds admits heard server (.event (.receive conn packet allocated)))
    (received : server.receive config conn packet allocated = some next) :
    Orderly good tame next where
  records other record found := by
    rcases receive_record received found with old | ⟨read, before, info1, taskNum, known, rfl⟩
    · exact orderly.records other record old
    · exact kept.flags info1 taskNum (kept.stored read (orderly.records conn before known))
  tasks := by
    obtain ⟨record, known, ⟨-, rfl⟩ | ⟨-, -, rfl⟩ | ⟨later, -, rfl⟩ |
        ⟨-, read, later, request, -, -, copied, rfl⟩⟩ := receive_cases received
    · exact orderly.tasks
    · exact orderly.tasks
    · exact orderly.tasks
    · intro task member
      rcases List.mem_append.mp member with old | new
      · exact orderly.tasks task old
      · rw [List.mem_singleton.mp new]
        exact kept.starts read (orderly.records conn record known) copied
          (heeds record known request copied)

/-- An operation of a task keeps the records orderly. -/
theorem Orderly.step (kept : Discipline config good tame admits heard)
    (orderly : Orderly good tame server) {index : Nat} {answer : Answer}
    (heeds : Heeds admits heard server (.step index answer))
    (stepped : server.step index answer = some next) : Orderly good tame next := by
  obtain ⟨task, op, rest, response, memory, found, program, read, after, rfl⟩ :=
    step_cases stepped
  have now := orderly.tasks task (List.mem_of_getElem? found)
  rw [program] at now
  constructor
  · intro conn record known
    obtain ⟨before, old, rfl⟩ := after_record after known
    have was := orderly.records conn before old
    cases written : op.writes with
    | none => exact was
    | some write =>
      obtain ⟨target, change⟩ := write
      dsimp only
      split
      · exact kept.writes now written was
      · exact was
  · intro other member
    rcases List.mem_or_eq_of_mem_set member with old | rfl
    · exact orderly.tasks other old
    · exact kept.goes now (heeds task op rest response found program read)

/-- Every turn that heeds its restriction. -/
theorem Orderly.turn (kept : Discipline config good tame admits heard) (server : ServerState)
    (turn : Turn) (next : ServerState) (heeds : Heeds admits heard server turn)
    (orderly : Orderly good tame server)
    (moved : (interleaved config).step server turn = some next) : Orderly good tame next := by
  cases turn with
  | event event =>
    cases event with
    | accept socket =>
      obtain rfl := Option.some.inj moved
      refine ⟨fun conn record found => ?_, orderly.tasks⟩
      rcases accept_record found with ⟨-, rfl⟩ | ⟨-, old⟩
      · exact kept.fresh socket
      · exact orderly.records conn record old
    | receive conn packet allocated => exact orderly.receive kept heeds moved
    | ping lens =>
      obtain rfl := Option.some.inj moved
      exact ⟨orderly.records, orderly.tasks⟩
    | addConnMemWait4Free allocated =>
      obtain ⟨queued, passed, rfl⟩ := addConnMemWait4Free_cases moved
      exact ⟨orderly.records, orderly.tasks⟩
    | beginPass =>
      obtain rfl := beginPass_cases moved
      exact ⟨orderly.records, orderly.tasks⟩
    | visit =>
      obtain ⟨entry, rest, -, ⟨-, rfl⟩ | ⟨record, -, ⟨-, rfl⟩ | ⟨-, rfl⟩⟩⟩ := visit_cases moved
      · exact ⟨orderly.records, orderly.tasks⟩
      · exact ⟨fun conn other found => orderly.records conn other (freeConn_record found).2,
          orderly.tasks⟩
      · exact ⟨orderly.records, orderly.tasks⟩
  | step index answer => exact orderly.step kept heeds moved
  | leave index =>
    obtain ⟨task, -, -, rfl⟩ := leave_cases moved
    exact ⟨orderly.records, fun task member =>
      orderly.tasks task (List.mem_of_mem_eraseIdx member)⟩

/-- Along every run that heeds its restriction records and requests have their property. -/
theorem Orderly.run (kept : Discipline config good tame admits heard) {turns : List Turn}
    (heeds : (interleaved config).Meets (Heeds admits heard) .initial turns)
    (reached : (interleaved config).run .initial turns = some server) : Orderly good tame server :=
  run_invariant (Orderly.turn kept) orderly_initial heeds reached

end UubangIot
