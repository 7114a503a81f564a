import UubangIot.Verif.OnlineLists
import UubangIot.Verif.SignInTrail
import UubangIot.Verif.SocketCloses
import UubangIot.Verif.TaskAccounting

/-!
# The owner of a socket

The handle of a connection is copied into its record, into its requests and into the nodes of the
online lists, and `closesocket` is called with any of the copies. The ledger has the connection that
each open handle belongs to: a handle that is not open may be given out again, and a call with it
closes the socket of whoever has it then. In every run in which a handle is given out only when no
copy of it is left, and no turn is undefined, a socket is closed for no connection but its own. The
receive that is still pending on a freed connection is such a turn: its completion closes the handle
it finds in the freed record.
-/

namespace UubangIot

open Effect Effect.Prog Transition Transition.System

/-! ## Copies of handles -/

/-- A handle with the connection it was copied from. -/
structure HandleCopy where
  /-- The value of the handle. -/
  socket : Nat
  /-- The connection. -/
  conn : Nat
  deriving DecidableEq, Repr

/-- The handle in a node. -/
def User.handleCopy (node : User) : HandleCopy := ⟨node.userSocket, node.connHandle⟩

/-- The handles of a task: that of its request, and those of the nodes it has found online. -/
def Task.handleCopies (task : Task) (log : List Note) : List HandleCopy :=
  ⟨task.request.socket, task.request.conn⟩ ::
    ((deeds log task.object).filterMap foundNode).map User.handleCopy

/-- The handles in the records of the connections. -/
def ServerState.recordCopies (server : ServerState) : List HandleCopy :=
  (List.range server.accepted).filterMap fun conn =>
    (server.memory.conns conn).map fun record => ⟨record.socket, conn⟩

/-- Every handle the server has kept. -/
def ServerState.handleCopies (server : ServerState) (log : List Note) : List HandleCopy :=
  server.recordCopies ++
    ((server.memory.online.nodes .user ++ server.memory.online.nodes .iot).map User.handleCopy ++
      server.tasks.flatMap fun task => task.handleCopies log)

/-! ## Calls of `closesocket` -/

/-- `ServerWorkThread` closes the socket: there is nothing to read, or too much, or the connection has
made no handshake. -/
def Work.closes (record : CLN) : Work → Bool
  | .closed => true
  | .nullRequest _ => record.info1 ≠ yes
  | .refused later _ => later.info1 ≠ yes
  | .dispatched _ _ _ => false

/-- The socket that a task is about to close. -/
def Task.closing (task : Task) : Option Nat :=
  match task.program with
  | .call (.closeSocket socket) _ => some socket
  | _ => none

/-- The handle a turn calls `closesocket` with, and the connections it has it from. -/
def ServerState.closing (server : ServerState) (log : List Note) : Turn → Option (Nat × List Nat)
  | .event (.receive conn packet allocated) =>
    (server.memory.conns conn).bind fun record =>
      if (serverWork conn record packet allocated).closes record then some (record.socket, [conn])
      else none
  | .event .visit =>
    server.ahead.head?.bind fun entry =>
      (server.memory.conns entry.conn).bind fun record =>
        if entry.due record then some (record.socket, [entry.conn]) else none
  | .step index _ =>
    server.tasks[index]?.bind fun task =>
      task.closing.map fun socket =>
        (socket, ((task.handleCopies log).filter (·.socket = socket)).map HandleCopy.conn)
  | _ => none

/-- A call of `closesocket`. -/
structure Closing where
  /-- Its handle. -/
  socket : Nat
  /-- The connections on whose behalf it is called. -/
  behalf : List Nat
  /-- The open connection that the handle belongs to at that moment. -/
  owner : Option Nat
  deriving DecidableEq, Repr

/-- The sockets of the operating system. -/
structure Ledger where
  /-- The open connection of a handle. -/
  owner : Nat → Option Nat
  /-- The calls of `closesocket` so far. -/
  closings : List Closing

/-- Before the first connection. -/
def Ledger.initial : Ledger := ⟨fun _ => none, []⟩

/-- A handle is given out. -/
def Ledger.accept (ledger : Ledger) (socket conn : Nat) : Ledger :=
  { ledger with owner := Function.update ledger.owner socket (some conn) }

/-- A handle is closed, whoever has it. -/
def Ledger.close (ledger : Ledger) (socket : Nat) (behalf : List Nat) : Ledger :=
  ⟨Function.update ledger.owner socket none,
    ledger.closings ++ [⟨socket, behalf, ledger.owner socket⟩]⟩

/-- The sockets after a turn; a handle that is open is not given out. -/
def Ledger.after (ledger : Ledger) (now : ServerState × List Note) : Turn → Option Ledger
  | .event (.accept socket) =>
    if ledger.owner socket = none then some (ledger.accept socket now.1.accepted) else none
  | turn =>
    match now.1.closing now.2 turn with
    | none => some ledger
    | some (socket, behalf) => some (ledger.close socket behalf)

/-- The server with its chronicle and the sockets. -/
def ledgered (config : Config) : System ((ServerState × List Note) × Ledger) Turn where
  step now turn :=
    ((chronicled config).step now.1 turn).bind fun next =>
      (now.2.after now.1 turn).map fun ledger => (next, ledger)

/-- Every call of `closesocket` is on behalf of connections, and of none but the owner of its handle;
no socket was closed twice. -/
structure ClosedByOwner (ledger : Ledger) : Prop where
  /-- A handle comes from a connection. -/
  behalf : ∀ closing ∈ ledger.closings, closing.behalf ≠ []
  /-- It belongs to no other. -/
  owner : ∀ closing ∈ ledger.closings, ∀ conn ∈ closing.behalf, ∀ other,
    closing.owner = some other → conn = other
  /-- A connection's socket is closed once. -/
  once : (ledger.closings.filterMap Closing.owner).Nodup

/-- A handle is given out when no copy of it is left. -/
def Forgotten (now : (ServerState × List Note) × Ledger) : Turn → Prop
  | .event (.accept socket) => ∀ copy ∈ now.1.1.handleCopies now.1.2, copy.socket ≠ socket
  | _ => True

instance (now : (ServerState × List Note) × Ledger) : (turn : Turn) → Decidable (Forgotten now turn)
  | .event (.accept _) => inferInstanceAs (Decidable (∀ copy ∈ _, _))
  | .event (.receive _ _ _) | .event (.ping _) | .event (.addConnMemWait4Free _)
  | .event .beginPass | .event .visit | .step _ _ | .leave _ => inferInstanceAs (Decidable True)

/-! ## Where the copies come from -/

variable {config : Config} {server after : ServerState} {log history : List Note} {turn : Turn}
  {copy : HandleCopy} {task : Task}

/-- A copy of a task is that of its request or of a node it has found. -/
theorem mem_taskCopies : copy ∈ task.handleCopies log ↔
    copy = ⟨task.request.socket, task.request.conn⟩ ∨
      ∃ happening ∈ deeds log task.object, ∃ node ∈ foundNode happening, node.handleCopy = copy := by
  simp only [Task.handleCopies, List.mem_cons, List.mem_map, List.mem_filterMap, Option.mem_def]
  constructor
  · rintro (own | ⟨node, ⟨happening, member, found⟩, same⟩)
    · exact .inl own
    · exact .inr ⟨happening, member, node, found, same⟩
  · rintro (own | ⟨happening, member, node, found, same⟩)
    · exact .inl own
    · exact .inr ⟨node, ⟨happening, member, found⟩, same⟩

/-- A copy is in a record, in a node or with a task. -/
theorem mem_handleCopies : copy ∈ server.handleCopies log ↔
    (copy.conn < server.accepted ∧
      ∃ record, server.memory.conns copy.conn = some record ∧ record.socket = copy.socket) ∨
    (∃ kind, ∃ node ∈ server.memory.online.nodes kind, node.handleCopy = copy) ∨
    ∃ task ∈ server.tasks, copy ∈ task.handleCopies log := by
  have records : copy ∈ server.recordCopies ↔ copy.conn < server.accepted ∧
      ∃ record, server.memory.conns copy.conn = some record ∧ record.socket = copy.socket := by
    simp only [ServerState.recordCopies, List.mem_filterMap, List.mem_range,
      Option.map_eq_some_iff]
    constructor
    · rintro ⟨conn, below, record, known, rfl⟩
      exact ⟨below, record, known, rfl⟩
    · rintro ⟨below, record, known, same⟩
      exact ⟨copy.conn, below, record, known, by rw [same]⟩
  have nodes : copy ∈ (server.memory.online.nodes .user ++
        server.memory.online.nodes .iot).map User.handleCopy ↔
      ∃ kind, ∃ node ∈ server.memory.online.nodes kind, node.handleCopy = copy := by
    simp only [List.mem_map, List.mem_append]
    constructor
    · rintro ⟨node, user | iot, same⟩
      · exact ⟨.user, node, user, same⟩
      · exact ⟨.iot, node, iot, same⟩
    · rintro ⟨kind, node, member, same⟩
      cases kind with
      | user => exact ⟨node, .inl member, same⟩
      | iot => exact ⟨node, .inr member, same⟩
  rw [ServerState.handleCopies, List.mem_append, List.mem_append, records, nodes, List.mem_flatMap]

section

variable {memory later : Memory} {op : Op} {response : op.Res} {a : CLN} {held : Nat → Prop}

/-- An operation leaves the handles in the records. -/
theorem after_socket (stepped : memory.after ⟨op, response⟩ = some later) {conn : Nat}
    {record : CLN} (found : later.conns conn = some record) :
    ∃ before, memory.conns conn = some before ∧ record.socket = before.socket := by
  refine after_field CLN.socket ?_ stepped found
  intro target change written record
  cases op <;> cases written <;> rfl

/-- What a search finds is in the lists. -/
theorem foundNode_mem (stepped : memory.after ⟨op, response⟩ = some later) {node : User}
    (found : node ∈ foundNode ⟨op, response⟩) : ∃ kind, node ∈ memory.online.nodes kind := by
  cases op with
  | findOnline kind lookup =>
    have answer := (after_findOnline stepped).1
    have present : memory.online.find kind lookup = some node := answer.symm.trans found
    exact ⟨kind, List.mem_of_find?_eq_some present⟩
  | _ => contradiction

/-- A node after an operation of a request has the handle of a former node or of the request. -/
theorem after_handleCopy (stepped : memory.after ⟨op, response⟩ = some later)
    (handles : op.handles a held) {kind : Kind} {node : User}
    (member : node ∈ later.online.nodes kind) :
    (∃ old ∈ memory.online.nodes kind, old.handleCopy = node.handleCopy) ∨
      node.handleCopy = ⟨a.socket, a.conn⟩ := by
  have lists := after_online stepped
  have kept (same : later.online = memory.online) :
      ∃ old ∈ memory.online.nodes kind, old.handleCopy = node.handleCopy :=
    ⟨node, same ▸ member, rfl⟩
  cases op with
  | deleteOutUser userId socket =>
    rw [lists] at member
    obtain ⟨old, present, line, handle⟩ := deleteOutUser_paired _ _ _ kind node member
    refine .inl ⟨old, present, ?_⟩
    rw [User.handleCopy, User.handleCopy, line, handle]
  | newOnlineUserOrIotDev b =>
    rcases after_insertion stepped with ⟨-, inserted⟩ | ⟨-, same⟩
    · rw [inserted, newOnline_nodes] at member
      split at member
      · rcases List.mem_cons.mp member with rfl | old
        · refine .inr ?_
          rw [← handles.1, ← handles.2]
          rfl
        · exact .inl ⟨node, old, rfl⟩
      · exact .inl ⟨node, member, rfl⟩
    · exact .inl (kept same)
  | _ => exact .inl (kept lists)

end

/-- An operation of any task is the only one that its object may gain. -/
theorem mem_deeds_snoc {object other : Nat} {happening last : Happening}
    (member : happening ∈ deeds (log ++ [.did other last]) object) :
    happening ∈ deeds log object ∨ happening = last := by
  by_cases own : other = object
  · rw [own, deeds_snoc_did] at member
    rcases List.mem_append.mp member with old | new
    · exact .inl old
    · exact .inr (List.mem_singleton.mp new)
  · rw [deeds_snoc_other log own] at member
    exact .inl member

/-- The operation that a task comes to is on handles it has. -/
theorem Told.handles (told : Told config (server, log)) (member : task ∈ server.tasks) {op : Op}
    {rest : op.Res → Handler Unit} (program : task.program = .call op rest) :
    op.handles task.request fun socket => ∃ copy ∈ task.handleCopies log, copy.socket = socket := by
  obtain ⟨-, comes⟩ := told.pooled task member
  have whole : Closes task.request (· = task.request.socket) (talk config task.request) :=
    talk_closes config task.request rfl
  have left := whole.comes comes
  rw [program] at left
  refine Op.handles_mono left.1 fun socket known => ?_
  rcases known with rfl | ⟨happening, present, node, found, rfl⟩
  · exact ⟨_, mem_taskCopies.mpr (.inl rfl), rfl⟩
  · exact ⟨node.handleCopy, mem_taskCopies.mpr (.inr ⟨happening, present, node, found, rfl⟩), rfl⟩

/-! ## Turns -/

/-- A turn that makes no new copies. -/
theorem copies_subset (accepted : after.accepted = server.accepted)
    (records : ∀ conn record, after.memory.conns conn = some record →
      ∃ before, server.memory.conns conn = some before ∧ record.socket = before.socket)
    (nodes : ∀ kind, ∀ node ∈ after.memory.online.nodes kind,
      node.handleCopy ∈ server.handleCopies log)
    (tasks : ∀ task ∈ after.tasks, task.handleCopies history ⊆ server.handleCopies log) :
    after.handleCopies history ⊆ server.handleCopies log := by
  intro copy member
  rcases mem_handleCopies.mp member with ⟨below, record, known, same⟩ | ⟨kind, node, there, rfl⟩ |
    ⟨task, there, own⟩
  · obtain ⟨before, old, line⟩ := records copy.conn record known
    rw [accepted] at below
    exact mem_handleCopies.mpr (.inl ⟨below, before, old, line.symm.trans same⟩)
  · exact nodes kind node there
  · exact tasks task there own

/-- The handles of the nodes and the tasks are copies. -/
theorem nodes_copies (server : ServerState) (log : List Note) {kind : Kind} {node : User}
    (member : node ∈ server.memory.online.nodes kind) :
    node.handleCopy ∈ server.handleCopies log :=
  mem_handleCopies.mpr (.inr (.inl ⟨kind, node, member, rfl⟩))

/-- The handles of the tasks are copies. -/
theorem task_copies (member : task ∈ server.tasks) :
    task.handleCopies log ⊆ server.handleCopies log := by
  intro copy own
  exact mem_handleCopies.mpr (.inr (.inr ⟨task, member, own⟩))

/-- A packet: the handle of its request is that of its connection. -/
theorem receive_copies (told : Told config (server, log)) {conn : Nat} {record : CLN}
    {packet : Bytes} {allocated : Bool} (below : conn < server.accepted)
    (known : server.memory.conns conn = some record)
    (received : server.receive config conn packet allocated = some after) :
    after.handleCopies (log ++ [.received conn record packet allocated server.objects]) ⊆
      server.handleCopies log := by
  have still (task : Task) : task.handleCopies
      (log ++ [.received conn record packet allocated server.objects]) = task.handleCopies log := by
    rw [Task.handleCopies, deeds_snoc_of_none rfl, Task.handleCopies]
  have stored {later : CLN} (line : later.socket = record.socket) (other : Nat) (found : CLN)
      (there : (server.memory.write conn fun _ => later).conns other = some found) :
      ∃ before, server.memory.conns other = some before ∧ found.socket = before.socket := by
    obtain ⟨before, old, rfl⟩ := write_record there
    refine ⟨before, old, ?_⟩
    split
    · rename_i own
      rw [own, known] at old
      rw [← Option.some.inj old]
      exact line
    · rfl
  have old (task : Task) (member : task ∈ server.tasks) : task.handleCopies
      (log ++ [.received conn record packet allocated server.objects]) ⊆ server.handleCopies log := by
    rw [still]
    exact task_copies member
  obtain ⟨found, present, outcome⟩ := receive_cases received
  rw [known] at present
  obtain rfl := Option.some.inj present
  obtain ⟨-, same⟩ | ⟨-, -, rfl⟩ | ⟨later, ⟨_, _, rfl⟩, rfl⟩ |
    ⟨-, -, later, request, ⟨_, _, rfl⟩, -, copied, rfl⟩ := outcome
  · rw [same]
    exact copies_subset rfl (fun _ found there => ⟨found, there, rfl⟩)
      (fun _ _ => nodes_copies server log) old
  · exact copies_subset rfl (fun _ found there => ⟨found, there, rfl⟩)
      (fun _ _ => nodes_copies server log) old
  · exact copies_subset rfl (stored rfl) (fun _ _ => nodes_copies server log) old
  · refine copies_subset rfl (stored rfl) (fun _ _ => nodes_copies server log) ?_
    intro task member
    rcases List.mem_append.mp member with before | new
    · exact old task before
    · rw [List.mem_singleton.mp new, still]
      intro copy own
      rcases mem_taskCopies.mp own with rfl | ⟨happening, present, -⟩
      · obtain ⟨handle, line, -⟩ := copied.fields
        refine mem_handleCopies.mpr (.inl ⟨?_, record, ?_, line.symm⟩)
        · exact handle.symm ▸ below
        · exact handle.symm ▸ known
      · dsimp only at present
        rw [told.idle] at present
        contradiction

/-- An operation: it may find a node, or make one of its request. -/
theorem step_copies (told : Told config (server, log)) {index : Nat} {op : Op}
    {rest : op.Res → Handler Unit} {response : op.Res} {memory : Memory} {frees : Nat → Nat}
    (found : server.tasks[index]? = some task) (program : task.program = .call op rest)
    (written : server.memory.after ⟨op, response⟩ = some memory) :
    { server with
      memory
      frees
      tasks := server.tasks.set index (task.performed op (rest response)) }.handleCopies
        (log ++ [Note.did task.object ⟨op, response⟩]) ⊆ server.handleCopies log := by
  have present : task ∈ server.tasks := List.mem_of_getElem? found
  have own : ⟨task.request.socket, task.request.conn⟩ ∈ server.handleCopies log :=
    task_copies present (mem_taskCopies.mpr (.inl rfl))
  have grown (other : Task) (old : other.handleCopies log ⊆ server.handleCopies log) :
      other.handleCopies (log ++ [Note.did task.object ⟨op, response⟩]) ⊆ server.handleCopies log := by
    intro copy member
    rcases mem_taskCopies.mp member with same | ⟨happening, deed, node, answer, rfl⟩
    · exact old (mem_taskCopies.mpr (.inl same))
    · rcases mem_deeds_snoc deed with before | rfl
      · exact old (mem_taskCopies.mpr (.inr ⟨happening, before, node, answer, rfl⟩))
      · obtain ⟨kind, listed⟩ := foundNode_mem written answer
        exact nodes_copies server log listed
  refine copies_subset rfl (fun _ _ there => after_socket written there) ?_ ?_
  · intro kind node member
    rcases after_handleCopy written (told.handles present program) member with
      ⟨old, listed, same⟩ | same
    · exact same ▸ nodes_copies server log listed
    · exact same.symm ▸ own
  · intro other member
    rcases List.mem_or_eq_of_mem_set member with before | rfl
    · exact grown other (task_copies before)
    · have before : task.handleCopies log ⊆ server.handleCopies log := task_copies present
      exact grown _ before

/-- A connection that is freed takes its handle with it. -/
theorem free_copies {conn : Nat} {record : CLN} {ahead : List Waiting} :
    { server with memory := server.memory.freeConn conn record, ahead }.handleCopies log ⊆
      server.handleCopies log := by
  refine copies_subset rfl (fun other found there => ⟨found, (freeConn_record there).2, rfl⟩) ?_
    fun task member => task_copies member
  intro kind node member
  obtain ⟨old, present, line, handle⟩ := deleteOutUser_paired _ _ _ kind node member
  have same : old.handleCopy = node.handleCopy := by
    rw [User.handleCopy, User.handleCopy, line, handle]
  exact same ▸ nodes_copies server log present

/-- A connection that is accepted brings one copy. -/
theorem accept_copies {socket : Nat} (member : copy ∈ (server.accept socket).handleCopies log) :
    copy = ⟨socket, server.accepted⟩ ∨ copy ∈ server.handleCopies log := by
  rcases mem_handleCopies.mp member with ⟨below, record, known, same⟩ | ⟨kind, node, there, rfl⟩ |
    ⟨task, there, own⟩
  · rcases accept_record known with ⟨new, rfl⟩ | ⟨other, old⟩
    · refine .inl ?_
      rw [← new, show socket = copy.socket from same]
    · have earlier : copy.conn < server.accepted :=
        lt_of_le_of_ne (Nat.lt_succ_iff.mp below) other
      exact .inr (mem_handleCopies.mpr (.inl ⟨earlier, record, old, same⟩))
  · exact .inr (nodes_copies server log there)
  · have present : task ∈ server.tasks := there
    exact .inr (task_copies present own)

/-- A turn that accepts no connection. -/
def Turn.accepts : Turn → Bool
  | .event (.accept _) => true
  | _ => false

/-- The connections accepted so far are the same after it. -/
theorem accepted_kept (stepped : (interleaved config).step server turn = some after)
    (other : turn.accepts = false) : after.accepted = server.accepted := by
  cases turn with
  | event event =>
    cases event with
    | accept socket => contradiction
    | receive conn packet allocated =>
      obtain ⟨record, -, outcome⟩ := receive_cases stepped
      obtain ⟨-, rfl⟩ | ⟨-, -, rfl⟩ | ⟨later, -, rfl⟩ |
        ⟨-, -, later, request, -, -, -, rfl⟩ := outcome <;> rfl
    | ping lens =>
      obtain rfl := Option.some.inj stepped
      rfl
    | addConnMemWait4Free allocated =>
      obtain ⟨queued, passed, rfl⟩ := addConnMemWait4Free_cases stepped
      rfl
    | beginPass =>
      obtain rfl := beginPass_cases stepped
      rfl
    | visit =>
      obtain ⟨entry, rest, -, outcome⟩ := visit_cases stepped
      obtain ⟨-, rfl⟩ | ⟨record, -, ⟨-, rfl⟩ | ⟨-, rfl⟩⟩ := outcome <;> rfl
  | step index answer =>
    obtain ⟨task, op, rest, response, memory, -, -, -, -, rfl⟩ := step_cases stepped
    rfl
  | leave index =>
    obtain ⟨task, -, -, rfl⟩ := leave_cases stepped
    rfl

/-- Every turn but an accept makes copies of copies only. -/
theorem turn_copies (told : Told config (server, log))
    (known : ∀ conn record, server.memory.conns conn = some record → conn < server.accepted)
    (turned : (chronicled config).step (server, log) turn = some (after, history))
    (other : turn.accepts = false) : after.handleCopies history ⊆ server.handleCopies log := by
  have accepted := accepted_kept (observed_step.mp turned).1 other
  obtain ⟨conn, record, packet, allocated, -, present, received, rfl⟩ |
    ⟨index, answer, task, op, rest, response, memory, -, found, program, -, written, rfl, rfl⟩ |
    ⟨index, task, -, -, -, rfl, rfl⟩ | ⟨passes, rfl⟩ := chronicled_cases turned
  · exact receive_copies told (known conn record present) present received
  · exact step_copies told found program written
  · refine copies_subset rfl (fun _ found there => ⟨found, there, rfl⟩)
      (fun _ _ => nodes_copies server history) fun task member => ?_
    exact task_copies (List.mem_of_mem_eraseIdx member)
  · cases passes with
    | accepted socket same =>
      rw [same] at accepted
      exact absurd accepted (Nat.succ_ne_self _)
    | freed conn record ahead same => exact same ▸ free_copies
    | moved pinged queued ahead passed same =>
      rw [same]
      exact copies_subset rfl (fun _ found there => ⟨found, there, rfl⟩)
        (fun _ _ => nodes_copies server history) fun task member => task_copies member

/-- A call of `closesocket` has its handle from connections, whose copies are kept. -/
theorem closing_behalf (told : Told config (server, log))
    (known : ∀ conn record, server.memory.conns conn = some record → conn < server.accepted)
    {socket : Nat} {behalf : List Nat}
    (closes : server.closing log turn = some (socket, behalf)) :
    behalf ≠ [] ∧ ∀ conn ∈ behalf, ⟨socket, conn⟩ ∈ server.handleCopies log := by
  have single {conn : Nat} {record : CLN} (present : server.memory.conns conn = some record)
      (same : (record.socket, [conn]) = (socket, behalf)) :
      behalf ≠ [] ∧ ∀ conn ∈ behalf, ⟨socket, conn⟩ ∈ server.handleCopies log := by
    obtain ⟨rfl, rfl⟩ := Prod.mk.inj same
    refine ⟨List.cons_ne_nil _ _, fun other member => ?_⟩
    rw [List.mem_singleton.mp member]
    exact mem_handleCopies.mpr (.inl ⟨known conn record present, record, present, rfl⟩)
  cases turn with
  | event event =>
    cases event with
    | receive conn packet allocated =>
      obtain ⟨record, present, called⟩ := Option.bind_eq_some_iff.mp closes
      obtain ⟨-, same⟩ := Option.ite_none_right_eq_some.mp called
      exact single present (Option.some.inj same)
    | visit =>
      obtain ⟨entry, -, there⟩ := Option.bind_eq_some_iff.mp closes
      obtain ⟨record, present, called⟩ := Option.bind_eq_some_iff.mp there
      obtain ⟨-, same⟩ := Option.ite_none_right_eq_some.mp called
      exact single present (Option.some.inj same)
    | _ => contradiction
  | step index answer =>
    obtain ⟨task, found, called⟩ := Option.bind_eq_some_iff.mp closes
    obtain ⟨closed, closing, same⟩ := Option.map_eq_some_iff.mp called
    obtain ⟨rfl, rfl⟩ := Prod.mk.inj same
    have present : task ∈ server.tasks := List.mem_of_getElem? found
    have held : ∃ copy ∈ task.handleCopies log, copy.socket = closed := by
      unfold Task.closing at closing
      split at closing
      · rename_i other rest program
        obtain rfl := Option.some.inj closing
        exact told.handles present program
      · contradiction
    constructor
    · obtain ⟨copy, member, line⟩ := held
      have kept : copy ∈ (task.handleCopies log).filter (·.socket = closed) :=
        List.mem_filter.mpr ⟨member, decide_eq_true line⟩
      exact List.ne_nil_of_mem (List.mem_map_of_mem kept)
    · intro conn member
      obtain ⟨copy, kept, rfl⟩ := List.mem_map.mp member
      obtain ⟨own, line⟩ := List.mem_filter.mp kept
      rw [← of_decide_eq_true line]
      exact task_copies present own
  | leave index => contradiction

/-! ## The invariant -/

/-- Every copy of an open handle is of its owner. -/
structure Owned (config : Config) (now : (ServerState × List Note) × Ledger) : Prop where
  /-- The chronicle. -/
  told : Told config now.1
  /-- The connections. -/
  trail : Trail now.1
  /-- The copies. -/
  copies : ∀ copy ∈ now.1.1.handleCopies now.1.2, ∀ other,
    now.2.owner copy.socket = some other → copy.conn = other
  /-- A handle belongs to a connection that was accepted. -/
  below : ∀ socket conn, now.2.owner socket = some conn → conn < now.1.1.accepted
  /-- A connection has one handle. -/
  single : ∀ first second conn, now.2.owner first = some conn → now.2.owner second = some conn →
    first = second
  /-- A connection whose socket was closed has none. -/
  spent : ∀ conn ∈ now.2.closings.filterMap Closing.owner, conn < now.1.1.accepted ∧
    ∀ socket, now.2.owner socket ≠ some conn
  /-- The calls so far. -/
  closed : ClosedByOwner now.2

/-- Before the first connection no handle is open. -/
theorem owned_initial (config : Config) : Owned config ((.initial, []), .initial) where
  told := told_initial config
  trail := trail_initial
  copies _ _ _ belongs := by cases belongs
  below _ _ belongs := by cases belongs
  single _ _ _ belongs := by cases belongs
  spent _ member := by cases member
  closed := ⟨fun _ member => (by cases member), fun _ member => (by cases member), List.nodup_nil⟩

variable {ledger : Ledger}

/-- The owners after a handle was given out. -/
theorem accept_owner {socket other conn owner : Nat}
    (belongs : (ledger.accept socket conn).owner other = some owner) :
    (other = socket ∧ owner = conn) ∨ (other ≠ socket ∧ ledger.owner other = some owner) := by
  by_cases same : other = socket
  · subst same
    have given : (ledger.accept other conn).owner other = some conn :=
      Function.update_self other _ ledger.owner
    exact .inl ⟨rfl, Option.some.inj (belongs.symm.trans given)⟩
  · have kept : (ledger.accept socket conn).owner other = ledger.owner other :=
      Function.update_of_ne same _ ledger.owner
    exact .inr ⟨same, kept.symm.trans belongs⟩

/-- The owners after a handle was closed. -/
theorem close_owner {socket other owner : Nat} {behalf : List Nat}
    (belongs : (ledger.close socket behalf).owner other = some owner) :
    other ≠ socket ∧ ledger.owner other = some owner := by
  by_cases same : other = socket
  · subst same
    have gone : (ledger.close other behalf).owner other = none :=
      Function.update_self other _ ledger.owner
    exact absurd (gone.symm.trans belongs).symm (Option.some_ne_none _)
  · have kept : (ledger.close socket behalf).owner other = ledger.owner other :=
      Function.update_of_ne same _ ledger.owner
    exact ⟨same, kept.symm.trans belongs⟩

/-- A handle of which no copy is left is given to a new connection. -/
theorem Owned.accept {socket : Nat} (owned : Owned config ((server, log), ledger))
    (told : Told config (server.accept socket, log)) (trail : Trail (server.accept socket, log))
    (forgotten : ∀ copy ∈ server.handleCopies log, copy.socket ≠ socket) :
    Owned config ((server.accept socket, log), ledger.accept socket server.accepted) where
  told := told
  trail := trail
  copies copy member other belongs := by
    rcases accept_owner belongs with ⟨line, rfl⟩ | ⟨apart, before⟩
    · rcases accept_copies member with rfl | old
      · rfl
      · exact absurd line (forgotten copy old)
    · rcases accept_copies member with rfl | old
      · exact absurd rfl apart
      · exact owned.copies copy old other before
  below other conn belongs := by
    rcases accept_owner belongs with ⟨-, rfl⟩ | ⟨-, before⟩
    · exact Nat.lt_succ_self _
    · exact Nat.lt_succ_of_lt (owned.below other conn before)
  single first second conn one two := by
    rcases accept_owner one with ⟨rfl, rfl⟩ | ⟨-, before⟩
    · rcases accept_owner two with ⟨rfl, -⟩ | ⟨-, earlier⟩
      · rfl
      · exact absurd (owned.below second _ earlier) (lt_irrefl _)
    · rcases accept_owner two with ⟨rfl, rfl⟩ | ⟨-, earlier⟩
      · exact absurd (owned.below first _ before) (lt_irrefl _)
      · exact owned.single first second conn before earlier
  spent conn member := by
    obtain ⟨below, gone⟩ := owned.spent conn member
    refine ⟨Nat.lt_succ_of_lt below, fun other belongs => ?_⟩
    rcases accept_owner belongs with ⟨-, rfl⟩ | ⟨-, before⟩
    · exact lt_irrefl _ below
    · exact gone other before
  closed := ⟨owned.closed.behalf, owned.closed.owner, owned.closed.once⟩

/-- A turn that makes no new copies. -/
theorem Owned.frame (owned : Owned config ((server, log), ledger)) (told : Told config (after, history))
    (trail : Trail (after, history)) (accepted : after.accepted = server.accepted)
    (subset : after.handleCopies history ⊆ server.handleCopies log) :
    Owned config ((after, history), ledger) where
  told := told
  trail := trail
  copies copy member := owned.copies copy (subset member)
  below socket conn belongs := accepted.symm ▸ owned.below socket conn belongs
  single := owned.single
  spent conn member := accepted.symm ▸ owned.spent conn member
  closed := owned.closed

/-- The calls with one more. -/
theorem filterMap_close (socket : Nat) (behalf : List Nat) :
    (ledger.close socket behalf).closings.filterMap Closing.owner =
      ledger.closings.filterMap Closing.owner ++ (ledger.owner socket).toList := by
  rw [Ledger.close, List.filterMap_append]
  cases found : ledger.owner socket <;> rfl

/-- A handle is closed on behalf of connections that have copies of it. -/
theorem Owned.close {socket : Nat} {behalf : List Nat}
    (owned : Owned config ((server, log), ledger)) (nonempty : behalf ≠ [])
    (from_copies : ∀ conn ∈ behalf, ⟨socket, conn⟩ ∈ server.handleCopies log) :
    Owned config ((server, log), ledger.close socket behalf) where
  told := owned.told
  trail := owned.trail
  copies copy member other belongs := owned.copies copy member other (close_owner belongs).2
  below other conn belongs := owned.below other conn (close_owner belongs).2
  single first second conn one two :=
    owned.single first second conn (close_owner one).2 (close_owner two).2
  spent conn member := by
    rw [filterMap_close] at member
    rcases List.mem_append.mp member with old | new
    · obtain ⟨below, gone⟩ := owned.spent conn old
      exact ⟨below, fun other belongs => gone other (close_owner belongs).2⟩
    · have belonged : ledger.owner socket = some conn := Option.mem_toList.mp new
      refine ⟨owned.below socket conn belonged, fun other belongs => ?_⟩
      obtain ⟨apart, before⟩ := close_owner belongs
      exact apart (owned.single other socket conn before belonged)
  closed := by
    constructor
    · intro closing member
      rcases List.mem_append.mp member with old | new
      · exact owned.closed.behalf closing old
      · rw [List.mem_singleton.mp new]
        exact nonempty
    · intro closing member conn called other belongs
      rcases List.mem_append.mp member with old | new
      · exact owned.closed.owner closing old conn called other belongs
      · rw [List.mem_singleton.mp new] at called belongs
        exact owned.copies _ (from_copies conn called) other belongs
    · rw [filterMap_close]
      refine List.nodup_append.mpr ⟨owned.closed.once, ?_, ?_⟩
      · cases ledger.owner socket with
        | none => exact List.nodup_nil
        | some conn => exact List.pairwise_singleton _ conn
      · intro conn old other new same
        have belonged : ledger.owner socket = some other := Option.mem_toList.mp new
        exact (owned.spent conn old).2 socket (same ▸ belonged)

/-- The sockets after a turn without a call. -/
theorem after_silent {now : ServerState × List Note} (other : turn.accepts = false)
    (silent : now.1.closing now.2 turn = none) : ledger.after now turn = some ledger := by
  unfold Ledger.after
  split
  · contradiction
  · rw [silent]

/-- The sockets after a call. -/
theorem after_call {now : ServerState × List Note} {socket : Nat} {behalf : List Nat}
    (other : turn.accepts = false) (called : now.1.closing now.2 turn = some (socket, behalf)) :
    ledger.after now turn = some (ledger.close socket behalf) := by
  unfold Ledger.after
  split
  · contradiction
  · rw [called]

/-- A turn that forgets what it frees keeps every copy of an open handle with its owner. -/
theorem owned_turn (config : Config) (now : (ServerState × List Note) × Ledger) (turn : Turn)
    (next : (ServerState × List Note) × Ledger) (forgotten : Forgotten now turn)
    (owned : Owned config now) (stepped : (ledgered config).step now turn = some next) :
    Owned config next := by
  obtain ⟨⟨server, log⟩, ledger⟩ := now
  obtain ⟨⟨after, history⟩, turned, rest⟩ := Option.bind_eq_some_iff.mp stepped
  obtain ⟨later, booked, rfl⟩ := Option.map_eq_some_iff.mp rest
  have told := told_turn config _ turn _ owned.told turned
  have trail := trail_turn config _ turn _ owned.told owned.trail turned
  by_cases accepts : turn.accepts = true
  · cases turn with
    | event event =>
      cases event with
      | accept socket =>
        obtain ⟨moved, shown⟩ := observed_step.mp turned
        obtain rfl : server.accept socket = after := Option.some.inj moved
        obtain rfl : history = log := shown.trans (List.append_nil _)
        obtain ⟨-, given⟩ := Option.ite_none_right_eq_some.mp booked
        obtain rfl := Option.some.inj given
        exact owned.accept told trail forgotten
      | _ => contradiction
    | _ => contradiction
  · have other : turn.accepts = false := Bool.eq_false_of_not_eq_true accepts
    have accepted := accepted_kept (observed_step.mp turned).1 other
    have subset := turn_copies owned.told owned.trail.numbered turned other
    cases called : server.closing log turn with
    | none =>
      obtain rfl := Option.some.inj ((after_silent other called).symm.trans booked)
      exact owned.frame told trail accepted subset
    | some call =>
      obtain ⟨socket, behalf⟩ := call
      obtain rfl := Option.some.inj ((after_call other called).symm.trans booked)
      obtain ⟨nonempty, copies⟩ := closing_behalf owned.told owned.trail.numbered called
      exact (owned.close nonempty copies).frame told trail accepted subset

/-- The sockets' server in which an undefined turn may leave any state. -/
abbrev ownersOf (config : Config) :
    System (((ServerState × List Note) × Ledger) × NodeNumbers)
      (Turn × ((ServerState × List Note) × Ledger) × NodeNumbers) :=
  wild (fun now => now.1.1) (ledgered config)

/-- Before the first connection. -/
def ownersInitial : ((ServerState × List Note) × Ledger) × NodeNumbers :=
  (((.initial, []), .initial), .initial)

/-- A handle is given out when it is forgotten, and the turn is defined. -/
abbrev OwnersTurn (now : ((ServerState × List Note) × Ledger) × NodeNumbers)
    (choice : Turn × ((ServerState × List Note) × Ledger) × NodeNumbers) : Prop :=
  Forgotten now.1 choice.1 ∧ Defined (fun now => now.1.1) now choice

/-- In every run in which no turn uses memory that was freed, and a handle is given out only when no
record, request or online node and no node that a task has found still has it, every call of
`closesocket` is on behalf of no connection but the owner of its handle, and no connection's socket
is closed twice. -/
theorem closed_by_owner (config : Config)
    (choices : List (Turn × ((ServerState × List Note) × Ledger) × NodeNumbers))
    (met : (ownersOf config).Meets OwnersTurn ownersInitial choices) :
    (ownersOf config).Always (fun now => ClosedByOwner now.1.2) ownersInitial choices := by
  have stays (now : ((ServerState × List Note) × Ledger) × NodeNumbers)
      (choice : Turn × ((ServerState × List Note) × Ledger) × NodeNumbers)
      (next : ((ServerState × List Note) × Ledger) × NodeNumbers) (kept : OwnersTurn now choice)
      (owned : Owned config now.1) (stepped : (ownersOf config).step now choice = some next) :
      Owned config next.1 :=
    owned_turn config now.1 choice.1 next.1 kept.1 owned (wild_step kept.2 stepped)
  exact always_of_meets (fun _ owned => owned.closed) stays (owned_initial config) met

/-- A connection is accepted on the handle 5 and its peer leaves. -/
def leaves (conn : Nat) : List Turn := [.event (.accept 5), .event (.receive conn [] true)]

/-- Its pings fail, and a free pass finds it idle. -/
def idles : List Turn :=
  [.event (.ping [some (-1)]), .event (.ping [some (-1)]), .event (.addConnMemWait4Free true),
    .event .beginPass, .event .visit]

/-- The next free pass frees it. -/
def frees : List Turn := [.event .beginPass, .event .visit]

/-- The handle is given to a second connection after the first was freed: each is closed for its
own. -/
theorem closed_by_owner_freed :
    ((ownersOf bareConfig).run ownersInitial
      (certain ((.initial, []), .initial) (leaves 0 ++ idles ++ frees ++ leaves 1))).map
        (fun now => now.1.2.closings) = some [⟨5, [0], some 0⟩, ⟨5, [0], none⟩, ⟨5, [1], some 1⟩] ∧
    (ownersOf bareConfig).Always (fun now => ClosedByOwner now.1.2) ownersInitial
      (certain ((.initial, []), .initial) (leaves 0 ++ idles ++ frees ++ leaves 1)) :=
  ⟨by decide +kernel, closed_by_owner _ _ (by decide +kernel)⟩

/-- It is given to the second connection while the first still waits for its free pass, which then
closes it for the first: the socket that is closed is the second one's. No turn is undefined. -/
theorem idle_connection_closes_another : ∃ now,
    (ownersOf bareConfig).Meets (Defined fun now => now.1.1) ownersInitial
      (certain ((.initial, []), .initial) (leaves 0 ++ idles ++ [.event (.accept 5)] ++ frees)) ∧
    (ownersOf bareConfig).run ownersInitial
      (certain ((.initial, []), .initial) (leaves 0 ++ idles ++ [.event (.accept 5)] ++ frees)) =
        some now ∧
    now.1.2.closings = [⟨5, [0], some 0⟩, ⟨5, [0], some 1⟩] ∧ ¬ClosedByOwner now.1.2 := by
  have calls : ((ownersOf bareConfig).run ownersInitial
      (certain ((.initial, []), .initial) (leaves 0 ++ idles ++ [.event (.accept 5)] ++ frees))).map
        (fun now => now.1.2.closings) = some [⟨5, [0], some 0⟩, ⟨5, [0], some 1⟩] := by
    decide +kernel
  obtain ⟨now, reached, same⟩ := Option.map_eq_some_iff.mp calls
  refine ⟨now, by decide +kernel, reached, same, fun right => ?_⟩
  have last : ⟨5, [0], some 1⟩ ∈ now.1.2.closings := by
    rw [same]
    exact List.mem_cons_of_mem _ List.mem_cons_self
  have own : (0 : Nat) = 1 := right.owner _ last 0 List.mem_cons_self 1 rfl
  contradiction

end UubangIot
