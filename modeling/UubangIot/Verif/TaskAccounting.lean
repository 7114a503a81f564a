import Mathlib.Data.List.Perm.Basic
import UubangIot.Server.UndefinedAccess
import UubangIot.Verif.SharedMemory

/-!
# Task accounting

The counter of a connection against the tasks in the pool, and the request objects against their
frees, in every interleaving of received packets and task operations. The counter is right and
every request is freed once as long as there is memory for each request and none of them returns
early: `early` says which requests do by their content, `misses` at which answer the others do. A run
in which a turn is undefined, or a request comes to a fault, is not in it.
-/

namespace UubangIot

open Effect Effect.Prog Transition

/-- The tasks queued or running for a connection. A task runs until it takes itself off its
connection; all it has left then is to free its request. -/
def ServerState.running (server : ServerState) (conn : Nat) : Nat :=
  server.tasks.countP fun task => task.request.conn = conn && !task.ended

/-- The counters and the request objects agree with the tasks: `info[2]` is the number of running
tasks, no request is freed twice, a request without a task has been freed, and no null request was
used. -/
structure Accounted (server : ServerState) : Prop where
  /-- `conn->info[2]`. -/
  counter : ∀ conn record, server.memory.conns conn = some record →
    record.info2 = server.running conn
  /-- No request object is freed twice. -/
  once : ∀ object, server.frees object ≤ 1
  /-- A request object is freed by the time its task ends. -/
  freed : ∀ object < server.objects, (∀ task ∈ server.tasks, task.object ≠ object) →
    server.frees object = 1
  /-- No null request object was used. -/
  noNull : server.nullUsed = false

/-- A turn that keeps the books: a packet that is read has memory, and its request, if it is
admitted, does not return early; a lookup that a command or a scene depends on finds its device. -/
def Proper (server : ServerState) : Turn → Prop
  | .event (.receive conn packet allocated) => readable packet = true →
    allocated = true ∧ ∀ record, server.memory.conns conn = some record →
      admitted conn record packet = true → (snapshot conn record packet).1.early = false
  | .step index answer => ∀ task op rest response, server.tasks[index]? = some task →
    task.program = .call op rest → op.read answer = some response →
      task.request.misses ⟨op, response⟩ = false
  | _ => True

/-- A handler that is at a fault. -/
def atFault : Handler Unit → Bool
  | .call .fault _ => true
  | _ => false

/-- A turn that brings no request to a fault. -/
def Faultless (config : Config) (server : ServerState) : Turn → Prop
  | .event (.receive conn packet _) => ∀ record, server.memory.conns conn = some record →
    admitted conn record packet = true → atFault (talk config (snapshot conn record packet).1) = false
  | .step index answer => ∀ task op rest response, server.tasks[index]? = some task →
    task.program = .call op rest → op.read answer = some response → atFault (rest response) = false
  | _ => True

/-! ## One task -/

/-- The operations before the end of a task. -/
def unsettling (op : Op) : Prop := op.role ≠ .accounting

/-- The answers under which a request does not return early. -/
def served (request : CLN) (happening : Happening) : Prop := request.misses happening = false

/-- What is left of a task leads to its end. -/
def Settling (task : Task) : Prop :=
  task.program.Leads unsettling (served task.request) (· = finish task.request)

/-- Where a task stands: before its end, at its last operation, or returned. -/
def Phase (frees : Nat → Nat) (task : Task) : Prop :=
  (task.ended = false ∧ frees task.object = 0 ∧ Settling task) ∨
  (task.ended = true ∧ frees task.object = 0 ∧ task.program = perform .freeNode) ∨
  (task.ended = true ∧ frees task.object = 1 ∧ task.program = .ret ())

/-- A request that does not return early leads to the end of its task. -/
theorem talk_settles (config : Config) (request : CLN) (late : request.early = false) :
    (talk config request).Leads unsettling (served request) (· = finish request) := by
  have plain (op : Op) (quiet : op.plain) : unsettling op := by
    rw [unsettling, quiet]
    decide
  have leads : (talk config request).Leads unsettling (served request) fun rest =>
      rest = finish request ∨ (False ∧ rest = .ret ()) := by
    refine talk_leads plain config request (fun _ op session => ?_) (fun _ op key => ?_)
      (fun early => ?_) fun happening missing answer => ?_
    · rw [unsettling, session]
      decide
    · rw [unsettling, key]
      decide
    · exact Bool.noConfusion (late.symm.trans early)
    · exact Bool.noConfusion (Eq.trans (Eq.symm answer) missing)
  refine leads.mono (fun _ allowed => allowed) fun rest reached => ?_
  obtain ended | ⟨impossible, -⟩ := reached
  · exact ended
  · exact impossible.elim

/-- An operation before the end neither counts nor frees. -/
theorem unsettling_marks {op : Op} (before : unsettling op) :
    op.isDecrement = false ∧ op.isFree = false := by
  cases op <;> first
    | exact ⟨rfl, rfl⟩
    | exact absurd rfl before

/-- One operation of a task: it stays in its phases, and counts itself off exactly when it passes
from the first to the second. -/
theorem Phase.performed {frees : Nat → Nat} {task : Task} {op : Op} {rest : op.Res → Handler Unit}
    {response : op.Res} (phase : Phase frees task) (program : task.program = .call op rest)
    (answer : served task.request ⟨op, response⟩) :
    Phase (countFree frees task.object op) (task.performed op (rest response)) ∧
      (op.isDecrement = false ∨ (op = .decrementTasks task.request.conn ∧ task.ended = false)) := by
  obtain ⟨running, unfreed, settling⟩ | ⟨ended, unfreed, last⟩ | ⟨-, -, returned⟩ := phase
  · rw [Settling, program] at settling
    cases settling with
    | here reached =>
      obtain ⟨rfl, same⟩ := Prog.call.inj reached
      obtain rfl := eq_of_heq same
      exact ⟨.inr (.inl ⟨Bool.or_true _, unfreed, rfl⟩), .inr ⟨rfl, running⟩⟩
    | call first later =>
      obtain ⟨counts, frees'⟩ := unsettling_marks first
      refine ⟨.inl ⟨?_, ?_, later response answer⟩, .inl counts⟩
      · rw [Task.performed, running, counts]
        rfl
      · rw [countFree, frees']
        exact unfreed
  · rw [program] at last
    obtain ⟨rfl, same⟩ := Prog.call.inj last
    obtain rfl := eq_of_heq same
    have freed : countFree frees task.object .freeNode task.object = 1 := by
      simp [countFree, Op.isFree, unfreed]
    have marked : (task.ended || Op.freeNode.isDecrement) = true := by rw [ended, Bool.true_or]
    exact ⟨.inr (.inr ⟨marked, freed, rfl⟩), .inl rfl⟩
  · rw [program] at returned
    contradiction

/-- The frees of other requests do not move a task. -/
theorem Phase.frame {frees later : Nat → Nat} {task : Task} (phase : Phase frees task)
    (same : later task.object = frees task.object) : Phase later task := by
  obtain ⟨running, unfreed, settling⟩ | ⟨ended, unfreed, last⟩ | ⟨ended, freed, returned⟩ := phase
  · exact .inl ⟨running, same.trans unfreed, settling⟩
  · exact .inr (.inl ⟨ended, same.trans unfreed, last⟩)
  · exact .inr (.inr ⟨ended, same.trans freed, returned⟩)

/-- No phase has freed its request twice. -/
theorem Phase.once {frees : Nat → Nat} {task : Task} (phase : Phase frees task) :
    frees task.object ≤ 1 := by
  obtain ⟨-, unfreed, -⟩ | ⟨-, unfreed, -⟩ | ⟨-, freed, -⟩ := phase
  · omega
  · omega
  · omega

/-! ## The books of the server -/

/-- What every turn that is proper keeps. -/
structure Books (server : ServerState) : Prop where
  /-- The counters, which stay in the range of the byte they are compared as. -/
  counter : ∀ conn record, server.memory.conns conn = some record →
    record.taskNum = server.running conn ∧ record.taskNum ≤ 120
  /-- The tasks. -/
  phases : ∀ task ∈ server.tasks, Phase server.frees task
  /-- No two tasks share a request. -/
  distinct : (server.tasks.map Task.object).Nodup
  /-- A task's request and its connection have been numbered. -/
  numbered : ∀ task ∈ server.tasks,
    task.object < server.objects ∧ task.request.conn < server.accepted
  /-- A connection has been numbered. -/
  accepted : ∀ conn record, server.memory.conns conn = some record → conn < server.accepted
  /-- An object that has not been allocated has not been freed. -/
  unused : ∀ object, server.objects ≤ object → server.frees object = 0
  /-- An object without a task has been freed. -/
  gone : ∀ object < server.objects, (∀ task ∈ server.tasks, task.object ≠ object) →
    server.frees object = 1
  /-- No null request was used. -/
  noNull : server.nullUsed = false

/-- The counter as the source compares it. -/
theorem info2_of_bounds {record : CLN} (low : 0 ≤ record.taskNum) (high : record.taskNum ≤ 120) :
    record.info2 = record.taskNum :=
  Int8.toInt_ofInt_of_le (by omega) (by omega)

/-- Kept books are what the accounting is about. -/
theorem Books.accounted {server : ServerState} (books : Books server) : Accounted server where
  counter conn record known := by
    obtain ⟨count, high⟩ := books.counter conn record known
    have low : 0 ≤ record.taskNum := by omega
    rw [info2_of_bounds low high, count]
  once object := by
    by_cases allocated : object < server.objects
    · by_cases held : ∀ task ∈ server.tasks, task.object ≠ object
      · exact (books.gone object allocated held).le
      · push Not at held
        obtain ⟨task, member, rfl⟩ := held
        exact (books.phases task member).once
    · rw [books.unused object (not_lt.mp allocated)]
      exact Nat.zero_le 1
  freed := books.gone
  noNull := books.noNull

/-- The books at the start. -/
theorem books_initial : Books .initial where
  counter _ _ known := nomatch known
  phases _ member := nomatch member
  distinct := List.nodup_nil
  numbered _ member := nomatch member
  accepted _ _ known := nomatch known
  unused _ _ := rfl
  gone _ below _ := absurd below (Nat.not_lt_zero _)
  noNull := rfl

/-- A turn that leaves tasks and requests alone and changes no counter, but for new connections
with none. -/
theorem Books.frame {server next : ServerState} (books : Books server)
    (tasks : next.tasks = server.tasks) (objects : next.objects = server.objects)
    (frees : next.frees = server.frees) (nullUsed : next.nullUsed = server.nullUsed)
    (grown : server.accepted ≤ next.accepted)
    (conns : ∀ conn record, next.memory.conns conn = some record →
      (∃ before, server.memory.conns conn = some before ∧ record.taskNum = before.taskNum) ∨
      (record.taskNum = 0 ∧ server.accepted ≤ conn ∧ conn < next.accepted)) : Books next where
  counter conn record known := by
    rw [ServerState.running, tasks]
    obtain ⟨before, old, same⟩ | ⟨none, fresh, -⟩ := conns conn record known
    · rw [same]
      exact books.counter conn before old
    · have idle : server.tasks.countP (fun task => task.request.conn = conn && !task.ended) = 0 := by
        rw [List.countP_eq_zero]
        intro task member
        have numbered := (books.numbered task member).2
        have other : task.request.conn ≠ conn := by omega
        simp [other]
      rw [none, idle]
      exact ⟨rfl, by omega⟩
  phases task member := by
    rw [frees]
    exact books.phases task (tasks ▸ member)
  distinct := by
    rw [tasks]
    exact books.distinct
  numbered task member := by
    obtain ⟨object, conn⟩ := books.numbered task (tasks ▸ member)
    exact ⟨objects ▸ object, conn.trans_le grown⟩
  accepted conn record known := by
    obtain ⟨before, old, -⟩ | ⟨-, -, below⟩ := conns conn record known
    · exact (books.accepted conn before old).trans_le grown
    · exact below
  unused object above := by
    rw [frees]
    exact books.unused object (objects ▸ above)
  gone object below free := by
    rw [frees]
    exact books.gone object (objects ▸ below) (tasks ▸ free)
  noNull := nullUsed.trans books.noNull

/-- A greeted record keeps its counter. -/
theorem Greeted.taskNum {record later : CLN} (greeted : Greeted record later) :
    later.taskNum = record.taskNum := by
  obtain ⟨_, _, rfl⟩ := greeted
  rfl

/-- A request returns early or not whatever its handshake. -/
theorem Copied.early {handle : Nat} {record request : CLN} {packet : Bytes}
    (copied : Copied handle record packet request) :
    request.early = (snapshot handle record packet).1.early := by
  obtain ⟨_, rfl⟩ := copied
  rfl

/-- A request belongs to the connection it came on. -/
theorem Copied.conn {handle : Nat} {record request : CLN} {packet : Bytes}
    (copied : Copied handle record packet request) : request.conn = handle := by
  obtain ⟨_, rfl⟩ := copied
  exact (snapshot_fields handle record packet).1

/-- A request that was freed at once. -/
theorem Books.refuse {server : ServerState} (books : Books server) {conn : Nat}
    {record later : CLN} (known : server.memory.conns conn = some record)
    (greeted : Greeted record later) :
    Books { server.store conn later with
      objects := server.objects + 1
      frees := Function.update server.frees server.objects 1 } := by
  have stored : Books (server.store conn later) := by
    refine books.frame rfl rfl rfl rfl le_rfl fun other found present => ?_
    obtain ⟨before, old, rfl⟩ := write_record present
    refine .inl ⟨before, old, ?_⟩
    split
    · rename_i same
      subst same
      obtain rfl := Option.some.inj (known.symm.trans old)
      exact greeted.taskNum
    · rfl
  have elsewhere (object : Nat) (other : object ≠ server.objects) :
      Function.update server.frees server.objects 1 object = server.frees object :=
    Function.update_of_ne other _ _
  refine { stored with phases := ?_, numbered := ?_, unused := ?_, gone := ?_ }
  · intro task member
    have below := (books.numbered task member).1
    exact (books.phases task member).frame (elsewhere _ (by omega))
  · intro task member
    obtain ⟨below, conn⟩ := books.numbered task member
    exact ⟨below.trans (Nat.lt_succ_self _), conn⟩
  · intro object above
    have above : server.objects + 1 ≤ object := above
    exact (elsewhere object (by omega)).trans (books.unused object (by omega))
  · intro object below free
    have below : object < server.objects + 1 := below
    by_cases new : object = server.objects
    · subst new
      exact Function.update_self _ _ _
    · exact (elsewhere object new).trans (books.gone object (by omega) free)

/-- A request that was handed to the pool. -/
theorem Books.enqueue {server : ServerState} (books : Books server) {conn : Nat}
    {record later request : CLN} {program : Handler Unit}
    (known : server.memory.conns conn = some record) (greeted : Greeted record later)
    (room : later.info2 < 120) (owner : request.conn = conn)
    (settling : Settling ⟨request, server.objects, program, false⟩) :
    Books { server.store conn { later with taskNum := later.taskNum + 1 } with
      objects := server.objects + 1
      tasks := server.tasks ++ [⟨request, server.objects, program, false⟩] } where
  counter other found present := by
    obtain ⟨before, old, rfl⟩ := write_record present
    obtain ⟨count, high⟩ := books.counter other before old
    have counted : List.countP (fun task : Task => task.request.conn = other && !task.ended)
        (server.tasks ++ [⟨request, server.objects, program, false⟩]) =
        server.running other + if other = conn then 1 else 0 := by
      rw [List.countP_append, List.countP_singleton, ServerState.running, owner]
      simp [eq_comm]
    rw [ServerState.running, counted]
    split
    · rename_i same
      subst same
      obtain rfl := Option.some.inj (known.symm.trans old)
      have number := greeted.taskNum
      have small : later.taskNum < 120 := by
        have compared : later.info2 = later.taskNum := info2_of_bounds (by omega) (by omega)
        omega
      exact ⟨by simp; omega, by simp; omega⟩
    · exact ⟨by simpa using count, high⟩
  phases task member := by
    rcases List.mem_append.mp member with old | new
    · exact books.phases task old
    · obtain rfl := List.mem_singleton.mp new
      exact .inl ⟨rfl, books.unused _ le_rfl, settling⟩
  distinct := by
    rw [List.map_append, List.nodup_append]
    refine ⟨books.distinct, by simp, fun object old new fresh same => ?_⟩
    obtain ⟨task, member, rfl⟩ := List.mem_map.mp old
    have below := (books.numbered task member).1
    have number : new = server.objects := by simpa using fresh
    omega
  numbered task member := by
    rcases List.mem_append.mp member with old | new
    · obtain ⟨below, conn⟩ := books.numbered task old
      exact ⟨below.trans (Nat.lt_succ_self _), conn⟩
    · obtain rfl := List.mem_singleton.mp new
      refine ⟨Nat.lt_succ_self _, ?_⟩
      rw [owner]
      exact books.accepted conn record known
  accepted other found present := by
    obtain ⟨before, old, -⟩ := write_record present
    exact books.accepted other before old
  unused object above := books.unused object ((Nat.le_succ _).trans above)
  gone object below free := by
    have old (task : Task) (member : task ∈ server.tasks) : task.object ≠ object :=
      free task (List.mem_append_left _ member)
    have new : server.objects ≠ object :=
      free ⟨request, server.objects, program, false⟩ (List.mem_append_right _ (by simp))
    have below : object < server.objects + 1 := below
    exact books.gone object (by omega) old
  noNull := books.noNull

/-- A packet that is received keeps the books of the tasks. -/
theorem Books.receive {config : Config} {server next : ServerState} {conn : Nat} {packet : Bytes}
    {allocated : Bool} (books : Books server)
    (proper : Proper server (.event (.receive conn packet allocated)))
    (received : server.receive config conn packet allocated = some next) : Books next := by
  obtain ⟨record, known, outcome⟩ := receive_cases received
  obtain ⟨-, rfl⟩ | ⟨read, missing, -⟩ | ⟨later, greeted, rfl⟩ |
    ⟨admits, read, later, request, greeted, room, copied, rfl⟩ := outcome
  · exact books
  · exact Bool.noConfusion (missing.symm.trans (proper read).1)
  · exact books.refuse known greeted
  · have late : request.early = false :=
      copied.early.trans ((proper read).2 record known admits)
    exact books.enqueue known greeted room copied.conn (talk_settles config request late)

/-- The free counts of other objects. -/
theorem countFree_of_ne (frees : Nat → Nat) {object other : Nat} (op : Op)
    (different : other ≠ object) : countFree frees object op other = frees other := by
  unfold countFree
  split
  · exact Function.update_of_ne different _ _
  · rfl

/-- A write other than the decrement keeps every counter. -/
theorem writes_taskNum {op : Op} (counts : op.isDecrement = false) (conn : Nat)
    (change : CLN → CLN) (written : op.writes = some (conn, change)) (record : CLN) :
    (change record).taskNum = record.taskNum := by
  cases op <;> simp only [Op.writes, Op.isDecrement, Option.some.injEq, Prod.mk.injEq,
    Bool.true_eq_false, reduceCtorEq] at written counts
  all_goals
    obtain ⟨-, rfl⟩ := written
    rfl

section

variable {server : ServerState} {index : Nat} {task : Task}

/-- The pool is a task and the others. -/
theorem pool_perm (found : server.tasks[index]? = some task) :
    server.tasks.Perm (task :: server.tasks.eraseIdx index) := by
  obtain ⟨below, rfl⟩ := List.getElem?_eq_some_iff.mp found
  exact (List.getElem_cons_eraseIdx_perm below).symm

/-- The pool after an operation of the task. -/
theorem pool_set_perm (found : server.tasks[index]? = some task) (later : Task) :
    (server.tasks.set index later).Perm (later :: server.tasks.eraseIdx index) := by
  obtain ⟨below, -⟩ := List.getElem?_eq_some_iff.mp found
  exact List.set_perm_cons_eraseIdx below later

/-- The others do not hold the task's request. -/
theorem Books.others (books : Books server) (found : server.tasks[index]? = some task) :
    ((server.tasks.eraseIdx index).map Task.object).Nodup ∧
      ∀ other ∈ server.tasks.eraseIdx index, other.object ≠ task.object := by
  have distinct := ((pool_perm found).map Task.object).nodup_iff.mp books.distinct
  rw [List.map_cons, List.nodup_cons] at distinct
  refine ⟨distinct.2, fun other member same => distinct.1 ?_⟩
  exact same ▸ List.mem_map_of_mem member

/-- Running tasks, the task first. -/
theorem running_perm {tasks others : List Task} {first : Task} (conn : Nat)
    (perm : tasks.Perm (first :: others)) :
    tasks.countP (fun task => task.request.conn = conn && !task.ended) =
      others.countP (fun task => task.request.conn = conn && !task.ended) +
        if (first.request.conn = conn && !first.ended) = true then 1 else 0 := by
  rw [perm.countP_eq, List.countP_cons]

/-- An operation of a task. -/
theorem Books.step {next : ServerState} {answer : Answer} (books : Books server)
    (proper : Proper server (.step index answer))
    (stepped : server.step index answer = some next) : Books next := by
  obtain ⟨task, op, rest, response, memory, found, program, read, after, rfl⟩ :=
    step_cases stepped
  have old := pool_perm found
  have member : task ∈ server.tasks := List.mem_of_getElem? found
  have new := pool_set_perm found (task.performed op (rest response))
  obtain ⟨distinct, apart⟩ := books.others found
  obtain ⟨phase, marks⟩ := (books.phases task member).performed program
    (proper task op rest response found program read)
  have others (other : Task) (present : other ∈ server.tasks.eraseIdx index) :
      other ∈ server.tasks := List.mem_of_mem_eraseIdx present
  refine ⟨?_, ?_, ?_, ?_, ?_, ?_, ?_, books.noNull⟩
  · -- the counters: only the decrement moves one, and it takes the task off as well
    intro conn record known
    have before := running_perm conn old
    have later := running_perm conn new
    rw [ServerState.running, later]
    obtain plain | ⟨rfl, running⟩ := marks
    · obtain ⟨previous, earlier, same⟩ :=
        after_field CLN.taskNum (writes_taskNum plain) after known
      obtain ⟨count, high⟩ := books.counter conn previous earlier
      rw [ServerState.running, before] at count
      have kept : (task.performed op (rest response)).ended = task.ended := by
        rw [Task.performed, plain, Bool.or_false]
      rw [kept, same]
      exact ⟨count, high⟩
    · obtain ⟨previous, earlier, same⟩ := after_record after known
      obtain ⟨count, high⟩ := books.counter conn previous earlier
      rw [ServerState.running, before] at count
      have ended : (task.performed (.decrementTasks task.request.conn) (rest response)).ended =
          true := Bool.or_true _
      rw [ended, same]
      by_cases own : conn = task.request.conn
      · subst own
        simp [running] at count
        simp [Op.writes]
        omega
      · simp [Ne.symm own] at count
        simp [Op.writes, own]
        omega
  · intro other present
    rcases List.mem_cons.mp (new.mem_iff.mp present) with rfl | present
    · exact phase
    · exact (books.phases other (others other present)).frame
        (countFree_of_ne _ op (apart other present))
  · refine (new.map Task.object).nodup_iff.mpr ?_
    rw [List.map_cons, List.nodup_cons]
    refine ⟨fun held => ?_, distinct⟩
    obtain ⟨other, present, same⟩ := List.mem_map.mp held
    exact apart other present same
  · intro other present
    rcases List.mem_cons.mp (new.mem_iff.mp present) with rfl | present
    · exact books.numbered task member
    · exact books.numbered other (others other present)
  · intro conn record known
    obtain ⟨before, known, -⟩ := after_record after known
    exact books.accepted conn before known
  · intro object above
    have below := (books.numbered task member).1
    have above : server.objects ≤ object := above
    exact (countFree_of_ne _ op (by omega)).trans (books.unused object above)
  · intro object below free
    have own : object ≠ task.object := by
      exact (free _ (new.mem_iff.mpr List.mem_cons_self)).symm
    refine (countFree_of_ne _ op own).trans (books.gone object below fun other present => ?_)
    rcases List.mem_cons.mp (old.mem_iff.mp present) with rfl | present
    · exact own.symm
    · exact free other (new.mem_iff.mpr (List.mem_cons_of_mem _ present))

/-- A task that has returned leaves the pool. -/
theorem Books.leave {next : ServerState} (books : Books server)
    (left : server.leave index = some next) : Books next := by
  obtain ⟨task, found, returned, rfl⟩ := leave_cases left
  have old := pool_perm found
  have member : task ∈ server.tasks := List.mem_of_getElem? found
  obtain ⟨distinct, apart⟩ := books.others found
  have others (other : Task) (present : other ∈ server.tasks.eraseIdx index) :
      other ∈ server.tasks := List.mem_of_mem_eraseIdx present
  -- a task that has returned is in its last phase
  obtain ⟨ended, freed⟩ : task.ended = true ∧ server.frees task.object = 1 := by
    obtain ⟨-, -, settling⟩ | ⟨-, -, last⟩ | ⟨ended, freed, -⟩ := books.phases task member
    · rw [Settling, returned] at settling
      cases settling with
      | here reached => exact nomatch reached
    · exact nomatch returned.symm.trans last
    · exact ⟨ended, freed⟩
  refine { books with counter := ?_, phases := ?_, distinct := distinct, numbered := ?_, gone := ?_ }
  · intro conn record known
    have count := running_perm conn old
    obtain ⟨counted, high⟩ := books.counter conn record known
    rw [ServerState.running, count] at counted
    simp [ended] at counted
    exact ⟨counted, high⟩
  · exact fun other present => books.phases other (others other present)
  · exact fun other present => books.numbered other (others other present)
  · intro object below free
    by_cases own : object = task.object
    · exact own ▸ freed
    · refine books.gone object below fun other present => ?_
      rcases List.mem_cons.mp (old.mem_iff.mp present) with rfl | present
      · exact Ne.symm own
      · exact free other present

end

/-- An event around the handlers. -/
theorem Books.on {config : Config} {server next : ServerState} {event : ServerEvent}
    (books : Books server) (proper : Proper server (.event event))
    (happened : server.on config event = some next) : Books next := by
  cases event with
  | accept socket =>
    obtain rfl := Option.some.inj happened
    refine books.frame rfl rfl rfl rfl (Nat.le_succ _) fun conn record known => ?_
    obtain ⟨rfl, rfl⟩ | ⟨-, old⟩ := accept_record known
    · exact .inr ⟨rfl, le_rfl, Nat.lt_succ_self _⟩
    · exact .inl ⟨record, old, rfl⟩
  | receive conn packet allocated => exact books.receive proper happened
  | ping lens =>
    obtain rfl := Option.some.inj happened
    exact books.frame rfl rfl rfl rfl le_rfl fun _ record known => .inl ⟨record, known, rfl⟩
  | addConnMemWait4Free allocated =>
    obtain ⟨queued, passed, rfl⟩ := addConnMemWait4Free_cases happened
    exact books.frame rfl rfl rfl rfl le_rfl fun _ record known => .inl ⟨record, known, rfl⟩
  | beginPass =>
    obtain rfl := beginPass_cases happened
    exact books.frame rfl rfl rfl rfl le_rfl fun _ record known => .inl ⟨record, known, rfl⟩
  | visit =>
    obtain ⟨entry, rest, -, outcome⟩ := visit_cases happened
    obtain ⟨-, rfl⟩ | ⟨freed, -, ⟨-, rfl⟩ | ⟨-, rfl⟩⟩ := outcome
    · exact books.frame rfl rfl rfl rfl le_rfl fun _ record known => .inl ⟨record, known, rfl⟩
    · refine books.frame rfl rfl rfl rfl le_rfl fun conn record known => ?_
      exact .inl ⟨record, (freeConn_record known).2, rfl⟩
    · exact books.frame rfl rfl rfl rfl le_rfl fun _ record known => .inl ⟨record, known, rfl⟩

/-- A proper turn keeps the books of the tasks. -/
theorem Books.turn (config : Config) (server : ServerState) (turn : Turn) (next : ServerState)
    (proper : Proper server turn) (books : Books server)
    (turned : server.turn config turn = some next) : Books next := by
  cases turn with
  | event event => exact books.on proper turned
  | step index answer => exact books.step proper turned
  | leave index => exact books.leave turned

/-- Every path of a request that does not return early ends its task once: one decrement of its
own connection, then one free of the request. -/
theorem talk_ends_once (config : Config) (request : CLN) (late : request.early = false)
    (trace : List Happening) (path : (talk config request).Path trace ())
    (answered : ∀ happening ∈ trace, request.misses happening = false) :
    ∃ before, trace = before ++ [⟨.decrementTasks request.conn, ()⟩, ⟨.freeNode, ()⟩] ∧
      ∀ happening ∈ before,
        happening.1.isDecrement = false ∧ happening.1.isFree = false := by
  obtain ⟨before, rest, after, rfl, bounded, rfl, last⟩ :=
    (talk_settles config request late).path path answered
  obtain ⟨_, _, rfl, _, _, rfl, rfl, -⟩ := last
  exact ⟨before, rfl, fun happening member => unsettling_marks (bounded happening member)⟩

/-- A server without a digest. -/
def bareConfig : Config := ⟨id, []⟩

/-- A new connection sends its handshake. -/
def greeting : List Turn := [.event (.accept 5), .event (.receive 0 (text "ZYXX1226") true)]

end UubangIot
