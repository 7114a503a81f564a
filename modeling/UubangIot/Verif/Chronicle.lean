import UubangIot.Verif.SharedMemory

/-!
# The chronicle of a run

Every run of the server with the packets it has received and the operations its tasks have
performed, in their order. At any time the operations of a task are the first ones of its request.
-/

namespace UubangIot

open Effect Effect.Prog Transition Transition.System

/-- What a chronicle tells. -/
inductive Note
  /-- A packet was received on a connection with a record, and numbered by the next object. -/
  | received (conn : Nat) (record : CLN) (packet : Bytes) (allocated : Bool) (object : Nat)
  /-- The task of a request object performed an operation. -/
  | did (object : Nat) (happening : Happening)

/-- What a turn adds. -/
def ServerState.notes (server : ServerState) : Turn → List Note
  | .event (.receive conn packet allocated) =>
    ((server.memory.conns conn).map
      fun record => .received conn record packet allocated server.objects).toList
  | .step index answer =>
    match server.tasks[index]? with
    | none => []
    | some task =>
      match task.program with
      | .ret _ => []
      | .call op _ => ((op.read answer).map fun response => .did task.object ⟨op, response⟩).toList
  | _ => []

/-- The server with its chronicle. -/
def chronicled (config : Config) : System (ServerState × List Note) Turn :=
  (interleaved config).observed ServerState.notes

/-- The request a packet is handed to the pool as. -/
def requestOf (conn : Nat) (record : CLN) (packet : Bytes) (allocated : Bool) : Option CLN :=
  match serverWork conn record packet allocated with
  | .dispatched _ _ request => some request
  | _ => none

/-- It is copied from its connection. -/
theorem requestOf_copied {conn : Nat} {record : CLN} {packet : Bytes} {allocated : Bool}
    {request : CLN} (asks : requestOf conn record packet allocated = some request) :
    Copied conn record packet request := by
  rw [requestOf] at asks
  obtain ⟨-, worked⟩ | ⟨-, -, sent, worked⟩ | ⟨-, -, -, later, sent, -, worked⟩ |
    ⟨-, -, -, later, sent, found, -, -, copied, worked⟩ :=
    serverWork_cases conn record packet allocated
  · rw [worked] at asks
    cases asks
  · rw [worked] at asks
    cases asks
  · rw [worked] at asks
    cases asks
  · rw [worked] at asks
    rw [← Option.some.inj asks]
    exact copied

/-- The object and the request of a packet that was handed to the pool. -/
def Note.request : Note → Option (Nat × CLN)
  | .received conn record packet allocated object =>
    (requestOf conn record packet allocated).map fun request => (object, request)
  | .did _ _ => none

/-- The chronicle tells of a request. -/
def Requested (log : List Note) (object : Nat) (request : CLN) : Prop :=
  ∃ note ∈ log, note.request = some (object, request)

/-- The operation of an object. -/
def Note.deed (object : Nat) : Note → Option Happening
  | .did other happening => if other = object then some happening else none
  | .received _ _ _ _ _ => none

/-- The operations of an object. -/
def deeds (log : List Note) (object : Nat) : List Happening := log.filterMap (Note.deed object)

/-! ## Turns -/

variable {config : Config} {server after : ServerState} {log history : List Note} {turn : Turn}

/-- The events around the handlers other than packets. -/
inductive Passes (server after : ServerState) : Prop
  /-- A connection was accepted. -/
  | accepted (socket : Nat) (same : after = server.accept socket)
  /-- A connection was freed. -/
  | freed (conn : Nat) (record : CLN) (ahead : List Waiting)
      (same : after = { server with memory := server.memory.freeConn conn record, ahead })
  /-- The lists of connections changed. -/
  | moved (pinged : List Waiting) (queued : List Nat) (ahead passed : List Waiting)
      (same : after = { server with pinged, queued, ahead, passed })

/-- They leave the tasks and make no request. -/
theorem Passes.same (passes : Passes server after) :
    after.tasks = server.tasks ∧ after.objects = server.objects := by
  cases passes with
  | accepted socket same => exact same ▸ ⟨rfl, rfl⟩
  | freed conn record ahead same => exact same ▸ ⟨rfl, rfl⟩
  | moved pinged queued ahead passed same => exact same ▸ ⟨rfl, rfl⟩

/-- A turn is a packet, an operation, the end of a task or an event around the handlers. -/
theorem chronicled_cases (turned : (chronicled config).step (server, log) turn = some (after, history)) :
    (∃ conn record packet allocated, turn = .event (.receive conn packet allocated) ∧
      server.memory.conns conn = some record ∧
      server.receive config conn packet allocated = some after ∧
      history = log ++ [.received conn record packet allocated server.objects]) ∨
    (∃ index answer task op rest response memory, turn = .step index answer ∧
      server.tasks[index]? = some task ∧ task.program = .call op rest ∧
      op.read answer = some response ∧ server.memory.after ⟨op, response⟩ = some memory ∧
      after = { server with
        memory
        frees := countFree server.frees task.object op
        tasks := server.tasks.set index (task.performed op (rest response)) } ∧
      history = log ++ [.did task.object ⟨op, response⟩]) ∨
    (∃ index task, turn = .leave index ∧ server.tasks[index]? = some task ∧
      task.program = .ret () ∧ after = { server with tasks := server.tasks.eraseIdx index } ∧
      history = log) ∨
    (Passes server after ∧ history = log) := by
  have observed := observed_step.mp turned
  dsimp only at observed
  obtain ⟨stepped, shown⟩ := observed
  cases turn with
  | event event =>
    cases event with
    | receive conn packet allocated =>
      have received : server.receive config conn packet allocated = some after := stepped
      obtain ⟨record, known, -⟩ := receive_cases received
      refine .inl ⟨conn, record, packet, allocated, rfl, known, received, ?_⟩
      rw [shown, ServerState.notes, known]
      rfl
    | accept socket =>
      have same := Option.some.inj stepped
      exact .inr (.inr (.inr ⟨.accepted socket same.symm, shown.trans (List.append_nil _)⟩))
    | ping lens =>
      have same := Option.some.inj stepped
      exact .inr (.inr (.inr ⟨.moved _ _ _ _ same.symm, shown.trans (List.append_nil _)⟩))
    | addConnMemWait4Free allocated =>
      obtain ⟨queued, passed, same⟩ := addConnMemWait4Free_cases stepped
      exact .inr (.inr (.inr ⟨.moved _ _ _ _ same, shown.trans (List.append_nil _)⟩))
    | beginPass =>
      exact .inr (.inr (.inr ⟨.moved _ _ _ _ (beginPass_cases stepped),
        shown.trans (List.append_nil _)⟩))
    | visit =>
      obtain ⟨entry, rest, -, outcome⟩ := visit_cases stepped
      refine .inr (.inr (.inr ⟨?_, shown.trans (List.append_nil _)⟩))
      obtain ⟨-, same⟩ | ⟨record, -, ⟨-, same⟩ | ⟨-, same⟩⟩ := outcome
      · exact .moved _ _ _ _ same
      · exact .freed _ _ _ same
      · exact .moved _ _ _ _ same
  | step index answer =>
    obtain ⟨task, op, rest, response, memory, found, program, read, written, same⟩ :=
      step_cases stepped
    refine .inr (.inl ⟨index, answer, task, op, rest, response, memory, rfl, found, program, read,
      written, same, ?_⟩)
    rw [shown, ServerState.notes, found]
    dsimp only
    rw [program]
    dsimp only
    rw [read]
    rfl
  | leave index =>
    obtain ⟨task, found, returned, same⟩ := leave_cases stepped
    exact .inr (.inr (.inl ⟨index, task, rfl, found, returned, same,
      shown.trans (List.append_nil _)⟩))

/-! ## The operations of a request -/

/-- The chronicle has every request and its operations, in the pool or over. -/
structure Told (config : Config) (now : ServerState × List Note) : Prop where
  /-- The objects of requests have been allocated. -/
  numbered : ∀ object request, Requested now.2 object request → object < now.1.objects
  /-- An object has one request. -/
  single : ∀ object first second, Requested now.2 object first → Requested now.2 object second →
    first = second
  /-- Operations are those of requests. -/
  acted : ∀ object happening, .did object happening ∈ now.2 →
    ∃ request, Requested now.2 object request
  /-- A task in the pool has done the first operations of its request. -/
  pooled : ∀ task ∈ now.1.tasks, Requested now.2 task.object task.request ∧
    Comes (talk config task.request) (deeds now.2 task.object) task.program
  /-- Every object has one task. -/
  distinct : (now.1.tasks.map Task.object).Nodup
  /-- A request without a task has been handled. -/
  gone : ∀ object request, Requested now.2 object request →
    (∀ task ∈ now.1.tasks, task.object ≠ object) →
    (talk config request).Path (deeds now.2 object) ()

/-- A packet is told of as the task it makes. -/
theorem receive_request {conn : Nat} {record : CLN} {packet : Bytes} {allocated : Bool}
    (known : server.memory.conns conn = some record)
    (received : server.receive config conn packet allocated = some after) :
    (requestOf conn record packet allocated = none ∧ after.tasks = server.tasks ∧
      server.objects ≤ after.objects) ∨
    ∃ request, requestOf conn record packet allocated = some request ∧
      after.objects = server.objects + 1 ∧
      after.tasks = server.tasks ++ [⟨request, server.objects, talk config request, false⟩] := by
  rw [ServerState.receive, known] at received
  dsimp only at received
  rw [requestOf]
  cases worked : serverWork conn record packet allocated with
  | closed =>
    rw [worked] at received
    obtain rfl := Option.some.inj received
    exact .inl ⟨rfl, rfl, le_rfl⟩
  | nullRequest sent =>
    rw [worked] at received
    obtain rfl := Option.some.inj received
    exact .inl ⟨rfl, rfl, le_rfl⟩
  | refused later sent =>
    rw [worked] at received
    obtain rfl := Option.some.inj received
    exact .inl ⟨rfl, rfl, Nat.le_succ _⟩
  | dispatched later sent request =>
    rw [worked] at received
    obtain rfl := Option.some.inj received
    exact .inr ⟨request, rfl, rfl, rfl⟩

/-- A request of a longer chronicle. -/
theorem requested_append {notes : List Note} {object : Nat} {request : CLN} :
    Requested (log ++ notes) object request ↔
      Requested log object request ∨ Requested notes object request := by
  simp only [Requested, List.mem_append, or_and_right, exists_or]

/-- A single note tells of its own request. -/
theorem requested_singleton {note : Note} {object : Nat} {request : CLN} :
    Requested [note] object request ↔ note.request = some (object, request) := by
  simp [Requested]

/-- A note that is no operation of an object. -/
theorem deeds_snoc_of_none {note : Note} {object : Nat} (still : note.deed object = none) :
    deeds (log ++ [note]) object = deeds log object := by
  have last : [note].filterMap (Note.deed object) = [] := List.filterMap_cons_none still
  rw [deeds, List.filterMap_append, last, List.append_nil, deeds]

/-- One more operation of an object. -/
theorem deeds_snoc_did (log : List Note) (object : Nat) (happening : Happening) :
    deeds (log ++ [.did object happening]) object = deeds log object ++ [happening] := by
  have last : [Note.did object happening].filterMap (Note.deed object) = [happening] :=
    List.filterMap_cons_some (if_pos rfl)
  rw [deeds, List.filterMap_append, last, deeds]

/-- An operation of another object. -/
theorem deeds_snoc_other (log : List Note) {object other : Nat} (different : object ≠ other)
    (happening : Happening) : deeds (log ++ [.did object happening]) other = deeds log other :=
  deeds_snoc_of_none (if_neg different)

/-- A request that is handled has come to its end. -/
theorem Told.comes {now : ServerState × List Note} (told : Told config now) {object : Nat}
    {request : CLN} (requested : Requested now.2 object request) :
    ∃ rest, Comes (talk config request) (deeds now.2 object) rest := by
  by_cases pooled : ∃ task ∈ now.1.tasks, task.object = object
  · obtain ⟨task, member, rfl⟩ := pooled
    obtain ⟨asked, comes⟩ := told.pooled task member
    rw [told.single _ _ _ requested asked]
    exact ⟨_, comes⟩
  · refine ⟨_, comes_ret.mpr (told.gone object request requested fun task member same => ?_)⟩
    exact pooled ⟨task, member, same⟩

/-- Nothing is told before the first turn. -/
theorem told_initial (config : Config) : Told config (.initial, []) where
  numbered _ _ requested := by
    obtain ⟨note, member, -⟩ := requested
    cases member
  single _ _ _ requested := by
    obtain ⟨note, member, -⟩ := requested
    cases member
  acted _ _ member := by cases member
  pooled _ member := by cases member
  distinct := List.nodup_nil
  gone _ _ requested := by
    obtain ⟨note, member, -⟩ := requested
    cases member

/-- Where neither the tasks nor the requests change. -/
theorem Told.same (told : Told config (server, log)) (tasks : after.tasks = server.tasks)
    (objects : server.objects ≤ after.objects) {note : Note} (silent : note.request = none)
    (still : ∀ object, note.deed object = none) : Told config (after, log ++ [note]) := by
  have requests (object : Nat) (request : CLN) :
      Requested (log ++ [note]) object request ↔ Requested log object request := by
    rw [requested_append, requested_singleton, silent]
    simp
  have same (object : Nat) : deeds (log ++ [note]) object = deeds log object :=
    deeds_snoc_of_none (still object)
  constructor
  · intro object request requested
    exact (told.numbered object request ((requests _ _).mp requested)).trans_le objects
  · intro object first second one two
    exact told.single object first second ((requests _ _).mp one) ((requests _ _).mp two)
  · intro object happening member
    rcases List.mem_append.mp member with old | new
    · obtain ⟨request, requested⟩ := told.acted object happening old
      exact ⟨request, (requests _ _).mpr requested⟩
    · have deed := still object
      rw [← List.mem_singleton.mp new, Note.deed, if_pos rfl] at deed
      cases deed
  · intro task member
    rw [tasks] at member
    obtain ⟨requested, comes⟩ := told.pooled task member
    exact ⟨(requests _ _).mpr requested, (same task.object).symm ▸ comes⟩
  · exact tasks.symm ▸ told.distinct
  · intro object request requested free
    rw [same]
    refine told.gone object request ((requests _ _).mp requested) fun task member => ?_
    exact free task (tasks.symm ▸ member)

/-- The next object has done nothing, since no request has had it. -/
theorem Told.idle (told : Told config (server, log)) : deeds log server.objects = [] := by
  rw [deeds, List.filterMap_eq_nil_iff]
  intro note member
  by_contra acted
  obtain ⟨happening, deed⟩ := Option.ne_none_iff_exists'.mp acted
  cases note with
  | received => cases deed
  | did other done =>
    rw [Note.deed] at deed
    split at deed
    · rename_i own
      obtain ⟨found, requested⟩ := told.acted other done member
      exact lt_irrefl _ (told.numbered _ _ (own ▸ requested))
    · cases deed

/-- A request that is handed to the pool. -/
theorem Told.request (told : Told config (server, log)) {request : CLN} {note : Note}
    (asks : note.request = some (server.objects, request))
    (still : ∀ object, note.deed object = none) (objects : after.objects = server.objects + 1)
    (tasks : after.tasks =
      server.tasks ++ [⟨request, server.objects, talk config request, false⟩]) :
    Told config (after, log ++ [note]) := by
  have requests (object : Nat) (found : CLN) : Requested (log ++ [note]) object found ↔
      Requested log object found ∨ (object = server.objects ∧ found = request) := by
    rw [requested_append, requested_singleton, asks, Option.some.injEq, Prod.mk.injEq,
      eq_comm, @eq_comm _ request]
  have same (object : Nat) : deeds (log ++ [note]) object = deeds log object :=
    deeds_snoc_of_none (still object)
  have new (found : CLN) : ¬Requested log server.objects found := fun requested =>
    lt_irrefl _ (told.numbered _ _ requested)
  constructor
  · intro object found requested
    change object < after.objects
    rcases (requests _ _).mp requested with old | ⟨own, -⟩
    · have below := told.numbered object found old
      rw [objects]
      exact below.trans (Nat.lt_succ_self _)
    · omega
  · intro object first second one two
    rcases (requests _ _).mp one with old | ⟨own, rfl⟩
    · rcases (requests _ _).mp two with other | ⟨rfl, -⟩
      · exact told.single object first second old other
      · exact absurd old (new first)
    · rcases (requests _ _).mp two with other | ⟨-, rfl⟩
      · exact absurd (own ▸ other) (new second)
      · rfl
  · intro object happening member
    rcases List.mem_append.mp member with old | own
    · obtain ⟨found, requested⟩ := told.acted object happening old
      exact ⟨found, (requests _ _).mpr (.inl requested)⟩
    · have deed := still object
      rw [← List.mem_singleton.mp own, Note.deed, if_pos rfl] at deed
      cases deed
  · intro task member
    rw [tasks] at member
    rcases List.mem_append.mp member with old | own
    · obtain ⟨requested, comes⟩ := told.pooled task old
      exact ⟨(requests _ _).mpr (.inl requested), (same task.object).symm ▸ comes⟩
    · rw [List.mem_singleton.mp own]
      refine ⟨(requests _ _).mpr (.inr ⟨rfl, rfl⟩), ?_⟩
      change Comes (talk config request) (deeds (log ++ [note]) server.objects) (talk config request)
      rw [same, told.idle]
      exact .here _
  · change (after.tasks.map Task.object).Nodup
    rw [tasks, List.map_append]
    refine List.nodup_append.mpr ⟨told.distinct, by simp, ?_⟩
    intro object member other single
    obtain ⟨task, present, rfl⟩ := List.mem_map.mp member
    have below := told.numbered _ _ (told.pooled task present).1
    rw [List.mem_singleton.mp single]
    exact below.ne
  · intro object found requested free
    rw [same]
    rcases (requests _ _).mp requested with old | ⟨rfl, -⟩
    · refine told.gone object found old fun task member => free task ?_
      change task ∈ after.tasks
      rw [tasks]
      exact List.mem_append_left _ member
    · refine absurd rfl (free ⟨request, server.objects, talk config request, false⟩ ?_)
      change _ ∈ after.tasks
      rw [tasks]
      exact List.mem_append_right _ List.mem_cons_self

/-- An operation of a task. -/
theorem Told.did (told : Told config (server, log)) {index : Nat} {task : Task} {op : Op}
    {rest : op.Res → Handler Unit} {response : op.Res} (found : server.tasks[index]? = some task)
    (program : task.program = .call op rest) (objects : after.objects = server.objects)
    (tasks : after.tasks = server.tasks.set index (task.performed op (rest response))) :
    Told config (after, log ++ [.did task.object ⟨op, response⟩]) := by
  have requests (object : Nat) (request : CLN) :
      Requested (log ++ [.did task.object ⟨op, response⟩]) object request ↔
        Requested log object request := by
    rw [requested_append, requested_singleton, Note.request]
    simp
  have present : task ∈ server.tasks := List.mem_of_getElem? found
  have objectsKept : after.tasks.map Task.object = server.tasks.map Task.object := by
    rw [tasks, List.map_set]
    refine List.ext_getElem? fun position => ?_
    rw [List.getElem?_set]
    split
    · rename_i own
      subst own
      rw [List.getElem?_map, found]
      simp [(List.getElem?_eq_some_iff.mp found).1, Task.performed]
    · rfl
  constructor
  · intro object request requested
    change object < after.objects
    rw [objects]
    exact told.numbered object request ((requests _ _).mp requested)
  · intro object first second one two
    exact told.single object first second ((requests _ _).mp one) ((requests _ _).mp two)
  · intro object happening member
    rcases List.mem_append.mp member with old | new
    · obtain ⟨request, requested⟩ := told.acted object happening old
      exact ⟨request, (requests _ _).mpr requested⟩
    · have same := List.mem_singleton.mp new
      simp only [Note.did.injEq] at same
      rw [same.1]
      exact ⟨task.request, (requests _ _).mpr (told.pooled task present).1⟩
  · intro other member
    change other ∈ after.tasks at member
    rw [tasks] at member
    obtain ⟨position, placed⟩ := List.mem_iff_getElem?.mp member
    rw [List.getElem?_set] at placed
    split at placed
    · split at placed
      · rw [← Option.some.inj placed]
        obtain ⟨requested, comes⟩ := told.pooled task present
        refine ⟨(requests _ _).mpr requested, ?_⟩
        change Comes _ (deeds (log ++ [.did task.object ⟨op, response⟩]) task.object) (rest response)
        rw [deeds_snoc_did]
        rw [program] at comes
        exact comes.snoc response
      · cases placed
    · rename_i apart
      have old : other ∈ server.tasks := List.mem_of_getElem? placed
      obtain ⟨requested, comes⟩ := told.pooled other old
      have different : task.object ≠ other.object := by
        intro same
        have first : (server.tasks.map Task.object)[index]? = some task.object := by
          rw [List.getElem?_map, found]
          rfl
        have second : (server.tasks.map Task.object)[position]? = some task.object := by
          rw [List.getElem?_map, placed, same]
          rfl
        exact apart ((List.getElem?_inj (List.getElem?_eq_some_iff.mp first).1 told.distinct).mp
          (first.trans second.symm))
      refine ⟨(requests _ _).mpr requested, ?_⟩
      change Comes _ (deeds (log ++ [.did task.object ⟨op, response⟩]) other.object) _
      rw [deeds_snoc_other log different]
      exact comes
  · change (after.tasks.map Task.object).Nodup
    rw [objectsKept]
    exact told.distinct
  · intro object request requested free
    have absent : object ∉ server.tasks.map Task.object := by
      rw [← objectsKept, List.mem_map]
      rintro ⟨other, member, same⟩
      exact free other member same
    have different : task.object ≠ object := fun same =>
      absent (List.mem_map.mpr ⟨task, present, same⟩)
    change (talk config request).Path (deeds (log ++ [.did task.object ⟨op, response⟩]) object) ()
    rw [deeds_snoc_other log different]
    refine told.gone object request ((requests _ _).mp requested) fun other member same => ?_
    exact absent (List.mem_map.mpr ⟨other, member, same⟩)

/-- The end of a task. -/
theorem Told.leave (told : Told config (server, log)) {index : Nat} {task : Task}
    (found : server.tasks[index]? = some task) (returned : task.program = .ret ())
    (objects : after.objects = server.objects)
    (tasks : after.tasks = server.tasks.eraseIdx index) : Told config (after, log) := by
  have fewer (other : Task) (member : other ∈ after.tasks) : other ∈ server.tasks := by
    rw [tasks] at member
    exact List.mem_of_mem_eraseIdx member
  constructor
  · intro object request requested
    change object < after.objects
    rw [objects]
    exact told.numbered object request requested
  · exact told.single
  · exact told.acted
  · exact fun other member => told.pooled other (fewer other member)
  · change (after.tasks.map Task.object).Nodup
    rw [tasks]
    exact told.distinct.sublist ((List.eraseIdx_sublist _ _).map _)
  · intro object request requested free
    by_cases own : task.object = object
    · subst own
      obtain ⟨asked, comes⟩ := told.pooled task (List.mem_of_getElem? found)
      rw [told.single _ _ _ requested asked]
      rw [returned] at comes
      exact comes_ret.mp comes
    · refine told.gone object request requested fun other member same => ?_
      refine free other ?_ same
      change other ∈ after.tasks
      rw [tasks]
      obtain ⟨position, placed⟩ := List.mem_iff_getElem?.mp member
      refine List.mem_eraseIdx_iff_getElem?.mpr ⟨position, ?_, placed⟩
      rintro rfl
      rw [found] at placed
      exact own (Option.some.inj placed ▸ same)

/-- A turn writes into the chronicle what it does, and the chronicle stays told. -/
theorem told_turn (config : Config) (now : ServerState × List Note) (turn : Turn)
    (next : ServerState × List Note) (told : Told config now)
    (turned : (chronicled config).step now turn = some next) : Told config next := by
  obtain ⟨server, log⟩ := now
  obtain ⟨after, history⟩ := next
  obtain ⟨conn, record, packet, allocated, -, known, received, rfl⟩ |
    ⟨index, answer, task, op, rest, response, memory, -, found, program, -, -, rfl, rfl⟩ |
    ⟨index, task, -, found, returned, rfl, rfl⟩ | ⟨passes, rfl⟩ := chronicled_cases turned
  · obtain ⟨none, tasks, objects⟩ | ⟨request, some, objects, tasks⟩ :=
      receive_request known received
    · refine told.same tasks objects ?_ fun _ => rfl
      rw [Note.request, none]
      rfl
    · refine told.request ?_ (fun _ => rfl) objects tasks
      rw [Note.request, some]
      rfl
  · exact told.did found program rfl rfl
  · exact told.leave found returned rfl rfl
  · have same := passes.same
    constructor
    · intro object request requested
      change object < after.objects
      rw [same.2]
      exact told.numbered object request requested
    · exact told.single
    · exact told.acted
    · exact fun task member => told.pooled task (same.1 ▸ member)
    · exact same.1.symm ▸ told.distinct
    · exact fun object request requested free => told.gone object request requested
        fun task member => free task (same.1.symm ▸ member)

end UubangIot
