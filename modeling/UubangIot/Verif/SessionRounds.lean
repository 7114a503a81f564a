import UubangIot.Verif.SessionEffect

/-!
# Rounds of whole requests

What an event around the handlers and a whole request do to the sessions of the server, and what
holds of the pool and the connections in every run of whole requests.
-/

namespace UubangIot

open Effect Effect.Prog Transition

section

variable {config : Config} {server next : ServerState}

/-- A task that has arrived with a packet. -/
def Arrived (config : Config) (server : ServerState) (task : Task) : Prop :=
  task.program = talk config task.request ∧
    ∃ record, server.memory.conns task.request.conn = some record ∧
      task.request.socket = record.socket ∧
      (12 ≤ record.userId.length → 12 ≤ task.request.userId.length)

/-- The id in a copy of a connection fills its array. -/
theorem Copied.userId_length {handle : Nat} {record request : CLN} {packet : Bytes}
    (copied : Copied handle record packet request) (sized : 12 ≤ record.userId.length) :
    12 ≤ request.userId.length := by
  obtain ⟨info1, rfl⟩ := copied
  unfold snapshot
  split
  · exact sized
  · simp only [copyUserPacketInterface2Cln, memcpy, field, zeros, List.length_append,
      List.length_take, List.length_drop, List.length_replicate]
    omega

/-- Putting back a greeted record keeps the session. -/
theorem store_greeted {conn : Nat} {record later : CLN}
    (known : server.memory.conns conn = some record)
    (same : later.identity = record.identity) :
    SameSession server.memory (server.store conn later).memory := by
  refine ⟨rfl, fun other => ?_⟩
  refine (write_identity server.memory conn (fun _ => later) other).trans ?_
  split
  · rename_i own
    subst own
    rw [Memory.identity, known]
    exact congrArg some same
  · rfl

/-- A handshake leaves who is signed in. -/
theorem Greeted.identity {record later : CLN} (greeted : Greeted record later) :
    later.identity = record.identity := by
  obtain ⟨_, _, rfl⟩ := greeted
  rfl

/-- An event around the handlers: a connection is accepted, the session stays and requests
arrive, or a connection is freed. -/
theorem on_effect {event : ServerEvent} (happened : server.on config event = some next) :
    (∃ socket, next = server.accept socket) ∨
    (SameSession server.memory next.memory ∧ next.accepted = server.accepted ∧
      ∀ task ∈ next.tasks, task ∈ server.tasks ∨ Arrived config server task) ∨
    (∃ entry rest record, event = .visit ∧ server.ahead = entry :: rest ∧
      server.memory.conns entry.conn = some record ∧ entry.due record = true ∧
      next = { server with
        memory := server.memory.freeConn entry.conn record, ahead := rest }) := by
  have still {later : ServerState} (memory : later.memory = server.memory)
      (tasks : later.tasks = server.tasks) (accepted : later.accepted = server.accepted) :
      SameSession server.memory later.memory ∧ later.accepted = server.accepted ∧
        ∀ task ∈ later.tasks, task ∈ server.tasks ∨ Arrived config server task := by
    rw [memory, tasks]
    exact ⟨SameSession.refl _, accepted, fun _ member => .inl member⟩
  cases event with
  | accept socket => exact .inl ⟨socket, (Option.some.inj happened).symm⟩
  | ping lens =>
    obtain rfl := Option.some.inj happened
    exact .inr (.inl (still rfl rfl rfl))
  | addConnMemWait4Free allocated =>
    obtain ⟨_, _, rfl⟩ := addConnMemWait4Free_cases happened
    exact .inr (.inl (still rfl rfl rfl))
  | beginPass =>
    obtain rfl := beginPass_cases happened
    exact .inr (.inl (still rfl rfl rfl))
  | visit =>
    obtain ⟨entry, rest, ahead, outcome⟩ := visit_cases happened
    obtain ⟨-, rfl⟩ | ⟨record, known, ⟨due, rfl⟩ | ⟨-, rfl⟩⟩ := outcome
    · exact .inr (.inl (still rfl rfl rfl))
    · exact .inr (.inr ⟨entry, rest, record, rfl, ahead, known, due, rfl⟩)
    · exact .inr (.inl (still rfl rfl rfl))
  | receive conn packet allocated =>
    obtain ⟨record, known, outcome⟩ := receive_cases happened
    obtain ⟨-, rfl⟩ | ⟨-, -, rfl⟩ | ⟨later, greeted, rfl⟩ |
      ⟨-, -, later, request, greeted, -, copied, rfl⟩ := outcome
    · exact .inr (.inl (still rfl rfl rfl))
    · exact .inr (.inl (still rfl rfl rfl))
    · exact .inr (.inl ⟨store_greeted known greeted.identity, rfl, fun _ member => .inl member⟩)
    · refine .inr (.inl ⟨store_greeted known greeted.identity, rfl, fun task member => ?_⟩)
      rcases List.mem_append.mp member with old | new
      · exact .inl old
      · obtain rfl := List.mem_singleton.mp new
        obtain ⟨own, socket, -⟩ := copied.fields
        exact .inr ⟨rfl, record, own ▸ known, socket, copied.userId_length⟩

/-- A request handled at once. -/
theorem request_effect {index : Nat} {answers : List Answer}
    (requested : server.request index answers = some next)
    (programs : ∀ task ∈ server.tasks, task.program = talk config task.request) :
    ∃ task trace, server.tasks[index]? = some task ∧
      answering task.program answers = some (trace, ()) ∧
      RequestEffect (· ∈ trace) task.request server.memory next.memory ∧
      next.tasks = server.tasks.eraseIdx index ∧ next.accepted = server.accepted := by
  unfold ServerState.request at requested
  cases found : server.tasks[index]? with
  | none => simp [found] at requested
  | some task =>
    simp only [found] at requested
    obtain ⟨⟨trace, result⟩, answered, requested⟩ := Option.bind_eq_some_iff.mp requested
    obtain ⟨memory, ran, rfl⟩ := Option.map_eq_some_iff.mp requested
    refine ⟨task, trace, rfl, answered, ?_, rfl, rfl⟩
    have path := answering_path _ _ answered
    rw [programs task (List.mem_of_getElem? found)] at path
    exact talk_effect ⟨trace, path, hearing_run (fun _ member => member) ran⟩

/-- What holds of the pool and the connections in every run of whole requests: the id arrays are
whole, handles are given out in order, and every task is a request that has not begun. -/
structure Pooled (config : Config) (server : ServerState) : Prop where
  /-- The arrays of the connections. -/
  whole : ∀ conn userId socket flag,
    server.memory.identity conn = some (userId, socket, flag) → 12 ≤ userId.length
  /-- Handles not given out yet. -/
  numbered : ∀ conn, server.accepted ≤ conn → server.memory.identity conn = none
  /-- The tasks have not begun. -/
  programs : ∀ task ∈ server.tasks, task.program = talk config task.request
  /-- The arrays of the requests. -/
  filled : ∀ task ∈ server.tasks, 12 ≤ task.request.userId.length
  /-- The connections of the requests. -/
  known : ∀ task ∈ server.tasks, task.request.conn < server.accepted

/-- Before the first connection. -/
theorem pooled_initial (config : Config) : Pooled config .initial where
  whole _ _ _ _ known := nomatch known
  numbered _ _ := rfl
  programs _ member := nomatch member
  filled _ member := nomatch member
  known _ member := nomatch member

/-- The identities once a connection has been accepted. -/
theorem accept_identity (server : ServerState) (socket conn : Nat) :
    (server.accept socket).memory.identity conn =
      if conn = server.accepted then some (CLN.fresh socket).identity
      else server.memory.identity conn := by
  unfold Memory.identity
  split
  · rename_i new
    subst new
    exact congrArg _ (Function.update_self server.accepted _ server.memory.conns)
  · rename_i old
    exact congrArg _ (Function.update_of_ne old _ server.memory.conns)

/-- The identities once a connection has been freed. -/
theorem freeConn_identity (memory : Memory) (freed conn : Nat) (record : CLN) :
    (memory.freeConn freed record).identity conn =
      if conn = freed then none else memory.identity conn := by
  unfold Memory.identity
  split
  · rename_i own
    subst own
    exact congrArg _ (Function.update_self conn _ memory.conns)
  · rename_i other
    exact congrArg _ (Function.update_of_ne other _ memory.conns)

/-- The id arrays after a request. -/
theorem RequestEffect.whole {heard : Happening → Prop} {a : CLN} {memory later : Memory}
    (effect : RequestEffect heard a memory later)
    (whole : ∀ conn userId socket flag,
      memory.identity conn = some (userId, socket, flag) → 12 ≤ userId.length)
    (conn : Nat) (userId : Bytes) (socket : Nat) (flag : UInt8)
    (found : later.identity conn = some (userId, socket, flag)) : 12 ≤ userId.length := by
  cases effect with
  | same kept => exact whole conn _ _ _ ((kept.identity conn).symm.trans found)
  | signOut _ _ _ _ identity => exact whole conn _ _ _ ((identity conn).symm.trans found)
  | signIn b inserted written _ _ _ _ _ _ marked =>
    rw [marked conn] at found
    split at found
    · obtain ⟨⟨array, _, _⟩, before, made⟩ := Option.map_eq_some_iff.mp found
      obtain ⟨rfl, -⟩ := Prod.mk.inj made
      have size := whole a.conn _ _ _ before
      simp only [memcpy, List.length_append, List.take_length, List.length_drop]
      omega
    · exact whole conn _ _ _ found

/-- A request gives out no handle. -/
theorem RequestEffect.unknown {heard : Happening → Prop} {a : CLN} {memory later : Memory}
    (effect : RequestEffect heard a memory later) {conn : Nat}
    (absent : memory.identity conn = none) : later.identity conn = none := by
  cases effect with
  | same kept => exact (kept.identity conn).trans absent
  | signOut _ _ _ _ identity => exact (identity conn).trans absent
  | signIn b inserted written _ _ _ _ _ _ marked =>
    rw [marked conn]
    split
    · rename_i own
      subst own
      rw [absent]
      rfl
    · exact absent

/-- An event around the handlers keeps the pool in order. -/
theorem Pooled.on {event : ServerEvent} (pooled : Pooled config server)
    (happened : server.on config event = some next) : Pooled config next := by
  obtain ⟨socket, rfl⟩ | ⟨same, accepted, arrived⟩ | ⟨entry, rest, record, -, -, -, -, rfl⟩ :=
    on_effect happened
  · refine { pooled with whole := ?_, numbered := ?_, known := ?_ }
    · intro conn userId other flag found
      rw [accept_identity] at found
      split at found
      · obtain ⟨rfl, -⟩ := Prod.mk.inj (Option.some.inj found)
        exact Nat.le_refl 12
      · exact pooled.whole conn _ _ _ found
    · intro conn above
      have above : server.accepted + 1 ≤ conn := above
      rw [accept_identity, if_neg (by omega)]
      exact pooled.numbered conn (by omega)
    · exact fun task member => Nat.lt_succ_of_lt (pooled.known task member)
  · refine ⟨?_, ?_, ?_, ?_, ?_⟩
    · intro conn userId socket flag found
      exact pooled.whole conn _ _ _ ((same.identity conn).symm.trans found)
    · intro conn above
      exact (same.identity conn).trans (pooled.numbered conn (accepted ▸ above))
    · intro task member
      obtain old | ⟨program, -⟩ := arrived task member
      · exact pooled.programs task old
      · exact program
    · intro task member
      obtain old | ⟨-, record, found, -, copied⟩ := arrived task member
      · exact pooled.filled task old
      · refine copied (pooled.whole task.request.conn _ record.socket record.info0 ?_)
        rw [Memory.identity, found]
        rfl
    · intro task member
      rw [accepted]
      obtain old | ⟨-, record, found, -, -⟩ := arrived task member
      · exact pooled.known task old
      · by_contra above
        have absent := pooled.numbered task.request.conn (not_lt.mp above)
        rw [Memory.identity, found] at absent
        simp at absent
  · refine { pooled with whole := ?_, numbered := ?_ }
    · intro conn userId socket flag found
      rw [freeConn_identity] at found
      split at found
      · contradiction
      · exact pooled.whole conn _ _ _ found
    · intro conn above
      rw [freeConn_identity]
      split
      · rfl
      · exact pooled.numbered conn above

/-- Every round keeps the pool in order. -/
theorem Pooled.round {round : Round} (pooled : Pooled config server)
    (stepped : server.round config round = some next) : Pooled config next := by
  cases round with
  | event event => exact pooled.on stepped
  | request index answers =>
    obtain ⟨task, trace, -, -, effect, tasks, accepted⟩ := request_effect stepped pooled.programs
    have others (other : Task) (member : other ∈ next.tasks) : other ∈ server.tasks :=
      List.mem_of_mem_eraseIdx (tasks ▸ member)
    refine ⟨effect.whole pooled.whole, ?_, ?_, ?_, ?_⟩
    · exact fun conn above => effect.unknown (pooled.numbered conn (accepted ▸ above))
    · exact fun other member => pooled.programs other (others other member)
    · exact fun other member => pooled.filled other (others other member)
    · exact fun other member => accepted.symm ▸ pooled.known other (others other member)

/-- The array of an id that a request signs in. -/
theorem signInId_length {a : CLN} {userId : Bytes} (requested : a.signInId = some userId)
    (filled : 12 ≤ a.userId.length) : 12 ≤ userId.length := by
  unfold CLN.signInId at requested
  split at requested
  · exact Option.some.inj requested ▸ filled
  · exact Option.some.inj requested ▸ filled
  · split at requested
    · split at requested
      · obtain rfl := Option.some.inj requested
        simp only [strcpy, strlen, List.length_append, List.length_cons, List.length_drop]
        omega
      · contradiction
    · contradiction
  · contradiction

end

end UubangIot
