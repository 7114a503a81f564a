import UubangIot.Verif.HalfwaySignIns
import UubangIot.Verif.SignInFlags

/-!
# One session per id

In any interleaving of searches, removals and insertions an online list has one node for each id
and counts its nodes, as long as no sign-in searches for an id that another sign-in is about to
insert, a search for an id that cannot be removed finds nothing, and no removal stands between two
nodes.
-/

namespace UubangIot

open Effect Effect.Prog Transition

/-- An online list: one node for each id, all of them allocated and counted. -/
structure Intact (online : Lists) : Prop where
  /-- At most one node for each `USERID`. -/
  distinct : ∀ kind, DistinctIds (online.nodes kind)
  /-- No node has been freed. -/
  allocated : ∀ kind, ∀ node ∈ online.nodes kind, node.allocated = true
  /-- `OnlineUserNum`. -/
  counted : ∀ kind, (online.head kind).onlineUserNum = (online.nodes kind).length

/-- One session for each id. -/
def OneSession (server : ServerState) : Prop := Intact server.memory.online

/-- The next operation of a task. The search of a sign-in that may then insert its id finds no
other sign-in about to, and no node that could not be removed; a removal is not between two
nodes. -/
def ServerState.undisturbedStep (server : ServerState) (index : Nat) (answer : Answer) :
    Handler Unit → Prop
  | .call (.findOnline kind (.name userId)) next =>
    ∀ found ∈ Op.read (.findOnline kind (.name userId)) answer, MayInsert userId (next found) →
      (∀ other ∈ server.tasks.eraseIdx index, ¬MayInsert userId other.program) ∧
        (strlen userId < 6 → (found : Option User).isNone = true)
  | .call (.deleteOutUser userId socket) _ =>
    server.memory.online.removesBetween userId socket = false
  | _ => True

/-- A turn that keeps one session for each id. -/
def Undisturbed (server : ServerState) : Turn → Prop
  | .event .visit => ∀ entry ∈ server.ahead.head?, ∀ record ∈ server.memory.conns entry.conn,
    server.steadyFree entry record
  | .step index answer => ∀ task ∈ server.tasks[index]?,
    server.undisturbedStep index answer task.program
  | _ => True

/-! ## The lists -/

/-- The loop of a removal takes one node away. -/
theorem unlinkLoop_length {userId : Bytes} {socket : Nat} {nodes left : List User}
    (found : unlinkLoop userId socket nodes = some left) : left.length + 1 = nodes.length := by
  induction nodes generalizing left with
  | nil => exact nomatch found
  | cons next rest ih =>
    unfold unlinkLoop at found
    split at found
    · obtain rfl := Option.some.inj found
      cases rest <;> rfl
    · obtain ⟨later, looped, rfl⟩ := Option.map_eq_some_iff.mp found
      exact congrArg (· + 1) (ih looped)

/-- A removal takes one node away. -/
theorem unlink_length {userId : Bytes} {socket : Nat} {nodes left : List User}
    (found : unlink userId socket nodes = some left) : left.length + 1 = nodes.length := by
  cases nodes with
  | nil => exact nomatch found
  | cons tag rest =>
    simp only [unlink] at found
    split at found
    · obtain rfl := Option.some.inj found
      rfl
    · obtain ⟨later, looped, rfl⟩ := Option.map_eq_some_iff.mp found
      exact congrArg (· + 1) (unlinkLoop_length looped)

/-- A removal keeps the count of the nodes, wherever it stands. -/
theorem deleteOutUser_counted {online : Lists}
    (counted : ∀ kind, (online.head kind).onlineUserNum = (online.nodes kind).length)
    (userId : Bytes) (socket : Nat) (kind : Kind) :
    ((online.deleteOutUser userId socket).2.head kind).onlineUserNum =
      ((online.deleteOutUser userId socket).2.nodes kind).length := by
  unfold Lists.deleteOutUser
  split
  · exact counted kind
  · dsimp only
    split
    · exact counted kind
    · rename_i left found
      by_cases own : kind = kindOf userId
      · subst own
        have one := unlink_length found
        have before := counted (kindOf userId)
        simp only [Lists.nodes, Lists.head_setHead_self] at one before ⊢
        omega
      · rw [Lists.nodes, Lists.head_setHead_of_ne _ _ own]
        exact counted kind

/-- A change of the lists by one operation of a program: a removal that is not between two nodes,
or the insertion of an id that is not there. -/
inductive Change (online later : Lists) (program : Handler Unit) : Prop
  | same (kept : later = online)
  | removal (userId : Bytes) (socket : Nat)
      (outside : online.removesBetween userId socket = false)
      (removed : later = (online.deleteOutUser userId socket).2)
  | insertion (a : CLN) (may : MayInsert a.userId program)
      (absent : ∀ node ∈ online.nodes (kindOf a.userId), cstr node.userId ≠ cstr a.userId)
      (inserted : later = online.newOnlineUserOrIotDev a)

section

variable {online later : Lists} {program : Handler Unit}

/-- A removal keeps the lists intact. -/
theorem Intact.removal (intact : Intact online) {userId : Bytes} {socket : Nat}
    (outside : online.removesBetween userId socket = false) :
    Intact (online.deleteOutUser userId socket).2 where
  distinct kind := deleteOutUser_distinct _ _ _ outside kind (intact.distinct kind)
  allocated kind node member :=
    intact.allocated kind node (deleteOutUser_subset _ _ _ outside member)
  counted := deleteOutUser_counted intact.counted userId socket

/-- An insertion of an id that is not there keeps the lists intact. -/
theorem Intact.insertion (intact : Intact online) {a : CLN}
    (absent : ∀ node ∈ online.nodes (kindOf a.userId), cstr node.userId ≠ cstr a.userId) :
    Intact (online.newOnlineUserOrIotDev a) := by
  refine ⟨fun kind => ?_, fun kind node member => ?_, fun kind => ?_⟩
  · rw [newOnline_nodes]
    split
    · rename_i own
      subst own
      refine List.pairwise_cons.mpr ⟨fun node member same => ?_, intact.distinct _⟩
      exact absent node member (same.symm.trans (node_userId a))
    · exact intact.distinct kind
  · rw [newOnline_nodes] at member
    split at member
    · rcases List.mem_cons.mp member with rfl | member
      · rfl
      · exact intact.allocated kind node member
    · exact intact.allocated kind node member
  · unfold Lists.newOnlineUserOrIotDev
    by_cases own : kind = kindOf a.userId
    · subst own
      have before := intact.counted (kindOf a.userId)
      simp only [Lists.nodes, Lists.head_setHead_self, ListHead.push, List.length_cons] at before ⊢
      omega
    · dsimp only
      rw [Lists.nodes, Lists.head_setHead_of_ne _ _ own]
      exact intact.counted kind

/-- A change keeps the lists intact. -/
theorem Change.intact (change : Change online later program) (intact : Intact online) :
    Intact later := by
  cases change with
  | same kept => exact kept ▸ intact
  | removal userId socket outside removed => exact removed ▸ intact.removal outside
  | insertion a may absent inserted => exact inserted ▸ intact.insertion absent

end

/-! ## The tasks -/

/-- What a half-done sign-in knows of the lists: its id is not there, or only on the socket whose
node it removes. -/
def Ready (online : Lists) (userId : Bytes) : Option Nat → Prop
  | none => ∀ node ∈ online.nodes (kindOf userId), cstr node.userId ≠ cstr userId
  | some socket => 6 ≤ strlen userId ∧ ∀ node ∈ online.nodes (kindOf userId),
    cstr node.userId = cstr userId → node.userSocket = socket

/-- A task between its operations. -/
def Shaped (online : Lists) (program : Handler Unit) : Prop :=
  Guarded program ∨ ∃ userId stage, Halfway userId stage program ∧ Ready online userId stage

/-- Two tasks are not about to insert one id. -/
def Apart (first second : Task) : Prop :=
  ∀ userId, MayInsert userId first.program → ¬MayInsert userId second.program

/-- Two tasks are apart from each other. -/
theorem Apart.symm {first second : Task} (apart : Apart first second) : Apart second first :=
  fun userId late early => apart userId early late

section

variable {online later : Lists} {program other : Handler Unit}

/-- What holds of the nodes of an id holds when no node of it is added. -/
theorem Ready.frame {userId : Bytes} {stage : Option Nat} (ready : Ready online userId stage)
    (older : ∀ node ∈ later.nodes (kindOf userId), cstr node.userId = cstr userId →
      node ∈ online.nodes (kindOf userId)) : Ready later userId stage := by
  cases stage with
  | none => exact fun node member same => ready node (older node member same) same
  | some socket =>
    exact ⟨ready.1, fun node member same => ready.2 node (older node member same) same⟩

/-- A change by one task keeps the shape of another. -/
theorem Change.shaped (change : Change online later program) (shaped : Shaped online other)
    (apart : ∀ userId, MayInsert userId program → ¬MayInsert userId other) :
    Shaped later other := by
  obtain guarded | ⟨userId, stage, halfway, ready⟩ := shaped
  · exact .inl guarded
  · refine .inr ⟨userId, stage, halfway, ready.frame fun node member same => ?_⟩
    cases change with
    | same kept => exact kept ▸ member
    | removal removed socket outside cut =>
      exact deleteOutUser_subset _ _ _ outside (cut ▸ member)
    | insertion a may absent inserted =>
      rw [inserted, newOnline_nodes] at member
      split at member
      · rcases List.mem_cons.mp member with rfl | member
        · -- the other task would be about to insert the same id
          have text := (node_userId a).symm.trans same
          exact absurd halfway.mayInsert (apart userId (may.congr text))
        · exact member
      · exact member

end

section

variable {server : ServerState} {index : Nat} {answer : Answer} {op : Op}
  {next : op.Res → Handler Unit} {response : op.Res} {later : Memory}

/-- An operation that inserts nothing. -/
theorem calm_change (still : calm op)
    (undisturbed : server.undisturbedStep index answer (.call op next))
    (stepped : server.memory.after ⟨op, response⟩ = some later) :
    Change server.memory.online later.online (.call op next) := by
  have online := after_online stepped
  cases op
  case newOnlineUserOrIotDev => exact Bool.noConfusion still
  case deleteOutUser userId socket => exact .removal userId socket undisturbed online
  all_goals exact .same online

/-- What a search finds of distinct ids. -/
theorem ready_of_find {online : Lists} {userId : Bytes}
    (distinct : DistinctIds (online.nodes (kindOf userId)))
    (removable : strlen userId < 6 →
      (online.find (kindOf userId) (.name userId)).isNone = true) :
    Ready online userId ((online.find (kindOf userId) (.name userId)).map User.userSocket) := by
  cases found : online.find (kindOf userId) (.name userId) with
  | none => exact find_none found
  | some node =>
    obtain ⟨member, named⟩ := find_some found
    refine ⟨?_, fun other present same => ?_⟩
    · by_contra short
      rw [found] at removable
      exact Bool.noConfusion (removable (not_le.mp short))
    · rw [(distinct.single userId).eq_of_mem present member same named]

/-- One operation of a task: it stays in shape, and the lists change as described. -/
theorem Shaped.step (shaped : Shaped server.memory.online (.call op next))
    (intact : Intact server.memory.online) (read : op.read answer = some response)
    (undisturbed : server.undisturbedStep index answer (.call op next))
    (stepped : server.memory.after ⟨op, response⟩ = some later) :
    Shaped later.online (next response) ∧
      Change server.memory.online later.online (.call op next) := by
  obtain guarded | ⟨userId, stage, halfway, ready⟩ := shaped
  · cases guarded with
    | call first rest =>
      exact ⟨.inl (rest response trivial), calm_change first undisturbed stepped⟩
    | here opening =>
      obtain still | ⟨userId, after, search, searched⟩ := opening
      · exact ⟨.inl (guarded_of_calm (still.2 response)), calm_change still.1 undisturbed stepped⟩
      · obtain ⟨rfl, same⟩ := Prog.call.inj search
        obtain rfl := eq_of_heq same
        obtain ⟨found, rfl⟩ := after_findOnline stepped
        refine ⟨?_, .same rfl⟩
        obtain still | halfway := searched response
        · exact .inl (guarded_of_calm still)
        · refine .inr ⟨userId, _, halfway, ?_⟩
          obtain ⟨-, removable⟩ := undisturbed response read halfway.mayInsert
          have found : (response : Option User) =
            server.memory.online.find (kindOf userId) (.name userId) := found
          subst found
          exact ready_of_find (intact.distinct _) removable
  · cases halfway with
    | insert named rest =>
      refine ⟨.inl (guarded_of_calm (rest response)), ?_⟩
      obtain ⟨-, inserted⟩ | ⟨-, kept⟩ := after_insertion stepped
      · refine .insertion _ (.here rfl) ?_ inserted
        rw [kindOf_of_cstr named, named]
        exact ready
      · exact .same kept
    | @remove removed socket _ named rest =>
      have outside : server.memory.online.removesBetween removed socket = false := undisturbed
      have online := after_online stepped
      refine ⟨.inr ⟨userId, none, rest response, ?_⟩, .removal removed socket outside online⟩
      obtain ⟨long, sockets⟩ := ready
      rw [← strlen_of_cstr named] at long
      rw [← kindOf_of_cstr named, ← named] at sockets
      rw [Ready, ← kindOf_of_cstr named, ← named, online]
      exact deleteOutUser_removes _ _ _ outside long ((intact.distinct _).single removed) sockets
    | other leads plain unsearched way leading on off =>
      have online : later.online = server.memory.online :=
        (after_online stepped).trans (afterOp_of_plain plain _ _)
      refine ⟨?_, .same online⟩
      by_cases goes : leads response
      · exact .inr ⟨userId, stage, on response goes, online ▸ ready⟩
      · exact .inl (guarded_of_calm (off response goes))

/-- What a task may insert after one operation it could insert before, unless the operation was
the search of a sign-in. -/
theorem Shaped.apart {userId : Bytes} {other : Task}
    (shaped : Shaped server.memory.online (.call op next)) (read : op.read answer = some response)
    (undisturbed : server.undisturbedStep index answer (.call op next))
    (member : other ∈ server.tasks.eraseIdx index)
    (before : ∀ userId, MayInsert userId (.call op next) → ¬MayInsert userId other.program)
    (may : MayInsert userId (next response)) : ¬MayInsert userId other.program := by
  cases searching : op.searches with
  | false => exact before userId (.later response searching may)
  | true =>
    obtain guarded | ⟨_, _, halfway, -⟩ := shaped
    · cases guarded with
      | call first rest => exact absurd may (Guarded.not_mayInsert (rest response trivial))
      | here opening =>
        obtain still | ⟨searched, after, search, found⟩ := opening
        · exact absurd may (calm_not_mayInsert (still.2 response))
        · obtain ⟨rfl, same⟩ := Prog.call.inj search
          obtain rfl := eq_of_heq same
          obtain still | halfway := found response
          · exact absurd may (calm_not_mayInsert still)
          · obtain ⟨free, -⟩ := undisturbed response read halfway.mayInsert
            exact fun late => free other member (late.congr (halfway.mayInsert_same may))
    · cases halfway with
      | insert => exact Bool.noConfusion searching
      | remove => exact Bool.noConfusion searching
      | other leads plain unsearched => exact Bool.noConfusion (unsearched.symm.trans searching)

end

/-! ## Turns -/

/-- What every undisturbed turn keeps. -/
structure Sessions (server : ServerState) : Prop where
  /-- The lists. -/
  intact : Intact server.memory.online
  /-- The tasks. -/
  shaped : ∀ task ∈ server.tasks, Shaped server.memory.online task.program
  /-- No two sign-ins of one id are half done. -/
  apart : server.tasks.Pairwise Apart

variable {config : Config} {server next : ServerState}

/-- Before the first connection. -/
theorem sessions_initial : Sessions .initial where
  intact := by
    refine ⟨fun kind => ?_, fun kind node member => ?_, fun kind => ?_⟩
    · cases kind <;> exact List.Pairwise.nil
    · cases kind <;> exact nomatch member
    · cases kind <;> rfl
  shaped _ member := nomatch member
  apart := List.Pairwise.nil

/-- An event that keeps the lists, with new requests at most. -/
theorem Sessions.keep (sessions : Sessions server)
    (online : next.memory.online = server.memory.online)
    (tasks : next.tasks = server.tasks ∨
      ∃ config request object,
        next.tasks = server.tasks ++ [⟨request, object, talk config request, false⟩]) :
    Sessions next := by
  obtain same | ⟨config, request, object, more⟩ := tasks
  · refine ⟨online ▸ sessions.intact, ?_, same ▸ sessions.apart⟩
    rw [same, online]
    exact sessions.shaped
  · refine ⟨online ▸ sessions.intact, fun task member => ?_, ?_⟩
    · rw [more] at member
      rw [online]
      rcases List.mem_append.mp member with old | new
      · exact sessions.shaped task old
      · obtain rfl := List.mem_singleton.mp new
        exact .inl (talk_guarded config request)
    · rw [more, List.pairwise_append]
      refine ⟨sessions.apart, List.pairwise_singleton _ _, fun old _ new present userId _ late => ?_⟩
      obtain rfl := List.mem_singleton.mp present
      exact (talk_guarded config request).not_mayInsert late

/-- An event around the handlers. -/
theorem Sessions.on {event : ServerEvent} (sessions : Sessions server)
    (undisturbed : Undisturbed server (.event event))
    (happened : server.on config event = some next) : Sessions next := by
  cases event with
  | accept socket =>
    obtain rfl := Option.some.inj happened
    exact sessions.keep rfl (.inl rfl)
  | ping lens =>
    obtain rfl := Option.some.inj happened
    exact sessions.keep rfl (.inl rfl)
  | addConnMemWait4Free allocated =>
    obtain ⟨_, _, rfl⟩ := addConnMemWait4Free_cases happened
    exact sessions.keep rfl (.inl rfl)
  | beginPass =>
    obtain rfl := beginPass_cases happened
    exact sessions.keep rfl (.inl rfl)
  | receive conn packet allocated =>
    obtain ⟨record, -, outcome⟩ := receive_cases happened
    obtain ⟨-, rfl⟩ | ⟨-, -, rfl⟩ | ⟨later, -, rfl⟩ |
      ⟨-, -, later, request, -, -, -, rfl⟩ := outcome
    · exact sessions
    · exact sessions.keep rfl (.inl rfl)
    · exact sessions.keep rfl (.inl rfl)
    · exact sessions.keep rfl (.inr ⟨config, request, server.objects, rfl⟩)
  | visit =>
    obtain ⟨entry, rest, ahead, outcome⟩ := visit_cases happened
    obtain ⟨-, rfl⟩ | ⟨record, known, ⟨due, rfl⟩ | ⟨-, rfl⟩⟩ := outcome
    · exact sessions.keep rfl (.inl rfl)
    · have first : entry ∈ server.ahead.head? := by
        rw [ahead]
        rfl
      have outside := undisturbed entry first record known due
      refine ⟨sessions.intact.removal outside, fun task member => ?_, sessions.apart⟩
      have change : Change server.memory.online
          (server.memory.online.deleteOutUser record.userId record.socket).2 (.ret ()) :=
        .removal _ _ outside rfl
      exact change.shaped (sessions.shaped task member) fun _ impossible => nomatch impossible
    · exact sessions.keep rfl (.inl rfl)

/-- One operation of a task. -/
theorem Sessions.step {index : Nat} {answer : Answer} (sessions : Sessions server)
    (undisturbed : Undisturbed server (.step index answer))
    (stepped : server.step index answer = some next) : Sessions next := by
  obtain ⟨task, op, rest, response, memory, found, program, read, after, rfl⟩ :=
    step_cases stepped
  have undisturbed := undisturbed task found
  have shaped := sessions.shaped task (List.mem_of_getElem? found)
  rw [program] at undisturbed shaped
  obtain ⟨own, change⟩ := shaped.step sessions.intact read undisturbed after
  have old : (task :: server.tasks.eraseIdx index).Pairwise Apart :=
    (pool_perm found).pairwise sessions.apart fun apart => apart.symm
  obtain ⟨apart, others⟩ := List.pairwise_cons.mp old
  have new := pool_set_perm found (task.performed op (rest response))
  have away (other : Task) (member : other ∈ server.tasks.eraseIdx index) (userId : Bytes)
      (may : MayInsert userId (.call op rest)) : ¬MayInsert userId other.program :=
    apart other member userId (program ▸ may)
  refine ⟨change.intact sessions.intact, fun other member => ?_, ?_⟩
  · rcases List.mem_cons.mp (new.mem_iff.mp member) with rfl | member
    · exact own
    · exact change.shaped (sessions.shaped other (List.mem_of_mem_eraseIdx member))
        (away other member)
  · refine new.symm.pairwise (List.pairwise_cons.mpr ⟨fun other member userId may => ?_, others⟩)
      fun apart => apart.symm
    exact shaped.apart read undisturbed member (away other member) may

/-- A task that has returned leaves. -/
theorem Sessions.leave {index : Nat} (sessions : Sessions server)
    (left : server.leave index = some next) : Sessions next := by
  obtain ⟨task, found, -, rfl⟩ := leave_cases left
  exact ⟨sessions.intact,
    fun other member => sessions.shaped other (List.mem_of_mem_eraseIdx member),
    sessions.apart.sublist (List.eraseIdx_sublist _ _)⟩

/-- An undisturbed turn keeps the sessions of different connections apart. -/
theorem Sessions.turn (config : Config) (server : ServerState) (turn : Turn) (next : ServerState)
    (undisturbed : Undisturbed server turn) (sessions : Sessions server)
    (turned : server.turn config turn = some next) : Sessions next := by
  cases turn with
  | event event => exact sessions.on undisturbed turned
  | step index answer => exact sessions.step undisturbed turned
  | leave index => exact sessions.leave turned

/-- In every run whose turns are undisturbed each online list has one node for each id and counts
its nodes. -/
theorem one_session (config : Config) (turns : List Turn)
    (undisturbed : (interleaved config).Meets Undisturbed .initial turns) :
    (interleaved config).Always OneSession .initial turns :=
  System.always_of_meets (fun _ sessions => sessions.intact) (Sessions.turn config)
    sessions_initial undisturbed

/-- A program about to remove nothing and to search for no short id. -/
def harmless : Handler Unit → Bool
  | .call (.findOnline _ (.name userId)) _ => 6 ≤ strlen userId
  | .call (.deleteOutUser _ _) _ => false
  | _ => true

/-- A turn in which no other task runs and the only one is harmless. -/
def Solitary (server : ServerState) : Turn → Prop
  | .event .visit => False
  | .step _ _ => server.tasks.length = 1 ∧ ∀ task ∈ server.tasks, harmless task.program = true
  | _ => True

instance (server : ServerState) : (turn : Turn) → Decidable (Solitary server turn)
  | .event .visit => inferInstanceAs (Decidable False)
  | .step _ _ => inferInstanceAs (Decidable (_ ∧ ∀ task ∈ _, _))
  | .event (.accept _) | .event (.receive _ _ _) | .event (.ping _)
  | .event (.addConnMemWait4Free _) | .event .beginPass | .leave _ =>
    inferInstanceAs (Decidable True)

/-- A solitary turn is undisturbed. -/
theorem Solitary.undisturbed {server : ServerState} {turn : Turn} (solitary : Solitary server turn) :
    Undisturbed server turn := by
  cases turn with
  | leave index => trivial
  | event event =>
    cases event with
    | visit => exact solitary.elim
    | _ => trivial
  | step index answer =>
    obtain ⟨one, programs⟩ := solitary
    intro task found
    have program := programs task (List.mem_of_getElem? found)
    obtain ⟨below, -⟩ := List.getElem?_eq_some_iff.mp found
    have others : server.tasks.eraseIdx index = [] := by
      rw [← List.length_eq_zero_iff, List.length_eraseIdx_of_lt below, one]
    unfold ServerState.undisturbedStep
    split
    · rename_i kind userId next search
      rw [search] at program
      refine fun found _ _ => ⟨fun other member => ?_, fun short => ?_⟩
      · rw [others] at member
        exact nomatch member
      · exact absurd (of_decide_eq_true program) (not_le.mpr short)
    · rename_i removal
      rw [removal] at program
      exact Bool.noConfusion program
    · trivial

/-- The operations of a task with their answers. -/
def stepping (index : Nat) (answers : List Answer) : List Turn := answers.map (.step index)

/-- A connection greets, and a device signs in over it. -/
def signingInAlone : List Turn :=
  greeting ++ stepping 0 [.int 721, .unit, .unit] ++ [.leave 0] ++
    [.event (.receive 0 (siaPacket "device01") true)] ++
    stepping 0 [.int 1, .found none, .found (some (registeredNode "device01")), .unit, .int 1]

/-- A device signs in with no other sign-in under way. -/
theorem one_session_device : ∃ server,
    (interleaved bareConfig).run .initial signingInAlone = some server ∧
      (server.memory.online.nodes .iot).length = 1 ∧ OneSession server := by
  have counted : ((interleaved bareConfig).run .initial signingInAlone).map
      (fun server => (server.memory.online.nodes .iot).length) = some 1 := by
    decide +kernel
  obtain ⟨server, ran, one⟩ := Option.map_eq_some_iff.mp counted
  have solitary : (interleaved bareConfig).Meets Solitary .initial signingInAlone := by
    decide +kernel
  have undisturbed := solitary.mono fun _ _ => Solitary.undisturbed
  exact ⟨server, ran, one, one_session bareConfig _ undisturbed 12 server ran⟩

/-- Two connections send a sign-in of one device; both search before either inserts. -/
def signingInTwice : List Turn :=
  let packet := siaPacket "device01"
  let inserting := [.found (some (registeredNode "device01")), .unit, .int 1]
  [.event (.accept 5), .event (.accept 6), .event (.receive 0 (text "ZYXX1226") true),
    .event (.receive 1 (text "ZYXX1226") true), .event (.receive 0 packet true),
    .event (.receive 1 packet true)] ++
    stepping 2 [.int 1, .found none] ++ stepping 3 [.int 1, .found none] ++
    stepping 2 inserting ++ stepping 3 inserting

/-- Two sign-ins that search before either inserts leave two nodes of one id. -/
theorem raced_sign_ins_insert_twice :
    ¬∀ turns, (interleaved bareConfig).Always OneSession .initial turns := by
  intro always
  have twice : ((interleaved bareConfig).run .initial signingInTwice).map
      (fun server => (server.memory.online.nodes .iot).map User.userId) =
      some [text "device01", text "device01"] := by
    decide +kernel
  obtain ⟨server, ran, ids⟩ := Option.map_eq_some_iff.mp twice
  have distinct := (always signingInTwice 16 server ran).distinct .iot
  obtain ⟨first, rest, nodes, one, two⟩ := List.map_eq_cons_iff.mp ids
  obtain ⟨second, none, rfl, other, -⟩ := List.map_eq_cons_iff.mp two
  rw [nodes] at distinct
  have apart := (List.pairwise_cons.mp distinct).1 second List.mem_cons_self
  rw [one, other] at apart
  exact apart rfl

end UubangIot
