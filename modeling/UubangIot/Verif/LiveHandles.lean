import UubangIot.Verif.SessionRounds
import UubangIot.Verif.TaskAccounting

/-!
# Live connection handles

Every online node has a handle of a connection that has not been freed, in every run of whole
requests whose rounds are tidy. A connection is tied to its node only by the id and the socket it
has when it is freed, so a sign-in must leave it with one node that a removal finds: an id of six
to eleven characters, and no node of another id for the same connection.
-/

namespace UubangIot

open Transition

/-- Every online node can be read, and its handle is a connection that has not been freed. -/
def LiveHandles (server : ServerState) : Prop :=
  ∀ kind, ∀ node ∈ server.memory.online.nodes kind,
    node.allocated = true ∧ ∃ record, server.memory.conns node.connHandle = some record

/-- A sign-in that leaves its connection with one node, and that node with a removal. -/
def Lists.tidySignIn (online : Lists) (conn : Nat) (userId : Bytes) : Prop :=
  6 ≤ strlen userId ∧ strlen userId < 12 ∧ online.clearTakeover userId ∧
    ∀ kind, ∀ node ∈ online.nodes kind, node.connHandle = conn →
      cstr node.userId = cstr userId

/-- A request that is tidy: a sign-out takes no node out between two others, and a sign-in that is
let in is tidy. -/
def ServerState.tidyRequest (server : ServerState) (task : Task) (answers : List Answer) : Prop :=
  (task.request.requestClass = .user .sto → task.comesTo answers signsOut = true →
    server.memory.online.removesBetween task.request.userId task.request.socket = false) ∧
  ∀ userId ∈ task.request.signInId, task.comesTo answers signsIn = true →
    server.memory.online.tidySignIn task.request.conn userId

/-- A connection that is freed has no request left, and its node is not between two others. -/
def ServerState.tidyFree (server : ServerState) (entry : Waiting) (record : CLN) : Prop :=
  entry.due record = true →
    (∀ task ∈ server.tasks, task.request.conn ≠ entry.conn) ∧
      server.memory.online.removesBetween record.userId record.socket = false

/-- A round that keeps the handles live. -/
def Tidy (server : ServerState) : Round → Prop
  | .event .visit => ∀ entry ∈ server.ahead.head?, ∀ record ∈ server.memory.conns entry.conn,
    server.tidyFree entry record
  | .request index answers => ∀ task ∈ server.tasks[index]?, server.tidyRequest task answers
  | _ => True

instance (online : Lists) (conn : Nat) (userId : Bytes) :
    Decidable (online.tidySignIn conn userId) := inferInstanceAs (Decidable (_ ∧ _ ∧ _ ∧ _))

instance (server : ServerState) (task : Task) (answers : List Answer) :
    Decidable (server.tidyRequest task answers) := inferInstanceAs (Decidable (_ ∧ _))

instance (server : ServerState) (entry : Waiting) (record : CLN) :
    Decidable (server.tidyFree entry record) := inferInstanceAs (Decidable (_ → _))

instance (server : ServerState) : (round : Round) → Decidable (Tidy server round)
  | .event .visit => inferInstanceAs (Decidable (∀ entry ∈ _, ∀ record ∈ _, _))
  | .request _ _ => inferInstanceAs (Decidable (∀ task ∈ _, _))
  | .event (.accept _) | .event (.receive _ _ _) | .event (.ping _)
  | .event (.addConnMemWait4Free _) | .event .beginPass => inferInstanceAs (Decidable True)

/-! ## The link between a node and its connection -/

/-- A node in the list of its id, with an id that can be removed, and a connection that has its
id and its socket. -/
structure Tied (memory : Memory) (kind : Kind) (node : User) : Prop where
  /-- The node has not been freed. -/
  allocated : node.allocated = true
  /-- The list of its id. -/
  routed : kindOf node.userId = kind
  /-- `delete_out_user` does not refuse it. -/
  long : 6 ≤ strlen node.userId
  /-- Its connection. -/
  linked : ∃ userId flag,
    memory.identity node.connHandle = some (userId, node.userSocket, flag) ∧
      cstr userId = cstr node.userId

/-- What every tidy round keeps. -/
structure Linked (config : Config) (server : ServerState) : Prop where
  /-- The pool and the connections. -/
  pooled : Pooled config server
  /-- The nodes. -/
  tied : ∀ kind, ∀ node ∈ server.memory.online.nodes kind, Tied server.memory kind node
  /-- One node for each id. -/
  distinct : ∀ kind, DistinctIds (server.memory.online.nodes kind)
  /-- The requests have a connection. -/
  live : ∀ task ∈ server.tasks, ∃ userId flag,
    server.memory.identity task.request.conn = some (userId, task.request.socket, flag)

variable {config : Config} {server next : ServerState}

/-- Linked nodes have live handles. -/
theorem Linked.liveHandles (linked : Linked config server) : LiveHandles server := by
  intro kind node member
  obtain ⟨allocated, -, -, userId, flag, found, -⟩ := linked.tied kind node member
  obtain ⟨record, known, -⟩ := Option.map_eq_some_iff.mp found
  exact ⟨allocated, record, known⟩

/-- Before the first connection no node is linked. -/
theorem linked_initial (config : Config) : Linked config .initial where
  pooled := pooled_initial config
  tied kind node member := by
    cases kind <;> exact nomatch member
  distinct kind := by
    cases kind <;> exact List.Pairwise.nil
  live _ member := nomatch member

/-- A tie depends on the connection of its node only. -/
theorem Tied.frame {memory later : Memory} {kind : Kind} {node : User}
    (tied : Tied memory kind node)
    (same : later.identity node.connHandle = memory.identity node.connHandle) :
    Tied later kind node := by
  obtain ⟨userId, flag, found, named⟩ := tied.linked
  exact { tied with linked := ⟨userId, flag, same.trans found, named⟩ }

/-- A handle that a node or a task has was given out. -/
theorem Linked.given (linked : Linked config server) {conn : Nat}
    {identity : Bytes × Nat × UInt8} (found : server.memory.identity conn = some identity) :
    conn ≠ server.accepted := by
  rintro rfl
  exact nomatch (linked.pooled.numbered server.accepted le_rfl).symm.trans found

/-- A connection that is accepted has no node yet, so the lists stay linked. -/
theorem Linked.accept (linked : Linked config server) (socket : Nat) :
    Linked config (server.accept socket) where
  pooled := linked.pooled.on (show server.on config (.accept socket) = some _ from rfl)
  tied kind node member := by
    have tied := linked.tied kind node member
    obtain ⟨userId, flag, found, -⟩ := tied.linked
    refine tied.frame ?_
    rw [accept_identity, if_neg (linked.given found)]
  distinct := linked.distinct
  live task member := by
    obtain ⟨userId, flag, found⟩ := linked.live task member
    refine ⟨userId, flag, ?_⟩
    rw [accept_identity, if_neg (linked.given found)]
    exact found

/-- A round that leaves the sessions alone. -/
theorem Linked.same (linked : Linked config server) (pooled : Pooled config next)
    (same : SameSession server.memory next.memory)
    (live : ∀ task ∈ next.tasks, ∃ userId flag,
      server.memory.identity task.request.conn = some (userId, task.request.socket, flag)) :
    Linked config next where
  pooled := pooled
  tied kind node member := by
    rw [same.online] at member
    exact (linked.tied kind node member).frame (same.identity node.connHandle)
  distinct kind := by
    rw [same.online]
    exact linked.distinct kind
  live task member := by
    obtain ⟨userId, flag, found⟩ := live task member
    exact ⟨userId, flag, (same.identity task.request.conn).trans found⟩

/-- The nodes of a connection have its id and its socket. -/
theorem Linked.owns (linked : Linked config server) {kind : Kind} {node : User}
    (member : node ∈ server.memory.online.nodes kind) {userId : Bytes} {socket : Nat}
    {flag : UInt8}
    (found : server.memory.identity node.connHandle = some (userId, socket, flag)) :
    cstr node.userId = cstr userId ∧ node.userSocket = socket := by
  obtain ⟨array, other, known, named⟩ := (linked.tied kind node member).linked
  have same := Option.some.inj (known.symm.trans found)
  simp only [Prod.mk.injEq] at same
  obtain ⟨rfl, rfl, rfl⟩ := same
  exact ⟨named.symm, rfl⟩

/-- A connection that is freed takes its node with it. -/
theorem Linked.free (linked : Linked config server) {entry : Waiting} {rest : List Waiting}
    {record : CLN} (known : server.memory.conns entry.conn = some record)
    (tidy : (∀ task ∈ server.tasks, task.request.conn ≠ entry.conn) ∧
      server.memory.online.removesBetween record.userId record.socket = false)
    (pooled : Pooled config
      { server with memory := server.memory.freeConn entry.conn record, ahead := rest }) :
    Linked config
      { server with memory := server.memory.freeConn entry.conn record, ahead := rest } := by
  obtain ⟨idle, outside⟩ := tidy
  have identity : server.memory.identity entry.conn =
      some (record.userId, record.socket, record.info0) := by
    rw [Memory.identity, known]
    rfl
  refine ⟨pooled, fun kind node member => ?_, fun kind => ?_, fun task member => ?_⟩
  · have present := deleteOutUser_subset _ _ _ outside member
    have tied := linked.tied kind node present
    refine tied.frame ?_
    rw [freeConn_identity]
    by_cases own : node.connHandle = entry.conn
    · -- its own node was the one the removal found
      obtain ⟨named, -⟩ := linked.owns present (own ▸ identity)
      have list : kind = kindOf record.userId := tied.routed ▸ kindOf_of_cstr named
      have long : 6 ≤ strlen record.userId := strlen_of_cstr named ▸ tied.long
      subst list
      have single := (linked.distinct (kindOf record.userId)).single record.userId
      refine absurd named (deleteOutUser_removes _ _ _ outside long single ?_ node member)
      intro other there same
      rw [single.eq_of_mem there present same named]
      exact (linked.owns present (own ▸ identity)).2
    · rw [if_neg own]
  · exact deleteOutUser_distinct _ _ _ outside kind (linked.distinct kind)
  · obtain ⟨userId, flag, found⟩ := linked.live task member
    refine ⟨userId, flag, ?_⟩
    rw [freeConn_identity, if_neg (idle task member)]
    exact found

/-- A sign-out removes the node of its own connection, and the others stay linked. -/
theorem Linked.signOut (linked : Linked config server) (pooled : Pooled config next) {a : CLN}
    (outside : server.memory.online.removesBetween a.userId a.socket = false)
    (online : next.memory.online = (server.memory.online.deleteOutUser a.userId a.socket).2)
    (identity : ∀ conn, next.memory.identity conn = server.memory.identity conn)
    (tasks : ∀ task ∈ next.tasks, task ∈ server.tasks) : Linked config next where
  pooled := pooled
  tied kind node member := by
    rw [online] at member
    have present := deleteOutUser_subset _ _ _ outside member
    exact (linked.tied kind node present).frame (identity node.connHandle)
  distinct kind := by
    rw [online]
    exact deleteOutUser_distinct _ _ _ outside kind (linked.distinct kind)
  live task member := by
    rw [identity]
    exact linked.live task (tasks task member)

/-- The connection of a request that has signed in. -/
theorem Marked.own {conn : Nat} {written userId : Bytes} {memory later : Memory} {socket : Nat}
    {flag : UInt8} (marked : Marked conn written memory later)
    (found : memory.identity conn = some (userId, socket, flag)) :
    later.identity conn = some (memcpy userId written written.length, socket, yes) := by
  rw [marked conn, if_pos rfl, found]
  rfl

/-- A sign-in: the node of its id is taken over, so its connection has none but its own. -/
theorem Linked.signIn (linked : Linked config server) (pooled : Pooled config next) {a b : CLN}
    {inserted : Bool} {written : Bytes} {userId : Bytes} {flag : UInt8}
    (tidy : server.memory.online.tidySignIn a.conn b.userId) (filled : 12 ≤ b.userId.length)
    (found : server.memory.identity a.conn = some (userId, a.socket, flag))
    (conn : b.conn = a.conn) (socket : b.socket = a.socket)
    (online : next.memory.online = server.memory.online.signedIn b inserted)
    (named : Names written b.userId) (marked : Marked a.conn written server.memory next.memory)
    (tasks : ∀ task ∈ next.tasks, task ∈ server.tasks) : Linked config next := by
  obtain ⟨long, short, clear, alone⟩ := tidy
  have gone := takeover_gone clear ((linked.distinct _).single _) (.inl long)
  have own := marked.own found
  have before (kind : Kind) (node : User)
      (member : node ∈ (server.memory.online.takeover b.userId).nodes kind) :
      Tied next.memory kind node := by
    have present := takeover_subset clear member
    have tied := linked.tied kind node present
    have other : node.connHandle ≠ a.conn := by
      intro same
      have named := alone kind node present same
      have list : kind = kindOf b.userId := tied.routed ▸ kindOf_of_cstr named
      subst list
      exact gone node member named
    refine tied.frame ?_
    rw [marked, if_neg other]
  have added : Tied next.memory (kindOf b.userId) b.node := by
    refine ⟨rfl, kindOf_of_cstr (node_userId b), strlen_of_cstr (node_userId b) ▸ long, ?_⟩
    refine ⟨_, yes, ?_, (named short filled userId).trans (node_userId b).symm⟩
    change next.memory.identity b.conn = some (_, b.socket, yes)
    rw [conn, own, socket]
  refine ⟨pooled, fun kind node member => ?_, fun kind => ?_, fun task member => ?_⟩
  · rw [online, Lists.signedIn] at member
    split at member
    · rw [newOnline_nodes] at member
      split at member
      · rename_i list
        subst list
        rcases List.mem_cons.mp member with rfl | member
        · exact added
        · exact before _ node member
      · exact before kind node member
    · exact before kind node member
  · have distinct := takeover_distinct clear kind (linked.distinct kind)
    rw [online, Lists.signedIn]
    split
    · rw [newOnline_nodes]
      split
      · rename_i list
        subst list
        refine List.pairwise_cons.mpr ⟨fun node member same => ?_, distinct⟩
        exact gone node member (same.symm.trans (node_userId b))
      · exact distinct
    · exact distinct
  · obtain ⟨array, flag, found⟩ := linked.live task (tasks task member)
    by_cases same : task.request.conn = a.conn
    · rw [same] at found ⊢
      exact ⟨_, _, marked.own found⟩
    · refine ⟨array, flag, ?_⟩
      rw [marked, if_neg same]
      exact found

/-- A tidy round keeps the lists linked. -/
theorem Linked.round (config : Config) (server : ServerState) (round : Round)
    (next : ServerState) (tidy : Tidy server round) (linked : Linked config server)
    (stepped : server.round config round = some next) : Linked config next := by
  have pooled := linked.pooled.round stepped
  cases round with
  | event event =>
    obtain ⟨socket, rfl⟩ | ⟨same, -, arrived⟩ |
        ⟨entry, rest, record, rfl, ahead, known, due, rfl⟩ := on_effect stepped
    · exact linked.accept socket
    · refine linked.same pooled same fun task member => ?_
      obtain old | ⟨-, record, known, socket, -⟩ := arrived task member
      · exact linked.live task old
      · refine ⟨record.userId, record.info0, ?_⟩
        rw [Memory.identity, known, socket]
        rfl
    · have first : entry ∈ server.ahead.head? := by
        rw [ahead]
        rfl
      exact linked.free known (tidy entry first record known due) pooled
  | request index answers =>
    obtain ⟨task, trace, found, answered, effect, tasks, -⟩ :=
      request_effect stepped linked.pooled.programs
    obtain ⟨tidyOut, tidyIn⟩ := tidy task found
    have member : task ∈ server.tasks := List.mem_of_getElem? found
    have others (other : Task) (present : other ∈ next.tasks) : other ∈ server.tasks :=
      List.mem_of_mem_eraseIdx (tasks ▸ present)
    cases effect with
    | same kept =>
      exact linked.same pooled kept fun other present => linked.live other (others other present)
    | signOut requested result hears online identity =>
      have outside := tidyOut requested (comesTo_of_mem answered hears rfl)
      exact linked.signOut pooled outside online identity others
    | signIn b inserted written requested conn socket hears online named marked =>
      obtain ⟨userId, flag, found⟩ := linked.live task member
      have filled := signInId_length requested (linked.pooled.filled task member)
      have tidy := tidyIn b.userId requested (comesTo_of_mem answered hears rfl)
      exact linked.signIn pooled tidy filled found conn socket online named marked others

/-- In every run whose rounds are tidy, every online node has a live handle. -/
theorem live_handles (config : Config) (rounds : List Round)
    (tidy : (atomic config).Meets Tidy .initial rounds) :
    (atomic config).Always LiveHandles .initial rounds :=
  System.always_of_meets (fun _ linked => linked.liveHandles) (Linked.round config)
    (linked_initial config) tidy

/-- A sign-in of an id with a password, by a client that has no key. -/
def siaPacket (userId : String) : Bytes :=
  let id := text userId
  text "SIA" ++ zeros 15 ++ id ++ zeros (12 - id.length) ++ text "secret" ++ zeros 685

/-- The registered node of an id. -/
def registeredNode (userId : String) : User :=
  ⟨0, text userId, 7, text "secret", [], 0, true⟩

/-- What a sign-in is answered that finds its id registered and not online. -/
def welcomed (userId : String) : List Answer :=
  [.int 1, .found none, .found (some (registeredNode userId)), .unit, .int 1, .unit, .found none,
    .unit, .int 721, .unit, .unit]

/-- A connection greets and signs in. -/
def signingIn (userId : String) : List Round :=
  [.event (.accept 5), .event (.receive 0 (text "ZYXX1226") true),
    .request 0 [.int 721, .unit, .unit],
    .event (.receive 0 (siaPacket userId) true), .request 0 (welcomed userId)]

/-- The only connection is lost: two pings fail, and the second free pass finds it idle. -/
def losing : List Round :=
  [.event (.ping [some (-1)]), .event (.ping [some (-1)]), .event (.addConnMemWait4Free true),
    .event .beginPass, .event .visit, .event .beginPass, .event .visit]

/-- A device of eight characters signs in, in a run that then loses and frees its connection. -/
theorem live_handles_device : ∃ server,
    (atomic bareConfig).run .initial (signingIn "device01") = some server ∧
      (server.memory.online.nodes .iot).length = 1 ∧ LiveHandles server := by
  have counted : ((atomic bareConfig).run .initial (signingIn "device01")).map
      (fun server => (server.memory.online.nodes .iot).length) = some 1 := by
    decide +kernel
  obtain ⟨server, ran, one⟩ := Option.map_eq_some_iff.mp counted
  have tidy : (atomic bareConfig).Meets Tidy .initial (signingIn "device01" ++ losing) := by
    decide +kernel
  exact ⟨server, ran, one, live_handles bareConfig _ tidy 5 server ran⟩

/-- The node of a device of five characters stays when its connection is freed. -/
theorem short_id_outlives_connection :
    ¬∀ rounds, (atomic bareConfig).Always LiveHandles .initial rounds := by
  intro always
  have dangling : ((atomic bareConfig).run .initial (signingIn "dev01" ++ losing)).map
      (fun server => ((server.memory.online.nodes .iot).map User.connHandle,
        (server.memory.conns 0).isNone)) = some ([0], true) := by
    decide +kernel
  obtain ⟨server, ran, left⟩ := Option.map_eq_some_iff.mp dangling
  obtain ⟨handles, freed⟩ := Prod.mk.inj left
  obtain ⟨node, nodes, handle⟩ := List.map_eq_singleton_iff.mp handles
  obtain ⟨-, record, known⟩ := always (signingIn "dev01" ++ losing) 12 server ran .iot node
    (nodes ▸ List.mem_singleton_self node)
  rw [handle, Option.isNone_iff_eq_none.mp freed] at known
  exact nomatch known

end UubangIot
