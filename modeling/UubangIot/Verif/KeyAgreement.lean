import UubangIot.Verif.KeyModes
import UubangIot.Verif.LiveHandles

/-!
# Key agreement with a client

Every password is decoded with the key it was encrypted under as long as the client asks for a
password or a key only when no task of its connection has a key left to store or to announce and
no announcement is on its way. `HBA` replies before it stores its key, so a client that goes on
after that reply does not keep to this.
-/

namespace UubangIot

open Effect Effect.Prog RsaUtils Transition

/-! ## Moves -/

/-- The tasks of the server. -/
structure Pool (conn : Nat) (exchange : Exchange) : Prop where
  /-- The passwords. -/
  agreed : KeyAgreed conn exchange
  /-- At most one task of the connection has to do with keys. -/
  apart : exchange.server.tasks.Pairwise (Exclusive conn)
  /-- No task stores a key of a connection that is not its own. -/
  owned : ∀ task ∈ exchange.server.tasks, task.program.Only (storesOwn task.request)
  /-- The request objects. -/
  objects : ∀ task ∈ exchange.server.tasks, task.object < exchange.server.objects

/-- A client that has no connection yet. -/
structure Unconnected (conn : Nat) (exchange : Exchange) : Prop where
  /-- It has no key. -/
  key : exchange.key = none
  /-- Nothing was sent to it. -/
  wire : exchange.wire = []
  /-- It has sent nothing. -/
  flight : exchange.flight = none
  /-- It has no task. -/
  tasks : ∀ task ∈ exchange.server.tasks, task.request.conn ≠ conn

/-- What every patient move keeps. -/
structure Tracked (conn : Nat) (exchange : Exchange) : Prop where
  /-- The tasks. -/
  pool : Pool conn exchange
  /-- The key. -/
  mode : Mode conn exchange
  /-- Handles not given out yet. -/
  numbered : ∀ other, exchange.server.accepted ≤ other → exchange.server.memory.conns other = none
  /-- The client before it is accepted. -/
  fresh : exchange.server.accepted ≤ conn → Unconnected conn exchange
  /-- A password or key request on its way. -/
  flight : ∀ packet used, exchange.flight = some (packet, used) →
    (packetRequest packet).asks = true → Settled conn exchange ∧
      ((packetRequest packet).passwords = true → used.isSome = true ∧ used = exchange.key)

section

variable {config : Config} {conn index : Nat} {exchange later : Exchange}

/-- Before the first connection. -/
theorem tracked_initial (conn : Nat) : Tracked conn .initial where
  pool := ⟨fun _ member => (nomatch member), List.Pairwise.nil, fun _ member => (nomatch member),
    fun _ member => nomatch member⟩
  mode := .matched (fun _ told => nomatch told) (fun _ member => nomatch member)
    fun _ member => nomatch member
  numbered _ _ := rfl
  fresh _ := ⟨rfl, rfl, rfl, fun _ member => nomatch member⟩
  flight _ _ sent := nomatch sent

/-- The pool after an operation of a task. -/
theorem Pool.performed (pool : Pool conn exchange) {task : Task} {op : Op}
    {rest : op.Res → Handler Unit} {response : op.Res}
    (found : exchange.server.tasks[index]? = some task) (program : task.program = .call op rest)
    (exclusive : ∀ other ∈ exchange.server.tasks.eraseIdx index,
      Exclusive conn (task.performed op (rest response)) other)
    (tasks : later.server.tasks =
      exchange.server.tasks.set index (task.performed op (rest response)))
    (objects : later.server.objects = exchange.server.objects)
    (origin : later.origin = exchange.origin) : Pool conn later := by
  have member := List.mem_of_getElem? found
  have new := tasks ▸ pool_set_perm found (task.performed op (rest response))
  have cases' {property : Task → Prop} (own : property (task.performed op (rest response)))
      (others : ∀ other ∈ exchange.server.tasks, property other) :
      ∀ other ∈ later.server.tasks, property other := by
    intro other present
    rcases List.mem_cons.mp (new.mem_iff.mp present) with rfl | present
    · exact own
    · exact others other (List.mem_of_mem_eraseIdx present)
  refine ⟨?_, ?_, ?_, ?_⟩
  · rw [KeyAgreed, origin]
    exact cases' (pool.agreed task member) pool.agreed
  · refine new.symm.pairwise (List.pairwise_cons.mpr ⟨exclusive, ?_⟩) fun apart => apart.symm
    exact pool.apart.sublist (List.eraseIdx_sublist _ _)
  · refine cases' ?_ pool.owned
    have owned := pool.owned task member
    rw [program] at owned
    exact owned.2 response
  · rw [objects]
    exact cases' (pool.objects task member) pool.objects

/-- The others of a pool, next to a task. -/
theorem Pool.others (pool : Pool conn exchange) {task : Task}
    (found : exchange.server.tasks[index]? = some task) :
    ∀ other ∈ exchange.server.tasks.eraseIdx index, Exclusive conn task other :=
  (List.pairwise_cons.mp ((pool_perm found).pairwise pool.apart fun apart => apart.symm)).1

/-- A move that keeps keys, with the pool it leaves. -/
theorem Tracked.keep (tracked : Tracked conn exchange) (keeps : KeepsKeys conn exchange later)
    (pool : Pool conn later) (flight : later.flight = exchange.flight)
    (accepted : exchange.server.accepted ≤ later.server.accepted)
    (numbered : ∀ other, later.server.accepted ≤ other → later.server.memory.conns other = none)
    (fresh : exchange.server.accepted ≤ conn → Unconnected conn exchange →
      later.wire = [] ∧ ∀ task ∈ later.server.tasks, task.request.conn ≠ conn) :
    Tracked conn later where
  pool := pool
  mode := tracked.mode.frame keeps
  numbered := numbered
  fresh early := by
    have before := tracked.fresh (accepted.trans early)
    obtain ⟨wire, tasks⟩ := fresh (accepted.trans early) before
    exact ⟨keeps.key.trans before.key, wire, flight.trans before.flight, tasks⟩
  flight packet used sent asks := by
    obtain ⟨settled, password⟩ := tracked.flight packet used (flight.symm.trans sent) asks
    refine ⟨settled.frame keeps, fun passwords => ?_⟩
    obtain ⟨present, same⟩ := password passwords
    exact ⟨present, same.trans keeps.key.symm⟩

/-- An operation that keeps keys. -/
theorem Tracked.harmless (tracked : Tracked conn exchange) {task : Task} {op : Op}
    {rest : op.Res → Handler Unit} {response : op.Res} {memory : Memory}
    {wire : List (Nat × Frame)} {lost : Bool}
    (found : exchange.server.tasks[index]? = some task) (program : task.program = .call op rest)
    (after : exchange.server.memory.after ⟨op, response⟩ = some memory)
    (emits : Emits conn task.request op exchange.wire exchange.lost wire lost)
    (idle : task.request.conn = conn → (Prog.call op rest : Handler Unit).Only keyless) :
    Tracked conn (exchange.performed index task op (rest response) memory wire lost) := by
  have member := List.mem_of_getElem? found
  have owned := tracked.pool.owned task member
  rw [program] at owned
  have old := pool_perm found
  have new := pool_set_perm found (task.performed op (rest response))
  have unstored (key : RSAKey) : op ≠ .setConnKey conn key := by
    intro stores
    have own := owned.1 conn key stores
    subst stores
    exact (idle own.symm).1 rfl
  have sends : (∃ sent, wire = exchange.wire ++ sent ∧ Clear sent) ∧
      (exchange.lost = true → lost = true) := by
    by_cases own : task.request.conn = conn
    · exact emits.clear (idle own).1
    · obtain ⟨rfl, rfl⟩ := emits.foreign own
      exact ⟨⟨[], (List.append_nil _).symm, fun _ member => nomatch member⟩, id⟩
  have exclusive (other : Task) (_ : other ∈ exchange.server.tasks.eraseIdx index) :
      Exclusive conn (task.performed op (rest response)) other :=
    fun own _ => .inl ((idle own).2 response)
  have keeps : KeepsKeys conn exchange
      (exchange.performed index task op (rest response) memory wire lost) := by
    refine ⟨keysKept_of_after unstored after, rfl, sends.1, sends.2, ?_, ?_⟩
    · intro other present own
      rcases List.mem_cons.mp (new.mem_iff.mp present) with rfl | present
      · exact .inl ((idle own).2 response)
      · exact .inr (List.mem_of_mem_eraseIdx present)
    · intro other present own
      rcases List.mem_cons.mp (old.mem_iff.mp present) with rfl | present
      · exact .inl (program ▸ idle own)
      · exact .inr (new.mem_iff.mpr (List.mem_cons_of_mem _ present))
  refine tracked.keep keeps (tracked.pool.performed found program exclusive rfl rfl rfl) rfl le_rfl
    (fun other above => after_unused after (tracked.numbered other above)) fun _ before => ?_
  · obtain ⟨rfl, -⟩ := emits.foreign (before.tasks task member)
    refine ⟨before.wire, fun other present => ?_⟩
    rcases List.mem_cons.mp (new.mem_iff.mp present) with rfl | present
    · exact before.tasks task member
    · exact before.tasks other (List.mem_of_mem_eraseIdx present)

/-- An operation of the task that has to do with the connection's keys. -/
theorem Tracked.busy (tracked : Tracked conn exchange) {task : Task} {op : Op}
    {rest : op.Res → Handler Unit} {response : op.Res} {memory : Memory}
    {wire : List (Nat × Frame)} {lost : Bool}
    (found : exchange.server.tasks[index]? = some task) (program : task.program = .call op rest)
    (after : exchange.server.memory.after ⟨op, response⟩ = some memory)
    (own : task.request.conn = conn) (busy : ¬(Prog.call op rest : Handler Unit).Only keyless)
    (mode : Idle conn (exchange.server.tasks.eraseIdx index) →
      Mode conn (exchange.performed index task op (rest response) memory wire lost)) :
    Tracked conn (exchange.performed index task op (rest response) memory wire lost) := by
  have member := List.mem_of_getElem? found
  rw [← program] at busy
  have idle : Idle conn (exchange.server.tasks.eraseIdx index) := fun other present same =>
    (tracked.pool.others found other present own same).resolve_left busy
  have exclusive (other : Task) (present : other ∈ exchange.server.tasks.eraseIdx index) :
      Exclusive conn (task.performed op (rest response)) other :=
    fun _ same => .inr (idle other present same)
  refine ⟨tracked.pool.performed found program exclusive rfl rfl rfl, mode idle,
    fun other above => after_unused after (tracked.numbered other above), fun early => ?_,
    fun packet used sent asks => ?_⟩
  · exact absurd own ((tracked.fresh early).tasks task member)
  · exact absurd ((tracked.flight packet used sent asks).1.idle task member own) busy

/-- One operation of a task. -/
theorem Tracked.step {answer : Answer} (tracked : Tracked conn exchange)
    (moved : exchange.turn config conn (.step index answer) = some later) :
    Tracked conn later := by
  obtain ⟨task, op, rest, response, memory, wire, lost, found, program, after, emits, rfl⟩ :=
    turn_step_cases moved
  by_cases idle : task.request.conn = conn → (Prog.call op rest : Handler Unit).Only keyless
  · exact tracked.harmless found program after emits idle
  · push Not at idle
    obtain ⟨own, busy⟩ := idle
    refine tracked.busy found program after own busy fun others => ?_
    have member := List.mem_of_getElem? found
    have old := pool_perm found
    have new := pool_set_perm found (task.performed op (rest response))
    have performed : task.performed op (rest response) ∈
        exchange.server.tasks.set index (task.performed op (rest response)) :=
      new.mem_iff.mpr List.mem_cons_self
    have idle (still : (rest response).Only keyless) :
        Idle conn (exchange.server.tasks.set index (task.performed op (rest response))) := by
      intro other present same
      rcases List.mem_cons.mp (new.mem_iff.mp present) with rfl | present
      · exact still
      · exact others other present same
    have kept (still : keyless op) : KeysKept conn exchange.server.memory memory := by
      refine keysKept_of_after (fun key stores => ?_) after
      subst stores
      exact still rfl
    cases tracked.mode with
    | announced all => exact absurd (program ▸ all task member own) busy
    | lost all => exact absurd (program ▸ all task member own) busy
    | matched agrees clear rekeys =>
      have shape := rekeys task member own
      rw [program] at shape
      cases shape with
      | call first leads =>
        obtain ⟨⟨sent, longer, silent⟩, -⟩ := emits.clear first
        refine .matched (fun text told record known => ?_) ?_ fun other present same => ?_
        · obtain ⟨before, there, equal⟩ := kept first record known
          exact equal ▸ agrees text told before there
        · exact longer ▸ clear.append silent
        · rcases List.mem_cons.mp (new.mem_iff.mp present) with rfl | present
          · exact leads response trivial
          · exact .here (.inl (others other present same))
      | here stores =>
        obtain still | ⟨key, next, stores, announces⟩ := stores
        · exact absurd still busy
        · obtain ⟨rfl, equal⟩ := Prog.call.inj stores
          obtain rfl := eq_of_heq equal
          obtain ⟨rfl, rfl⟩ : wire = exchange.wire ∧ lost = exchange.lost := by
            cases emits with
            | silent unsent => exact ⟨rfl, rfl⟩
            | failed _ _ send => exact nomatch send
            | sent _ _ send => exact nomatch send
          refine .stored _ performed own key announces (fun record known => ?_) clear
          rw [own] at after
          exact stored_of_after after known
    | stored announcer present same key announces stored clear =>
      -- the task that announces is the only one that has to do with keys
      have one : announcer = task := by
        rcases List.mem_cons.mp (old.mem_iff.mp present) with rfl | present
        · rfl
        · exact absurd (others announcer present same) announces.busy
      subst one
      rw [program] at announces
      cases announces with
      | other still way on =>
        obtain ⟨⟨sent, longer, silent⟩, -⟩ := emits.clear still
        refine .stored _ performed own key (on response) (fun record known => ?_) ?_
        · obtain ⟨before, there, equal⟩ := kept still record known
          exact equal.trans (stored before there)
        · exact longer ▸ clear.append silent
      | send announced silent =>
        have unstored : KeysKept conn exchange.server.memory memory :=
          keysKept_of_after (fun _ impossible => Op.noConfusion impossible) after
        have still := idle (silent response)
        cases emits with
        | silent unsent => exact absurd rfl (unsent own _)
        | failed _ frame send => exact .lost still clear rfl
        | sent _ frame send number =>
          obtain ⟨-, rfl⟩ := Op.send.inj send
          refine .announced still exchange.wire [] (number, _) rfl ?_ key announced ?_
          · rw [List.append_nil]
            exact clear
          · intro record known
            obtain ⟨before, there, equal⟩ := unstored record known
            exact equal.trans (stored before there)

/-- A turn that is no operation of a task sends the client nothing. -/
theorem turn_server_cases {turn : Turn} (moved : exchange.turn config conn turn = some later)
    (unstepped : exchange.emitted conn turn = none) :
    turn.receives conn = false ∧ ∃ server, exchange.server.turn config turn = some server ∧
      later = { exchange with server } := by
  unfold Exchange.turn at moved
  split at moved
  · exact nomatch moved
  · rename_i elsewhere
    obtain ⟨server, turned, rfl⟩ := Option.map_eq_some_iff.mp moved
    refine ⟨Bool.eq_false_of_not_eq_true elsewhere, server, turned, ?_⟩
    rw [unstepped]

/-- A pool with the tasks it had. -/
theorem Pool.same (pool : Pool conn exchange) {server : ServerState}
    (tasks : server.tasks = exchange.server.tasks)
    (objects : exchange.server.objects ≤ server.objects) : Pool conn { exchange with server } := by
  refine ⟨?_, ?_, ?_, ?_⟩
  · intro task member
    exact pool.agreed task (tasks ▸ member)
  · exact tasks ▸ pool.apart
  · intro task member
    exact pool.owned task (tasks ▸ member)
  · intro task member
    exact (pool.objects task (tasks ▸ member)).trans_le objects

/-- A request of another connection joins the pool. -/
theorem Pool.join (pool : Pool conn exchange) {server : ServerState} {request : CLN}
    (other : request.conn ≠ conn) (objects : server.objects = exchange.server.objects + 1)
    (tasks : server.tasks = exchange.server.tasks ++
      [⟨request, exchange.server.objects, talk config request, false⟩]) :
    Pool conn { exchange with server } := by
  have cases' {property : Task → Prop}
      (new : property ⟨request, exchange.server.objects, talk config request, false⟩)
      (others : ∀ task ∈ exchange.server.tasks, property task) :
      ∀ task ∈ server.tasks, property task := by
    intro task member
    rw [tasks] at member
    rcases List.mem_append.mp member with old | late
    · exact others task old
    · exact List.mem_singleton.mp late ▸ new
  refine ⟨cases' (fun own => absurd own other) pool.agreed, ?_, ?_, ?_⟩
  · change server.tasks.Pairwise (Exclusive conn)
    rw [tasks, List.pairwise_append]
    refine ⟨pool.apart, List.pairwise_singleton _ _, fun first _ second member _ own => ?_⟩
    rw [List.mem_singleton.mp member] at own
    exact absurd own other
  · exact cases' (talk_rekeys config request).own pool.owned
  · change ∀ task ∈ server.tasks, task.object < server.objects
    rw [objects]
    exact cases' (Nat.lt_succ_self _) fun task member => Nat.lt_succ_of_lt (pool.objects task member)

/-- Another connection that is accepted leaves the exchange tracked. -/
theorem Tracked.accept (tracked : Tracked conn exchange) (socket : Nat) :
    Tracked conn { exchange with server := exchange.server.accept socket } := by
  have pool : Pool conn { exchange with server := exchange.server.accept socket } :=
    tracked.pool.same rfl le_rfl
  have numbered (other : Nat) (above : exchange.server.accepted + 1 ≤ other) :
      (exchange.server.accept socket).memory.conns other = none := by
    cases known : (exchange.server.accept socket).memory.conns other with
    | none => rfl
    | some record =>
      obtain ⟨rfl, -⟩ | ⟨-, old⟩ := accept_record known
      · omega
      · exact nomatch (tracked.numbered other (by omega)).symm.trans old
  by_cases own : conn = exchange.server.accepted
  · -- the client's own connection: it has no key yet
    have before := tracked.fresh own.ge
    have settled : Settled conn { exchange with server := exchange.server.accept socket } := by
      refine ⟨fun task member same => absurd same (before.tasks task member), ?_, ?_⟩
      · intro entry member
        rw [before.wire] at member
        exact nomatch member
      · intro text told
        exact nomatch before.key.symm.trans told
    refine ⟨pool, settled.mode, numbered, fun early => ?_, fun packet used sent => ?_⟩
    · have early : exchange.server.accepted + 1 ≤ conn := early
      omega
    · exact nomatch before.flight.symm.trans sent
  · have keeps : KeepsKeys conn exchange
        { exchange with server := exchange.server.accept socket } := by
      refine ⟨fun record found => ?_, rfl, ⟨[], (List.append_nil _).symm, fun _ none => nomatch none⟩,
        id, fun _ member _ => .inr member, fun _ member _ => .inr member⟩
      obtain ⟨new, -⟩ | ⟨-, old⟩ := accept_record found
      · exact absurd new own
      · exact ⟨record, old, rfl⟩
    exact tracked.keep keeps pool rfl (Nat.le_succ _) numbered fun _ before =>
      ⟨before.wire, before.tasks⟩

/-- An event around the handlers. -/
theorem Tracked.on {event : ServerEvent} (tracked : Tracked conn exchange)
    (moved : exchange.turn config conn (.event event) = some later) : Tracked conn later := by
  obtain ⟨elsewhere, server, happened, rfl⟩ := turn_server_cases moved rfl
  obtain ⟨socket, rfl⟩ | away := on_keys elsewhere happened
  · exact tracked.accept socket
  · have members : (∀ task ∈ server.tasks, task.request.conn = conn →
          task ∈ exchange.server.tasks) ∧
        (∀ task ∈ exchange.server.tasks, task ∈ server.tasks) ∧
        Pool conn { exchange with server } := by
      obtain ⟨same, objects⟩ | ⟨request, other, objects, more⟩ := away.tasks
      · rw [same]
        exact ⟨fun _ member _ => member, fun _ member => member, tracked.pool.same same objects⟩
      · refine ⟨fun task member own => ?_, fun task member => ?_, tracked.pool.join other objects more⟩
        · rw [more] at member
          rcases List.mem_append.mp member with old | new
          · exact old
          · rw [List.mem_singleton.mp new] at own
            exact absurd own other
        · rw [more]
          exact List.mem_append_left _ member
    obtain ⟨older, stays, pool⟩ := members
    have keeps : KeepsKeys conn exchange { exchange with server } :=
      ⟨away.kept, rfl, ⟨[], (List.append_nil _).symm, fun _ none => nomatch none⟩, id,
        fun task member own => .inr (older task member own),
        fun task member _ => .inr (stays task member)⟩
    refine tracked.keep keeps pool rfl away.accepted.ge (fun other above => ?_) fun _ before => ?_
    · exact away.unused other (tracked.numbered other (away.accepted ▸ above))
    · exact ⟨before.wire, fun task member own => before.tasks task (older task member own) own⟩

/-- A task that has returned leaves. -/
theorem Tracked.leave (tracked : Tracked conn exchange)
    (moved : exchange.turn config conn (.leave index) = some later) : Tracked conn later := by
  obtain ⟨-, server, left, rfl⟩ := turn_server_cases moved rfl
  obtain ⟨task, found, returned, rfl⟩ := leave_cases left
  have older (other : Task) (member : other ∈ exchange.server.tasks.eraseIdx index) :
      other ∈ exchange.server.tasks := List.mem_of_mem_eraseIdx member
  have pool := tracked.pool
  have keeps : KeepsKeys conn exchange { exchange with
      server := { exchange.server with tasks := exchange.server.tasks.eraseIdx index } } := by
    refine ⟨fun record found => ⟨record, found, rfl⟩, rfl,
      ⟨[], (List.append_nil _).symm, fun _ none => nomatch none⟩, id,
      fun other member _ => .inr (older other member), fun other member _ => ?_⟩
    rcases List.mem_cons.mp ((pool_perm found).mem_iff.mp member) with rfl | member
    · rw [returned]
      exact .inl trivial
    · exact .inr member
  refine tracked.keep keeps ⟨?_, ?_, ?_, ?_⟩ rfl le_rfl tracked.numbered fun _ before => ?_
  · exact fun other member => pool.agreed other (older other member)
  · exact pool.apart.sublist (List.eraseIdx_sublist _ _)
  · exact fun other member => pool.owned other (older other member)
  · exact fun other member => pool.objects other (older other member)
  · exact ⟨before.wire, fun other member => before.tasks other (older other member)⟩

/-- The client sends a request. -/
theorem Tracked.send {packet : Bytes} (tracked : Tracked conn exchange)
    (patient : Patient conn exchange (.send packet))
    (moved : exchange.send conn packet = some later) : Tracked conn later := by
  obtain ⟨⟨-, -, connected, accepted, keyed⟩, sent⟩ := Option.ite_none_right_eq_some.mp moved
  obtain rfl := Option.some.inj sent
  have keeps : KeepsKeys conn exchange { exchange with
      number := exchange.number + 1, awaiting := true, flight := some (packet, exchange.key) } :=
    ⟨fun record found => ⟨record, found, rfl⟩, rfl,
      ⟨[], (List.append_nil _).symm, fun _ none => nomatch none⟩, id,
      fun _ member _ => .inr member, fun _ member _ => .inr member⟩
  refine ⟨⟨tracked.pool.agreed, tracked.pool.apart, tracked.pool.owned, tracked.pool.objects⟩,
    tracked.mode.frame keeps, tracked.numbered, fun early => ?_, fun other used flying asks => ?_⟩
  · rw [tracked.numbered conn early] at accepted
    exact Bool.noConfusion accepted
  · obtain ⟨rfl, rfl⟩ := Prod.mk.inj (Option.some.inj flying)
    obtain ⟨idle, clear⟩ := patient asks
    exact ⟨(tracked.mode.settled idle clear connected).frame keeps,
      fun passwords => ⟨keyed passwords, rfl⟩⟩

/-- The client receives a frame. -/
theorem Tracked.deliver (tracked : Tracked conn exchange)
    (moved : exchange.deliver = some later) : Tracked conn later := by
  unfold Exchange.deliver at moved
  split at moved
  · exact nomatch moved
  · rename_i number frame wire shape
    obtain rfl := Option.some.inj moved
    have pool := tracked.pool
    -- while nothing is on its way the client's key stays
    have silent (clear : Clear exchange.wire) :
        frame.announced.or exchange.key = exchange.key ∧ Clear wire := by
      rw [shape] at clear
      have none : frame.announced = none := clear (number, frame) List.mem_cons_self
      exact ⟨by rw [none, Option.none_or],
        fun entry member => clear entry (List.mem_cons_of_mem _ member)⟩
    refine ⟨⟨pool.agreed, pool.apart, pool.owned, pool.objects⟩, ?_, tracked.numbered,
      fun early => ?_, fun packet used flying asks => ?_⟩
    · cases tracked.mode with
      | matched agrees clear rekeys =>
        obtain ⟨key, clear⟩ := silent clear
        exact .matched (fun text told => agrees text (key.symm.trans told)) clear rekeys
      | stored task member own key announces stored clear =>
        exact .stored task member own key announces stored (silent clear).2
      | lost idle clear lost => exact .lost idle (silent clear).2 lost
      | announced idle before after entry split clear key text stored =>
        rw [shape] at split
        cases before with
        | nil =>
          obtain ⟨rfl, rfl⟩ := List.cons.inj split
          have settled : Settled conn { exchange with
              wire
              key := frame.announced.or exchange.key
              awaiting := exchange.awaiting && decide (number ≠ exchange.number) } := by
            refine ⟨idle, clear, fun told same record known => ?_⟩
            have text : frame.announced = some (announcement key) := text
            have same : frame.announced.or exchange.key = some told := same
            rw [text, Option.some_or] at same
            rw [stored record known]
            exact Option.some.inj same
          exact settled.mode
        | cons first before =>
          obtain ⟨rfl, rfl⟩ := List.cons.inj split
          refine .announced idle before after entry rfl (fun other member => ?_) key text stored
          exact clear other (List.mem_cons_of_mem _ member)
    · have before := tracked.fresh early
      exact nomatch before.wire.symm.trans shape
    · obtain ⟨settled, password⟩ := tracked.flight packet used flying asks
      obtain ⟨key, clear⟩ := silent settled.clear
      refine ⟨⟨settled.idle, clear, fun text told => settled.agrees text (key.symm.trans told)⟩,
        fun passwords => ?_⟩
      obtain ⟨present, same⟩ := password passwords
      exact ⟨present, same.trans key.symm⟩

/-- What comes of a packet of the connection: its key stays, and its request arrives at most. -/
theorem receive_keys {server next : ServerState} {packet : Bytes} {allocated : Bool}
    {record : CLN} (known : server.memory.conns conn = some record)
    (received : server.receive config conn packet allocated = some next) :
    KeysKept conn server.memory next.memory ∧ next.accepted = server.accepted ∧
      (∀ other, server.memory.conns other = none → next.memory.conns other = none) ∧
      ((next.tasks = server.tasks ∧ server.objects ≤ next.objects) ∨
      ∃ request, Copied conn record packet request ∧ next.objects = server.objects + 1 ∧
        next.tasks = server.tasks ++ [⟨request, server.objects, talk config request, false⟩]) := by
  have still {later : ServerState} (memory : later.memory = server.memory) :
      KeysKept conn server.memory later.memory := fun record found => ⟨record, memory ▸ found, rfl⟩
  obtain ⟨before, there, outcome⟩ := receive_cases received
  obtain rfl := Option.some.inj (there.symm.trans known)
  obtain ⟨-, rfl⟩ | ⟨-, -, rfl⟩ | ⟨later, greeted, rfl⟩ |
    ⟨-, -, later, request, greeted, -, copied, rfl⟩ := outcome
  · exact ⟨still rfl, rfl, fun _ => id, .inl ⟨rfl, le_rfl⟩⟩
  · exact ⟨still rfl, rfl, fun _ => id, .inl ⟨rfl, le_rfl⟩⟩
  · exact ⟨keysKept_store known greeted.key, rfl, fun _ => store_unused,
      .inl ⟨rfl, Nat.le_succ _⟩⟩
  · exact ⟨keysKept_store known greeted.key, rfl, fun _ => store_unused,
      .inr ⟨request, copied, rfl, rfl⟩⟩

/-- The passwords of the tasks that were there. -/
theorem Pool.older (pool : Pool conn exchange) {server : ServerState} {sent : List Frame}
    {used : Option Bytes} {task : Task} (member : task ∈ exchange.server.tasks)
    (own : task.request.conn = conn) (passwords : task.request.passwords = true) :
    ((exchange.arrived server sent used).origin task.object).2 =
      some (announcement task.request.passwordKey) := by
  have other : task.object ≠ exchange.server.objects := Nat.ne_of_lt (pool.objects task member)
  have same : (exchange.arrived server sent used).origin task.object =
      exchange.origin task.object := Function.update_of_ne other _ _
  rw [same]
  exact pool.agreed task member own passwords

/-- The password of a request that arrives. -/
theorem Tracked.password (tracked : Tracked conn exchange) {server : ServerState}
    {sent : List Frame} {packet : Bytes} {used : Option Bytes} {record request : CLN}
    (flying : exchange.flight = some (packet, used))
    (known : exchange.server.memory.conns conn = some record)
    (copied : Copied conn record packet request)
    (passwords : (packetRequest packet).passwords = true) :
    ((exchange.arrived server sent used).origin exchange.server.objects).2 =
      some (announcement request.passwordKey) := by
  have asks : (packetRequest packet).asks = true := by rw [CLN.asks, passwords, Bool.true_or]
  obtain ⟨settled, password⟩ := tracked.flight packet used flying asks
  obtain ⟨present, same⟩ := password passwords
  obtain ⟨text, rfl⟩ := Option.isSome_iff_exists.mp present
  have origin : (exchange.arrived server sent (some text)).origin exchange.server.objects =
      (exchange.number, some text) := Function.update_self _ _ _
  rw [origin, CLN.passwordKey, copied.fields.2.2, settled.agrees text same.symm record known]

/-- The request of the client's packet joins the pool. -/
theorem Tracked.dispatched (tracked : Tracked conn exchange) {server : ServerState}
    {sent : List Frame} {packet : Bytes} {used : Option Bytes} {record request : CLN}
    (flying : exchange.flight = some (packet, used))
    (known : exchange.server.memory.conns conn = some record)
    (copied : Copied conn record packet request)
    (kept : KeysKept conn exchange.server.memory server.memory)
    (silent : Clear (sent.map fun frame => (exchange.number, frame)))
    (objects : server.objects = exchange.server.objects + 1)
    (tasks : server.tasks = exchange.server.tasks ++
      [⟨request, exchange.server.objects, talk config request, false⟩]) :
    Pool conn (exchange.arrived server sent used) ∧
      Mode conn (exchange.arrived server sent used) := by
  have code : request.code = (packetRequest packet).code := by
    obtain ⟨_, rfl⟩ := copied
    exact snapshot_code conn record packet
  obtain ⟨passwords, rekeying⟩ := asks_of_code code
  have pool := tracked.pool
  have settled (rekeys : request.rekeying = true) : Settled conn exchange := by
    refine (tracked.flight packet used flying ?_).1
    rw [CLN.asks, ← rekeying, rekeys, Bool.or_true]
  have cases' {property : Task → Prop}
      (new : property ⟨request, exchange.server.objects, talk config request, false⟩)
      (others : ∀ task ∈ exchange.server.tasks, property task) :
      ∀ task ∈ server.tasks, property task := by
    intro task member
    rw [tasks] at member
    rcases List.mem_append.mp member with old | late
    · exact others task old
    · exact List.mem_singleton.mp late ▸ new
  refine ⟨⟨?_, ?_, ?_, ?_⟩, ?_⟩
  · refine cases' (fun _ asks => ?_) fun task member own => pool.older member own
    exact tracked.password flying known copied (passwords ▸ asks)
  · change server.tasks.Pairwise (Exclusive conn)
    rw [tasks, List.pairwise_append]
    refine ⟨pool.apart, List.pairwise_singleton _ _, fun first old second member own _ => ?_⟩
    rw [List.mem_singleton.mp member]
    cases rekeys : request.rekeying with
    | true => exact .inl ((settled rekeys).idle first old own)
    | false => exact .inr (talk_keyless config rekeys)
  · exact cases' (talk_rekeys config request).own pool.owned
  · change ∀ task ∈ server.tasks, task.object < server.objects
    rw [objects]
    exact cases' (Nat.lt_succ_self _) fun task member => Nat.lt_succ_of_lt (pool.objects task member)
  · cases rekeys : request.rekeying with
    | true =>
      have settled := settled rekeys
      refine .matched (fun text told after found => ?_) (settled.clear.append silent) ?_
      · obtain ⟨before, there, same⟩ := kept after found
        rw [same]
        exact settled.agrees text told before there
      · refine cases' (fun _ => talk_rekeys config request) fun task member own => ?_
        exact .here (.inl (settled.idle task member own))
    | false =>
      refine tracked.mode.frame ⟨kept, rfl, ⟨_, rfl, silent⟩, id, ?_, fun task member _ => ?_⟩
      · exact cases' (fun _ => .inl (talk_keyless config rekeys)) fun task member _ => .inr member
      · refine .inr ?_
        change task ∈ server.tasks
        rw [tasks]
        exact List.mem_append_left _ member

/-- The arrival of the client's packet leaves the exchange tracked. -/
theorem Tracked.arrive {allocated : Bool} (tracked : Tracked conn exchange)
    (moved : exchange.arrive config conn allocated = some later) : Tracked conn later := by
  unfold Exchange.arrive at moved
  split at moved
  · rename_i packet used record flying known
    obtain ⟨server, received, rfl⟩ := Option.map_eq_some_iff.mp moved
    obtain ⟨kept, accepted, unused, tasks⟩ := receive_keys known received
    have silent : Clear ((serverWork conn record packet allocated).sent.map
        fun frame => (exchange.number, frame)) := by
      intro entry member
      obtain ⟨frame, sent, rfl⟩ := List.mem_map.mp member
      exact sent_clear conn record packet allocated frame sent
    -- the connection is there, so its handle was given out
    have given : ¬server.accepted ≤ conn := by
      intro early
      exact nomatch (tracked.numbered conn (accepted ▸ early)).symm.trans known
    have numbered (other : Nat) (above : server.accepted ≤ other) :
        server.memory.conns other = none :=
      unused other (tracked.numbered other (accepted ▸ above))
    obtain ⟨pool, mode⟩ : Pool conn (exchange.arrived server
          (serverWork conn record packet allocated).sent used) ∧
        Mode conn (exchange.arrived server (serverWork conn record packet allocated).sent used) := by
      obtain ⟨same, objects⟩ | ⟨request, copied, objects, more⟩ := tasks
      · have pool := tracked.pool
        refine ⟨⟨?_, ?_, ?_, ?_⟩, tracked.mode.frame ⟨kept, rfl, ⟨_, rfl, silent⟩, id, ?_, ?_⟩⟩
        · exact fun task member own => pool.older (same ▸ member) own
        · exact same ▸ pool.apart
        · exact fun task member => pool.owned task (same ▸ member)
        · exact fun task member => (pool.objects task (same ▸ member)).trans_le objects
        · exact fun _ member _ => .inr (same ▸ member)
        · exact fun _ member _ => .inr (same ▸ member)
      · exact tracked.dispatched flying known copied kept silent objects more
    exact ⟨pool, mode, numbered, fun early => absurd early given, fun _ _ sent => nomatch sent⟩
  · exact nomatch moved

/-- A patient move leaves the exchange tracked. -/
theorem Tracked.move (config : Config) (conn : Nat) (exchange : Exchange) (move : Move)
    (later : Exchange) (patient : Patient conn exchange move) (tracked : Tracked conn exchange)
    (moved : exchange.move config conn move = some later) : Tracked conn later := by
  cases move with
  | send packet => exact tracked.send patient moved
  | arrive allocated => exact tracked.arrive moved
  | deliver => exact tracked.deliver moved
  | turn turn =>
    cases turn with
    | event event => exact tracked.on moved
    | step index answer => exact tracked.step moved
    | leave index => exact tracked.leave moved

end

/-- In every run whose client is patient, every password of the connection is decoded with the key
it was encrypted under. -/
theorem keys_agree (config : Config) (conn : Nat) (moves : List Move)
    (patient : (exchanges config conn).Meets (Patient conn) .initial moves) :
    (exchanges config conn).Always (KeyAgreed conn) .initial moves :=
  System.always_of_meets (fun _ tracked => tracked.pool.agreed) (Tracked.move config conn)
    (tracked_initial conn) patient

/-- A client that sends only when nothing is left to do. -/
def Unhurried (exchange : Exchange) : Move → Prop
  | .send _ => exchange.server.tasks.length = 0 ∧ exchange.wire = []
  | _ => True

instance (exchange : Exchange) : (move : Move) → Decidable (Unhurried exchange move)
  | .send _ => inferInstanceAs (Decidable (_ ∧ _))
  | .arrive _ | .turn _ | .deliver => inferInstanceAs (Decidable True)

/-- A client that sends only when nothing is left to do is patient. -/
theorem Unhurried.patient {exchange : Exchange} {move : Move} (unhurried : Unhurried exchange move)
    (conn : Nat) : Patient conn exchange move := by
  cases move with
  | send packet =>
    obtain ⟨none, silent⟩ := unhurried
    refine fun _ => ⟨fun task member => ?_, fun entry member => ?_⟩
    · rw [List.length_eq_zero_iff.mp none] at member
      exact nomatch member
    · rw [silent] at member
      exact nomatch member
  | _ => trivial

/-- Operations of a task of the server. -/
def serving (index : Nat) (answers : List Answer) : List Move :=
  answers.map fun answer => .turn (.step index answer)

/-- A client connects, greets, and asks for a key. -/
def askingKey (key : RSAKey) : List Move :=
  [.turn (.event (.accept 5)), .send (text "ZYXX1226"), .arrive true] ++
    serving 0 [.int 721, .unit, .unit] ++ [.turn (.leave 0), .deliver] ++
    [.send (text "RSA"), .arrive true] ++
    serving 0 [.key key, .key key, .unit, .int 721, .unit, .unit] ++ [.turn (.leave 0), .deliver]

/-- The key of the primes 13 and 17. -/
def firstKey : RSAKey := ⟨5, 77, 221, 1⟩
/-- The key of the primes 13 and 19. -/
def secondKey : RSAKey := ⟨5, 173, 247, 1⟩

/-- A client that has its key signs in. -/
theorem keys_agree_sign_in : ∃ exchange,
    (exchanges bareConfig 0).run .initial
        (askingKey firstKey ++ [.send (siaPacket "device01"), .arrive true]) = some exchange ∧
      exchange.server.tasks.length = 1 ∧ KeyAgreed 0 exchange := by
  have arrived : ((exchanges bareConfig 0).run .initial
      (askingKey firstKey ++ [.send (siaPacket "device01"), .arrive true])).map
      (fun exchange => exchange.server.tasks.length) = some 1 := by
    decide +kernel
  obtain ⟨exchange, ran, one⟩ := Option.map_eq_some_iff.mp arrived
  have unhurried : (exchanges bareConfig 0).Meets Unhurried .initial
      (askingKey firstKey ++ [.send (siaPacket "device01"), .arrive true]) := by
    decide +kernel
  have patient := unhurried.mono fun _ _ calm => calm.patient 0
  exact ⟨exchange, ran, one, keys_agree bareConfig 0 _ patient 20 exchange ran⟩

/-- A client that goes on after the reply `HBA`: its sign-in is under the key it has, and arrives
after the heartbeat has stored another. -/
def hurrying : List Move :=
  askingKey firstKey ++ [.send (text "HBA"), .arrive true] ++ serving 0 [.int 721] ++
    [.deliver, .send (siaPacket "device01")] ++
    serving 0 [.key secondKey, .key secondKey, .unit] ++ [.arrive true]

/-- A sign-in sent after the reply `HBA` is decoded with a key the client was not told. -/
theorem heartbeat_replaces_key :
    ¬∀ conn moves, (exchanges bareConfig conn).Always (KeyAgreed conn) .initial moves := by
  intro always
  have wrong : ((exchanges bareConfig 0).run .initial hurrying).map
      (fun exchange => decide (KeyAgreed 0 exchange)) = some false := by
    decide +kernel
  obtain ⟨exchange, ran, disagrees⟩ := Option.map_eq_some_iff.mp wrong
  exact of_decide_eq_false disagrees (always 0 hurrying 27 exchange ran)

end UubangIot
