import UubangIot.Verif.LiveHandles

/-!
# Sign-in flags

A connection has `info[0] == 'Y'` exactly when an online list holds a node of it, in every run of
whole requests whose rounds are steady. Nothing in the handlers takes the flag back, so a steady
round removes no node of a connection that stays: no sign-out of one, and no sign-in over one of
another connection.
-/

namespace UubangIot

open Transition

/-- An online list holds a node of the connection. -/
def Lists.holds (online : Lists) (conn : Nat) : Prop :=
  ∃ kind, ∃ node ∈ online.nodes kind, node.allocated = true ∧ node.connHandle = conn

/-- The flags of the connections agree with the online lists. -/
def FlagsAgree (server : ServerState) : Prop :=
  ∀ conn record, server.memory.conns conn = some record →
    (record.signedIn = true ↔ server.memory.online.holds conn)

/-- A sign-out that finds no node, or the node of a connection that has been freed. -/
def Memory.steadySignOut (memory : Memory) (userId : Bytes) (socket : Nat) : Prop :=
  memory.online.removesBetween userId socket = false ∧
    (6 ≤ strlen userId → ∀ node ∈ memory.online.nodes (kindOf userId),
      owns userId socket node = true → (memory.conns node.connHandle).isNone = true)

/-- A sign-in that takes over no node of another connection that has not been freed. -/
def Memory.steadySignIn (memory : Memory) (conn : Nat) (userId : Bytes) : Prop :=
  strlen userId < 12 ∧ memory.online.clearTakeover userId ∧
    ∀ node ∈ memory.online.find (kindOf userId) (.name userId),
      node.connHandle = conn ∨ (memory.conns node.connHandle).isNone = true

/-- A request that is steady: as a sign-out, and as a sign-in that is let in, which also finds
memory for its node. -/
def ServerState.steadyRequest (server : ServerState) (task : Task) (answers : List Answer) :
    Prop :=
  (task.request.requestClass = .user .sto → task.comesTo answers signsOut = true →
    server.memory.steadySignOut task.request.userId task.request.socket) ∧
  ∀ userId ∈ task.request.signInId, task.comesTo answers signsIn = true →
    task.comesTo answers lacksMemory = false ∧
      server.memory.steadySignIn task.request.conn userId

/-- A connection whose node is not between two others when it is freed. -/
def ServerState.steadyFree (server : ServerState) (entry : Waiting) (record : CLN) : Prop :=
  entry.due record = true →
    server.memory.online.removesBetween record.userId record.socket = false

/-- A round that keeps the flags in agreement. -/
def Steady (server : ServerState) : Round → Prop
  | .event .visit => ∀ entry ∈ server.ahead.head?, ∀ record ∈ server.memory.conns entry.conn,
    server.steadyFree entry record
  | .request index answers => ∀ task ∈ server.tasks[index]?, server.steadyRequest task answers
  | _ => True

instance (memory : Memory) (userId : Bytes) (socket : Nat) :
    Decidable (memory.steadySignOut userId socket) := inferInstanceAs (Decidable (_ ∧ _))

instance (memory : Memory) (conn : Nat) (userId : Bytes) :
    Decidable (memory.steadySignIn conn userId) := inferInstanceAs (Decidable (_ ∧ _ ∧ _))

instance (server : ServerState) (task : Task) (answers : List Answer) :
    Decidable (server.steadyRequest task answers) := inferInstanceAs (Decidable (_ ∧ _))

instance (server : ServerState) (entry : Waiting) (record : CLN) :
    Decidable (server.steadyFree entry record) := inferInstanceAs (Decidable (_ → _))

instance (server : ServerState) : (round : Round) → Decidable (Steady server round)
  | .event .visit => inferInstanceAs (Decidable (∀ entry ∈ _, ∀ record ∈ _, _))
  | .request _ _ => inferInstanceAs (Decidable (∀ task ∈ _, _))
  | .event (.accept _) | .event (.receive _ _ _) | .event (.ping _)
  | .event (.addConnMemWait4Free _) | .event .beginPass => inferInstanceAs (Decidable True)

/-! ## The flag of one connection -/

/-- The flag of a connection against the lists: with it the connection has a node of the id it
carries, and without it neither a node nor an id that could remove one. -/
def Lists.backs (online : Lists) (conn : Nat) (userId : Bytes) (flag : UInt8) : Prop :=
  (flag = yes ∧ ∃ node ∈ online.nodes (kindOf userId),
    cstr node.userId = cstr userId ∧ node.connHandle = conn) ∨
  (flag ≠ yes ∧ strlen userId < 6 ∧ ∀ kind, ∀ node ∈ online.nodes kind, node.connHandle ≠ conn)

section

variable {online : Lists} {conn : Nat} {userId : Bytes} {flag : UInt8}

/-- A removal of no node of the connection. -/
theorem backs_removal {removed : Bytes} {socket : Nat}
    (backs : online.backs conn userId flag)
    (outside : online.removesBetween removed socket = false)
    (apart : 6 ≤ strlen removed → ∀ node ∈ online.nodes (kindOf removed),
      owns removed socket node = true → node.connHandle ≠ conn) :
    (online.deleteOutUser removed socket).2.backs conn userId flag := by
  obtain ⟨flagged, node, member, named, handle⟩ | ⟨unflagged, short, none⟩ := backs
  · refine .inl ⟨flagged, node, ?_, named, handle⟩
    by_cases refused : strlen removed < 6
    · have same : online.deleteOutUser removed socket = (0, online) := if_pos refused
      rw [same]
      exact member
    · refine deleteOutUser_keeps _ _ _ outside member (Bool.eq_false_iff.mpr fun own => ?_)
      have text := ((owns_iff _ _ _).mp own).1
      rw [kindOf_of_cstr (named.symm.trans text.symm)] at member
      exact apart (not_lt.mp refused) node member own handle
  · exact .inr ⟨unflagged, short, fun kind node member =>
      none kind node (deleteOutUser_subset _ _ _ outside member)⟩

/-- An insertion for another connection. -/
theorem backs_insertion {b : CLN} (backs : online.backs conn userId flag)
    (other : b.conn ≠ conn) : (online.newOnlineUserOrIotDev b).backs conn userId flag := by
  obtain ⟨flagged, node, member, named, handle⟩ | ⟨unflagged, short, none⟩ := backs
  · refine .inl ⟨flagged, node, ?_, named, handle⟩
    rw [newOnline_nodes]
    split
    · exact List.mem_cons_of_mem _ member
    · exact member
  · refine .inr ⟨unflagged, short, fun kind node member => ?_⟩
    rw [newOnline_nodes] at member
    split at member
    · rcases List.mem_cons.mp member with rfl | member
      · exact other
      · exact none kind node member
    · exact none kind node member

/-- A sign-in that takes over no node of the connection. -/
theorem backs_takeover {taken : Bytes} (backs : online.backs conn userId flag)
    (clear : online.clearTakeover taken)
    (single : 6 ≤ strlen taken → Single taken (online.nodes (kindOf taken)))
    (apart : ∀ node ∈ online.find (kindOf taken) (.name taken), node.connHandle ≠ conn) :
    (online.takeover taken).backs conn userId flag := by
  obtain ⟨-, same⟩ | ⟨found, searched, removal⟩ := takeover_cases online taken
  · rw [same]
    exact backs
  · rw [removal]
    refine backs_removal backs (clear found searched) fun long node member own => ?_
    obtain ⟨there, named⟩ := find_some searched
    have text := ((owns_iff _ _ _).mp own).1.symm
    rw [(single long).eq_of_mem member there text named]
    exact apart found searched

end

/-! ## Rounds -/

/-- What every steady round keeps. -/
structure Flagged (config : Config) (server : ServerState) : Prop where
  /-- The pool and the connections. -/
  pooled : Pooled config server
  /-- The nodes. -/
  nodes : ∀ kind, ∀ node ∈ server.memory.online.nodes kind,
    node.allocated = true ∧ node.connHandle < server.accepted
  /-- One node for each id that can be removed. -/
  single : ∀ kind userId, 6 ≤ strlen userId → Single userId (server.memory.online.nodes kind)
  /-- The flags. -/
  backs : ∀ conn userId socket flag,
    server.memory.identity conn = some (userId, socket, flag) →
      server.memory.online.backs conn userId flag

variable {config : Config} {server next : ServerState}

/-- The identity of a connection that has not been freed. -/
theorem identity_of_conns {memory : Memory} {conn : Nat} {record : CLN}
    (known : memory.conns conn = some record) :
    memory.identity conn = some (record.userId, record.socket, record.info0) := by
  rw [Memory.identity, known]
  rfl

/-- A connection that has been freed has no identity. -/
theorem conn_ne_of_isNone {memory : Memory} {conn other : Nat}
    {identity : Bytes × Nat × UInt8} (freed : (memory.conns other).isNone = true)
    (found : memory.identity conn = some identity) : other ≠ conn := by
  rintro rfl
  rw [Memory.identity, Option.isNone_iff_eq_none.mp freed] at found
  simp at found

/-- In a flagged state the flags agree with the lists. -/
theorem Flagged.agree (flagged : Flagged config server) : FlagsAgree server := by
  intro conn record known
  have flag : record.signedIn = true ↔ record.info0 = yes := by simp [CLN.signedIn]
  rw [flag]
  obtain ⟨signedIn, node, member, -, handle⟩ | ⟨signedOut, -, none⟩ :=
    flagged.backs conn _ _ _ (identity_of_conns known)
  · refine ⟨fun _ => ?_, fun _ => signedIn⟩
    exact ⟨_, node, member, (flagged.nodes _ node member).1, handle⟩
  · refine ⟨fun signedIn => absurd signedIn signedOut, ?_⟩
    rintro ⟨kind, node, member, -, handle⟩
    exact absurd handle (none kind node member)

/-- Before the first connection no flag is set. -/
theorem flagged_initial (config : Config) : Flagged config .initial where
  pooled := pooled_initial config
  nodes kind node member := by
    cases kind <;> exact nomatch member
  single kind userId _ := by
    cases kind <;> exact List.Pairwise.nil
  backs _ _ _ _ found := nomatch found

/-- A new connection has no node. -/
theorem Flagged.accept (flagged : Flagged config server) (socket : Nat) :
    Flagged config (server.accept socket) where
  pooled := flagged.pooled.on (show server.on config (.accept socket) = some _ from rfl)
  nodes kind node member :=
    ⟨(flagged.nodes kind node member).1, Nat.lt_succ_of_lt (flagged.nodes kind node member).2⟩
  single := flagged.single
  backs conn userId other flag found := by
    rw [accept_identity] at found
    split at found
    · rename_i new
      subst new
      simp only [Option.some.injEq, CLN.identity, Prod.mk.injEq] at found
      obtain ⟨rfl, -, rfl⟩ := found
      have signedOut : no ≠ yes := by decide
      have nameless : strlen (zeros 12) < 6 := by decide
      refine .inr ⟨signedOut, nameless, fun kind node member => ?_⟩
      exact Nat.ne_of_lt (flagged.nodes kind node member).2
    · exact flagged.backs conn userId other flag found

/-- A round that leaves the sessions alone. -/
theorem Flagged.same (flagged : Flagged config server) (pooled : Pooled config next)
    (accepted : next.accepted = server.accepted)
    (same : SameSession server.memory next.memory) : Flagged config next where
  pooled := pooled
  nodes kind node member := by
    rw [same.online] at member
    rw [accepted]
    exact flagged.nodes kind node member
  single kind userId long := by
    rw [same.online]
    exact flagged.single kind userId long
  backs conn userId socket flag found := by
    rw [same.online]
    exact flagged.backs conn userId socket flag ((same.identity conn).symm.trans found)

/-- A removal that is not between two nodes, with the connections it leaves. -/
theorem Flagged.removal (flagged : Flagged config server) (pooled : Pooled config next)
    (accepted : next.accepted = server.accepted) {removed : Bytes} {socket : Nat}
    (outside : server.memory.online.removesBetween removed socket = false)
    (online : next.memory.online = (server.memory.online.deleteOutUser removed socket).2)
    (kept : ∀ conn identity, next.memory.identity conn = some identity →
      server.memory.identity conn = some identity ∧
      (6 ≤ strlen removed → ∀ node ∈ server.memory.online.nodes (kindOf removed),
        owns removed socket node = true → node.connHandle ≠ conn)) : Flagged config next where
  pooled := pooled
  nodes kind node member := by
    rw [online] at member
    rw [accepted]
    exact flagged.nodes kind node (deleteOutUser_subset _ _ _ outside member)
  single kind userId long := by
    rw [online]
    exact deleteOutUser_single _ _ _ outside kind (flagged.single kind userId long)
  backs conn userId other flag found := by
    obtain ⟨known, apart⟩ := kept conn _ found
    rw [online]
    exact backs_removal (flagged.backs conn userId other flag known) outside apart

/-- A connection that is freed takes no node of another. -/
theorem Flagged.free (flagged : Flagged config server) {entry : Waiting} {rest : List Waiting}
    {record : CLN} (known : server.memory.conns entry.conn = some record)
    (outside : server.memory.online.removesBetween record.userId record.socket = false)
    (pooled : Pooled config
      { server with memory := server.memory.freeConn entry.conn record, ahead := rest }) :
    Flagged config
      { server with memory := server.memory.freeConn entry.conn record, ahead := rest } := by
  refine flagged.removal pooled rfl outside rfl fun conn identity found => ?_
  rw [freeConn_identity] at found
  split at found
  · exact nomatch found
  · rename_i other
    refine ⟨found, fun long node member own same => ?_⟩
    obtain ⟨-, first, there, named, handle⟩ | ⟨-, short, -⟩ :=
      flagged.backs entry.conn _ _ _ (identity_of_conns known)
    · have text := ((owns_iff _ _ _).mp own).1.symm
      have one := (flagged.single _ record.userId long).eq_of_mem member there text named
      exact other (same.symm.trans (one ▸ handle))
    · omega

/-- A steady sign-in keeps the flags in step with the lists. -/
theorem Flagged.signIn (flagged : Flagged config server) (pooled : Pooled config next)
    (accepted : next.accepted = server.accepted) {a b : CLN} {written : Bytes}
    (steady : server.memory.steadySignIn a.conn b.userId) (filled : 12 ≤ b.userId.length)
    (numbered : a.conn < server.accepted) (conn : b.conn = a.conn)
    (online : next.memory.online = server.memory.online.signedIn b true)
    (named : Names written b.userId)
    (marked : Marked a.conn written server.memory next.memory) : Flagged config next := by
  obtain ⟨short, clear, own⟩ := steady
  have lists : next.memory.online =
      (server.memory.online.takeover b.userId).newOnlineUserOrIotDev b := online
  refine ⟨pooled, fun kind node member => ?_, fun kind userId long => ?_,
    fun other userId socket flag found => ?_⟩
  · have before (present : node ∈ (server.memory.online.takeover b.userId).nodes kind) :
        node.allocated = true ∧ node.connHandle < next.accepted := by
      rw [accepted]
      exact flagged.nodes kind node (takeover_subset clear present)
    rw [lists, newOnline_nodes] at member
    split at member
    · rcases List.mem_cons.mp member with rfl | member
      · refine ⟨rfl, ?_⟩
        change b.conn < next.accepted
        rw [conn, accepted]
        exact numbered
      · exact before member
    · exact before member
  · have single := takeover_single clear kind (flagged.single kind userId long)
    rw [lists, newOnline_nodes]
    split
    · rename_i list
      subst list
      refine List.pairwise_cons.mpr ⟨fun node member first second => ?_, single⟩
      -- the id inserted is long, so its node was taken over
      have text : cstr b.userId = cstr userId := (node_userId b).symm.trans first
      have long : 6 ≤ strlen b.userId := strlen_of_cstr text ▸ long
      have gone := takeover_gone clear (flagged.single _ b.userId long) (.inl long)
      exact gone node member (second.trans text.symm)
    · exact single
  · rw [marked other] at found
    rw [lists]
    split at found
    · rename_i self
      obtain ⟨⟨array, _, _⟩, -, made⟩ := Option.map_eq_some_iff.mp found
      simp only [Prod.mk.injEq] at made
      obtain ⟨rfl, -, rfl⟩ := made
      have text := named short filled array
      refine .inl ⟨rfl, b.node, ?_, (node_userId b).trans text.symm, conn.trans self.symm⟩
      rw [kindOf_of_cstr text, newOnline_nodes, if_pos rfl]
      exact List.mem_cons_self
    · rename_i different
      refine backs_insertion ?_ (conn ▸ Ne.symm different)
      refine backs_takeover (flagged.backs other userId socket flag found) clear
        (flagged.single _ b.userId) fun node searched => ?_
      obtain same | freed := own node searched
      · exact same ▸ Ne.symm different
      · exact conn_ne_of_isNone freed found

/-- A steady round keeps the flags in step with the lists. -/
theorem Flagged.round (config : Config) (server : ServerState) (round : Round)
    (next : ServerState) (steady : Steady server round) (flagged : Flagged config server)
    (stepped : server.round config round = some next) : Flagged config next := by
  have pooled := flagged.pooled.round stepped
  cases round with
  | event event =>
    obtain ⟨socket, rfl⟩ | ⟨same, accepted, -⟩ |
        ⟨entry, rest, record, rfl, ahead, known, due, rfl⟩ := on_effect stepped
    · exact flagged.accept socket
    · exact flagged.same pooled accepted same
    · have first : entry ∈ server.ahead.head? := by
        rw [ahead]
        rfl
      exact flagged.free known (steady entry first record known due) pooled
  | request index answers =>
    obtain ⟨task, trace, found, answered, effect, -, accepted⟩ :=
      request_effect stepped flagged.pooled.programs
    obtain ⟨steadyOut, steadyIn⟩ := steady task found
    have member : task ∈ server.tasks := List.mem_of_getElem? found
    cases effect with
    | same kept => exact flagged.same pooled accepted kept
    | signOut requested result hears online identity =>
      obtain ⟨outside, freed⟩ := steadyOut requested (comesTo_of_mem answered hears rfl)
      refine flagged.removal pooled accepted outside online fun conn _ live => ?_
      rw [identity] at live
      exact ⟨live, fun long node present own => conn_ne_of_isNone (freed long node present own) live⟩
    | signIn b inserted written requested conn socket hears online named marked =>
      have filled := signInId_length requested (flagged.pooled.filled task member)
      obtain ⟨stored, steady⟩ := steadyIn b.userId requested (comesTo_of_mem answered hears rfl)
      cases inserted with
      | false => exact Bool.noConfusion (stored.symm.trans (comesTo_of_mem answered hears rfl))
      | true =>
        exact flagged.signIn pooled accepted steady filled (flagged.pooled.known task member) conn
          online named marked

/-- In every run whose rounds are steady the flags agree with the online lists, and a request is
treated as signed in when its connection is at the time of the packet. -/
theorem flags_agree (config : Config) :
    (∀ rounds, (atomic config).Meets Steady .initial rounds →
      (atomic config).Always FlagsAgree .initial rounds) ∧
    ∀ handle record packet, (snapshot handle record packet).1.signedIn = record.signedIn := by
  refine ⟨fun rounds steady => ?_, fun handle record packet => ?_⟩
  · exact System.always_of_meets (fun _ flagged => flagged.agree) (Flagged.round config)
      (flagged_initial config) steady
  · unfold snapshot
    split <;> rfl

/-- A device signs in, in a run that then loses and frees its connection. -/
theorem flags_agree_device : ∃ server,
    (atomic bareConfig).run .initial (signingIn "device01") = some server ∧
      (server.memory.conns 0).map CLN.signedIn = some true ∧ FlagsAgree server := by
  have flag : ((atomic bareConfig).run .initial (signingIn "device01")).map
      (fun server => (server.memory.conns 0).map CLN.signedIn) = some (some true) := by
    decide +kernel
  obtain ⟨server, ran, signedIn⟩ := Option.map_eq_some_iff.mp flag
  have steady : (atomic bareConfig).Meets Steady .initial (signingIn "device01" ++ losing) := by
    decide +kernel
  exact ⟨server, ran, signedIn, (flags_agree bareConfig).1 _ steady 5 server ran⟩

/-- `STO` of an id. -/
def stoPacket (userId : String) : Bytes :=
  let id := text userId
  text "STO" ++ zeros 15 ++ id ++ zeros (703 - id.length)

/-- A connection signs in and out again. -/
def signingOut (userId : String) : List Round :=
  signingIn userId ++
    [.event (.receive 0 (stoPacket userId) true),
      .request 0 [.int 721, .int 1, .unit, .unit]]

/-- A connection that has signed out still has its flag. -/
theorem flag_outlives_sign_out :
    ¬∀ rounds, (atomic bareConfig).Always FlagsAgree .initial rounds := by
  intro always
  have kept : ((atomic bareConfig).run .initial (signingOut "device01")).map
      (fun server => ((server.memory.conns 0).map CLN.signedIn,
        server.memory.online.nodes .user, server.memory.online.nodes .iot)) =
      some (some true, [], []) := by
    decide +kernel
  obtain ⟨server, ran, left⟩ := Option.map_eq_some_iff.mp kept
  simp only [Prod.mk.injEq] at left
  obtain ⟨flag, users, devices⟩ := left
  obtain ⟨record, known, signedIn⟩ := Option.map_eq_some_iff.mp flag
  obtain ⟨kind, node, member, -⟩ :=
    (always (signingOut "device01") 7 server ran 0 record known).mp signedIn
  cases kind with
  | user => simp [users] at member
  | iot => simp [devices] at member

end UubangIot
