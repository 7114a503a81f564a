import UubangIot.Verif.OnlineLists
import UubangIot.Verif.SharedMemory

/-!
# What a whole request does to the sessions

A request handled at once either leaves the online lists and the identities of the connections
alone, signs out, or signs in: it takes over the node of its id, inserts its own, and marks its
connection. `talk_effect` is the one statement about the handlers that the results on whole
requests use.
-/

namespace UubangIot

open Effect Effect.Prog Transition

/-- What ties a connection to its online node, and its sign-in flag. -/
def CLN.identity (record : CLN) : Bytes × Nat × UInt8 :=
  (record.userId, record.socket, record.info0)

/-- The identity of a connection that has not been freed. -/
def Memory.identity (memory : Memory) (conn : Nat) : Option (Bytes × Nat × UInt8) :=
  (memory.conns conn).map CLN.identity

/-- Lists and identities are the same. -/
structure SameSession (memory later : Memory) : Prop where
  /-- The online lists. -/
  online : later.online = memory.online
  /-- The connections. -/
  identity : ∀ conn, later.identity conn = memory.identity conn

/-- The shared memory under the answers that are heard. -/
noncomputable def Memory.hearing (heard : Happening → Prop) : System Memory Happening :=
  ⟨fun memory happening => open Classical in
    if heard happening then memory.after happening else none⟩

/-- A step of the memory, and that its answer is heard. -/
theorem hearing_step {heard : Happening → Prop} {memory later : Memory} {happening : Happening} :
    (Memory.hearing heard).step memory happening = some later ↔
      heard happening ∧ memory.after happening = some later :=
  Option.ite_none_right_eq_some

/-- A run hears the answers of its trace. -/
theorem hearing_run {heard : Happening → Prop} {memory later : Memory} {trace : List Happening}
    (answers : ∀ happening ∈ trace, heard happening)
    (ran : Memory.system.run memory trace = some later) :
    (Memory.hearing heard).run memory trace = some later := by
  induction trace generalizing memory with
  | nil => exact ran
  | cons happening trace ih =>
    obtain ⟨next, stepped, rest⟩ := (System.run_cons _ _ _ _).mp ran
    refine (System.run_cons _ _ _ _).mpr ⟨next, hearing_step.mpr ⟨?_, stepped⟩, ?_⟩
    · exact answers happening List.mem_cons_self
    · exact ih (fun other member => answers other (List.mem_cons_of_mem _ member)) rest

/-- An operation that is no session operation. -/
def quiet (op : Op) : Prop := op.role ≠ .session

/-- A plain operation is quiet. -/
theorem quiet_of_plain {op : Op} (plain : op.plain) : quiet op := by
  rw [quiet, plain]
  decide

section

variable {heard : Happening → Prop} {memory later : Memory}

/-- Memory that does not change has the same sessions. -/
theorem SameSession.refl (memory : Memory) : SameSession memory memory := ⟨rfl, fun _ => rfl⟩

/-- Two parts that leave the sessions as they are leave them so together. -/
theorem SameSession.trans {last : Memory} (first : SameSession memory later)
    (second : SameSession later last) : SameSession memory last :=
  ⟨second.online.trans first.online,
    fun conn => (second.identity conn).trans (first.identity conn)⟩

/-- The identities after a write. -/
theorem write_identity (memory : Memory) (conn : Nat) (change : CLN → CLN) (other : Nat) :
    (memory.write conn change).identity other =
      if other = conn then (memory.conns conn).map fun record => (change record).identity
      else memory.identity other := by
  split
  · rename_i same
    subst same
    rw [Memory.identity, Memory.write_conns_self, Option.map_map]
    rfl
  · rename_i different
    rw [Memory.identity, memory.write_conns_of_ne change different, Memory.identity]

/-- A quiet operation writes no identity. -/
theorem writes_identity {op : Op} (still : quiet op) {conn : Nat} {change : CLN → CLN}
    (written : op.writes = some (conn, change)) (record : CLN) :
    (change record).identity = record.identity := by
  cases op <;> simp only [Op.writes, Option.some.injEq, Prod.mk.injEq, reduceCtorEq] at written
  case setConnUserId | setConnSignedIn => exact absurd rfl still
  all_goals
    obtain ⟨-, rfl⟩ := written
    rfl

/-- A quiet operation keeps lists and identities. -/
theorem quiet_step {op : Op} {response : op.Res} (still : quiet op)
    (stepped : memory.after ⟨op, response⟩ = some later) : SameSession memory later where
  online := by
    rw [after_online stepped]
    cases op <;> first
      | rfl
      | exact absurd rfl still
  identity conn := by
    rw [Memory.identity, after_conns stepped]
    cases written : op.writes with
    | none => rfl
    | some write =>
      obtain ⟨target, change⟩ := write
      refine (write_identity memory target change conn).trans ?_
      split
      · rename_i same
        subst same
        rw [Memory.identity]
        exact congrArg (fun f => Option.map f (memory.conns conn))
          (funext (writes_identity still written))
      · rfl

/-- A quiet program keeps lists and identities. -/
theorem quiet_reaches {α : Type} {handler : Handler α} {result : α}
    (still : handler.Only quiet)
    (reached : handler.Reaches (Memory.hearing heard) memory result later) : SameSession memory later :=
  still.reaches
    (fun _ _ _ _ allowed stepped same =>
      same.trans (quiet_step allowed (hearing_step.mp stepped).2))
    reached (SameSession.refl memory)

end

/-- A plain program makes only quiet operations. -/
theorem Plain.quiet {α : Type} {handler : Handler α} (plain : Plain handler) :
    handler.Only quiet :=
  plain.mono fun _ role => quiet_of_plain role

/-! ## Signing in -/

/-- The answer of an insertion that found memory or did not. -/
def insertion (a : CLN) (inserted : Bool) : Happening :=
  ⟨.newOnlineUserOrIotDev a, show Int from bif inserted then 1 else -1⟩

/-- A sign-in that is let in. -/
def signsIn : Happening → Bool
  | ⟨.newOnlineUserOrIotDev _, _⟩ => true
  | _ => false

/-- A removal from the online lists. -/
def signsOut : Happening → Bool
  | ⟨.deleteOutUser _ _, _⟩ => true
  | _ => false

/-- A sign-in without memory for its node. -/
def lacksMemory : Happening → Bool
  | ⟨.newOnlineUserOrIotDev _, result⟩ => decide ((show Int from result) ≠ 1)
  | _ => false

/-- Under its answers a task comes to something. -/
def Task.comesTo (task : Task) (answers : List Answer) (happens : Happening → Bool) : Bool :=
  match answering task.program answers with
  | none => false
  | some (trace, _) => trace.any happens

/-- What a task comes to is in its trace. -/
theorem comesTo_of_mem {task : Task} {answers : List Answer} {trace : List Happening}
    {happens : Happening → Bool} {happening : Happening}
    (answered : answering task.program answers = some (trace, ()))
    (member : happening ∈ trace) (chosen : happens happening = true) :
    task.comesTo answers happens = true := by
  rw [Task.comesTo, answered]
  exact List.any_eq_true.mpr ⟨happening, member, chosen⟩

/-- `SIGNIN` from the memory it starts in: it fails and changes nothing, or it takes the id over
and inserts a node of the request. -/
inductive SignInEffect (heard : Happening → Prop) (a : CLN) (memory later : Memory) : Int → Prop
  | refused : SameSession memory later → SignInEffect heard a memory later (-1)
  | done (userKeyId : Int) (inserted : Bool)
      (hears : heard (insertion { a with userKeyId } inserted))
      (online : later.online = memory.online.signedIn { a with userKeyId } inserted)
      (identity : ∀ conn, later.identity conn = memory.identity conn) :
      SignInEffect heard a memory later 1

section

variable {heard : Happening → Prop} {memory later : Memory} {α : Type} {result : α}

/-- An operation, and what follows it. -/
theorem memory_call {op : Op} {next : op.Res → Handler α}
    (reached : (Prog.call op next).Reaches (Memory.hearing heard) memory result later) :
    ∃ response middle, heard ⟨op, response⟩ ∧ memory.after ⟨op, response⟩ = some middle ∧
      (next response).Reaches (Memory.hearing heard) middle result later := by
  obtain ⟨response, middle, stepped, rest⟩ := (reaches_call op next result).mp reached
  obtain ⟨answer, stepped⟩ := hearing_step.mp stepped
  exact ⟨response, middle, answer, stepped, rest⟩

/-- A quiet call, and what follows it. -/
theorem quiet_call {op : Op} {next : op.Res → Handler α}
    (reached : (Prog.call op next).Reaches (Memory.hearing heard) memory result later) (still : quiet op) :
    ∃ response middle, SameSession memory middle ∧
      (next response).Reaches (Memory.hearing heard) middle result later := by
  obtain ⟨response, middle, -, stepped, rest⟩ := memory_call reached
  exact ⟨response, middle, quiet_step still stepped, rest⟩

/-- A quiet part, and what follows it. -/
theorem quiet_bind {β : Type} {handler : Handler β} {next : β → Handler α}
    (reached : (handler >>= next).Reaches (Memory.hearing heard) memory result later)
    (still : handler.Only quiet) :
    ∃ value middle, SameSession memory middle ∧
      (next value).Reaches (Memory.hearing heard) middle result later := by
  obtain ⟨value, middle, first, rest⟩ := (reaches_bind _ _ _).mp reached
  exact ⟨value, middle, quiet_reaches still first, rest⟩

/-- A list operation, and what follows it: the lists change, the connections do not. -/
theorem list_call {op : Op} {next : op.Res → Handler α} (unwritten : op.writes = none)
    (reached : (Prog.call op next).Reaches (Memory.hearing heard) memory result later) :
    ∃ response middle, heard ⟨op, response⟩ ∧ memory.after ⟨op, response⟩ = some middle ∧
      middle.online = memory.online.afterOp ⟨op, response⟩ ∧
      (∀ conn, middle.identity conn = memory.identity conn) ∧
      (next response).Reaches (Memory.hearing heard) middle result later := by
  obtain ⟨response, middle, answer, stepped, rest⟩ := memory_call reached
  have conns := after_conns stepped
  rw [unwritten] at conns
  exact ⟨response, middle, answer, stepped, after_online stepped,
    fun conn => by rw [Memory.identity, conns, Memory.identity], rest⟩

/-- An insertion at the end of a sign-in. -/
theorem insert_reaches {a : CLN} {result : Int}
    (reached : (Prog.call (.newOnlineUserOrIotDev a) fun _ => Prog.ret 1 : Handler Int).Reaches
      (Memory.hearing heard) memory result later) :
    result = 1 ∧ (∃ inserted : Bool, heard (insertion a inserted) ∧ later.online =
        if inserted then memory.online.newOnlineUserOrIotDev a else memory.online) ∧
      ∀ conn, later.identity conn = memory.identity conn := by
  obtain ⟨answer, middle, hears, stepped, -, identity, rest⟩ := list_call rfl reached
  obtain ⟨rfl, rfl⟩ := (reaches_ret _ _).mp rest
  refine ⟨rfl, ?_, identity⟩
  obtain ⟨rfl, online⟩ | ⟨rfl, online⟩ := after_insertion stepped
  · exact ⟨true, hears, online⟩
  · exact ⟨false, hears, online⟩

/-- `SIGNIN` of an id that is not online. -/
theorem signInNew_effect {kind : Kind} {a : CLN} {result : Int}
    (absent : memory.online.takeover a.userId = memory.online)
    (reached : (signInNew kind a).Reaches (Memory.hearing heard) memory result later) :
    SignInEffect heard a memory later result := by
  obtain ⟨registered, first, same, reached⟩ := quiet_call reached (quiet_of_plain rfl)
  cases registered with
  | none =>
    obtain ⟨rfl, rfl⟩ := (reaches_ret _ _).mp reached
    exact .refused same
  | some registered =>
    obtain ⟨_, second, same', reached⟩ := quiet_call reached (quiet_of_plain rfl)
    obtain ⟨rfl, ⟨inserted, hears, lists⟩, identity⟩ := insert_reaches reached
    refine .done registered.userKeyId inserted hears ?_ fun conn => ?_
    · rw [lists, same'.online, same.online, Lists.signedIn, absent]
    · rw [identity, same'.identity, same.identity]

/-- `SIGNIN` over the node of a user. -/
theorem replaceUser_effect {a : CLN} {node : User} {result : Int}
    (present : memory.online.takeover a.userId =
      (memory.online.deleteOutUser a.userId node.userSocket).2)
    (reached : (replaceUser a node).Reaches (Memory.hearing heard) memory result later) :
    SignInEffect heard a memory later result := by
  obtain ⟨_, first, -, -, removed, identity, reached⟩ := list_call rfl reached
  obtain ⟨_, second, same, reached⟩ := quiet_call reached (quiet_of_plain (send_plain _ rfl))
  obtain ⟨rfl, ⟨inserted, hears, lists⟩, identity'⟩ := insert_reaches reached
  refine .done node.userKeyId inserted hears ?_ fun conn => ?_
  · rw [lists, same.online, removed, Lists.signedIn, present]
    rfl
  · rw [identity', same.identity, identity]

/-- `SIGNIN` over the node of a device. -/
theorem replaceDevice_effect {a : CLN} {node : User} {result : Int}
    (present : memory.online.takeover a.userId =
      (memory.online.deleteOutUser a.userId node.userSocket).2)
    (reached : (replaceDevice a node).Reaches (Memory.hearing heard) memory result later) :
    SignInEffect heard a memory later result := by
  obtain ⟨registered, first, same, reached⟩ := quiet_call reached (quiet_of_plain rfl)
  cases registered with
  | none =>
    obtain ⟨_, second, -, -, removed, identity, reached⟩ := list_call rfl reached
    obtain ⟨rfl, ⟨inserted, hears, lists⟩, identity'⟩ := insert_reaches reached
    refine .done a.userKeyId inserted hears ?_ fun conn => ?_
    · rw [lists, removed, same.online, Lists.signedIn, present]
      rfl
    · rw [identity', identity, same.identity]
  | some registered =>
    obtain ⟨_, second, same', reached⟩ := quiet_call reached (quiet_of_plain rfl)
    obtain ⟨_, third, -, -, removed, identity, reached⟩ := list_call rfl reached
    obtain ⟨rfl, ⟨inserted, hears, lists⟩, identity'⟩ := insert_reaches reached
    refine .done registered.userKeyId inserted hears ?_ fun conn => ?_
    · rw [lists, removed, same'.online, same.online, Lists.signedIn, present]
      rfl
    · rw [identity', identity, same'.identity, same.identity]

/-- A sign-in after memory that is the same to it. -/
theorem SignInEffect.after {a : CLN} {result : Int} {middle : Memory}
    (same : SameSession memory middle) (effect : SignInEffect heard a middle later result) :
    SignInEffect heard a memory later result := by
  cases effect with
  | refused kept => exact .refused (same.trans kept)
  | done userKeyId inserted hears online identity =>
    rw [same.online] at online
    exact .done userKeyId inserted hears online fun conn => (identity conn).trans (same.identity conn)

/-- `SIGNIN` has the effect of a sign-in on the memory. -/
theorem signIn_effect {a : CLN} {result : Int}
    (reached : (signIn a).Reaches (Memory.hearing heard) memory result later) :
    SignInEffect heard a memory later result := by
  rw [signIn, signInAs_eq] at reached
  obtain ⟨check, first, same, searching⟩ := quiet_call reached (quiet_of_plain rfl)
  obtain ⟨found, second, -, stepped, rest⟩ := memory_call searching
  obtain ⟨answer, rfl⟩ := after_findOnline stepped
  refine SignInEffect.after same ?_
  by_cases wrong : (show Int from check) = -1
  · rw [if_pos wrong] at rest
    obtain ⟨rfl, rfl⟩ := (reaches_ret _ _).mp rest
    exact .refused (SameSession.refl _)
  · rw [if_neg wrong] at rest
    cases found with
    | none =>
      have absent : second.online.takeover a.userId = second.online := by
        rw [Lists.takeover, ← answer]
      exact signInNew_effect absent rest
    | some node =>
      have present : second.online.takeover a.userId =
          (second.online.deleteOutUser a.userId node.userSocket).2 := by
        rw [Lists.takeover, ← answer]
      generalize kindOf a.userId = kind at rest
      cases kind with
      | user => exact replaceUser_effect present rest
      | iot => exact replaceDevice_effect present rest

end

/-! ## Requests -/

/-- The id a request signs in. -/
def CLN.signInId (a : CLN) : Option Bytes :=
  match a.requestClass with
  | .user .sia | .user .sib => some a.userId
  | .device =>
    if atoi a.checkcode = 3 then
      match strSplit a.data 200 underscore with
      | name :: _ :: _ => some (strcpy a.userId name)
      | _ => none
    else none
  | _ => none

/-- Bytes whose copy into an array makes its text an id that fits in twelve bytes. -/
def Names (written userId : Bytes) : Prop :=
  strlen userId < 12 → 12 ≤ userId.length →
    ∀ array, cstr (memcpy array written written.length) = cstr userId

/-- The identities after a sign-in: its own connection has the id and the flag. -/
def Marked (conn : Nat) (written : Bytes) (memory later : Memory) : Prop :=
  ∀ other, later.identity other =
    if other = conn then (memory.identity conn).map fun (userId, socket, _) =>
      (memcpy userId written written.length, socket, yes)
    else memory.identity other

/-- A whole request from the memory it starts in. -/
inductive RequestEffect (heard : Happening → Prop) (a : CLN) (memory later : Memory) : Prop
  /-- It signs nobody in or out. -/
  | same : SameSession memory later → RequestEffect heard a memory later
  /-- It signs out the id it carries. -/
  | signOut (requested : a.requestClass = .user .sto) (result : Int)
      (hears : heard ⟨.deleteOutUser a.userId a.socket, result⟩)
      (online : later.online = (memory.online.deleteOutUser a.userId a.socket).2)
      (identity : ∀ conn, later.identity conn = memory.identity conn) :
      RequestEffect heard a memory later
  /-- It signs an id in. -/
  | signIn (b : CLN) (inserted : Bool) (written : Bytes) (requested : a.signInId = some b.userId)
      (conn : b.conn = a.conn) (socket : b.socket = a.socket) (hears : heard (insertion b inserted))
      (online : later.online = memory.online.signedIn b inserted)
      (named : Names written b.userId) (marked : Marked a.conn written memory later) :
      RequestEffect heard a memory later

section

variable {heard : Happening → Prop} {memory later : Memory} {a : CLN}

/-- A request goes on with what is quiet. -/
theorem RequestEffect.andThen {middle : Memory} (effect : RequestEffect heard a memory middle)
    (same : SameSession middle later) : RequestEffect heard a memory later := by
  cases effect with
  | same kept => exact .same (kept.trans same)
  | signOut requested result hears online identity =>
    exact .signOut requested result hears (same.online.trans online)
      fun conn => (same.identity conn).trans (identity conn)
  | signIn b inserted written requested conn socket hears online named marked =>
    exact .signIn b inserted written requested conn socket hears (same.online.trans online) named
      fun other => (same.identity other).trans (marked other)

/-- A request begins with what is quiet. -/
theorem RequestEffect.after {middle : Memory} (same : SameSession memory middle)
    (effect : RequestEffect heard a middle later) : RequestEffect heard a memory later := by
  cases effect with
  | same kept => exact .same (same.trans kept)
  | signOut requested result hears online identity =>
    rw [same.online] at online
    exact .signOut requested result hears online fun conn => (identity conn).trans (same.identity conn)
  | signIn b inserted written requested conn socket hears online named marked =>
    rw [same.online] at online
    refine .signIn b inserted written requested conn socket hears online named fun other => ?_
    rw [marked other, same.identity, same.identity]

/-- A send changes nothing in the memory. -/
theorem send_quiet (socket : Nat) (frame : Frame) : quiet (.send socket frame) := by
  change (if frame.announced = none then Role.plain else Role.key) ≠ .session
  split <;> decide

/-- The end of a task is quiet. -/
theorem finish_quiet (a : CLN) : (finish a).Only quiet := by
  have settles {op : Op} (accounting : op.role = .accounting) : quiet op := by
    rw [quiet, accounting]
    decide
  exact ⟨settles rfl, fun _ => ⟨settles rfl, fun _ => trivial⟩⟩

/-- A request that signs nobody in or out is quiet. -/
theorem talk_quiet (config : Config) (still : a.signing = false) :
    (talk config a).Only quiet := by
  have leads : (talk config a).Leads quiet (fun _ => True) fun rest =>
      rest = finish a ∨ (True ∧ rest = .ret ()) := by
    refine talk_leads (fun op plain => quiet_of_plain plain) config a (fun signing => ?_)
      (fun _ op key => ?_) (fun _ => trivial) fun _ _ _ => trivial
    · exact Bool.noConfusion (still.symm.trans signing)
    · rw [quiet, key]
      decide
  refine leads.only (fun _ => trivial) (fun _ allowed => allowed) fun rest reached => ?_
  obtain rfl | ⟨-, rfl⟩ := reached
  · exact finish_quiet a
  · trivial

/-- A reply changes nothing in the memory. -/
theorem sendReply_quiet (a : CLN) (frame : Frame) : (sendReply a frame).Only quiet := by
  refine ⟨send_quiet _ _, fun len => ?_⟩
  dsimp only [Prog.bind]
  split
  · exact ⟨quiet_of_plain rfl, fun _ => (finish_quiet a).bind fun _ => trivial⟩
  · trivial

/-- Nothing is reached past a fault. -/
theorem faulty_unreached {α : Type} {result : α}
    (reached : (faulty : Handler α).Reaches (Memory.hearing heard) memory result later) : False := by
  obtain ⟨response, -⟩ := (reaches_call _ _ _).mp reached
  exact response.elim

/-- Past undefined arithmetic there is its value. -/
theorem defined_reaches {α β : Type} {value : Option α} {next : α → Handler β} {result : β}
    (reached : (defined value next).Reaches (Memory.hearing heard) memory result later) :
    ∃ found, (next found).Reaches (Memory.hearing heard) memory result later := by
  cases value with
  | none => exact (faulty_unreached reached).elim
  | some found => exact ⟨found, reached⟩

/-- `STO` has the effect of its request on the memory. -/
theorem talkSto_effect {flow : Flow} (requested : a.requestClass = .user .sto)
    (reached : (talkSto a).Reaches (Memory.hearing heard) memory flow later) :
    RequestEffect heard a memory later := by
  obtain ⟨sent, middle, same, rest⟩ := quiet_bind reached (sendReply_quiet a _)
  cases sent with
  | returned =>
    obtain ⟨-, rfl⟩ := (reaches_ret _ _).mp rest
    exact .same same
  | left =>
    obtain ⟨result, last, hears, -, online, identity, rest⟩ := list_call rfl rest
    obtain ⟨-, rfl⟩ := (reaches_ret _ _).mp rest
    exact .after same (.signOut requested result hears online identity)

/-- The write of an id, and what follows it. -/
theorem userId_call {α : Type} {conn : Nat} {written : Bytes} {next : Unit → Handler α}
    {result : α}
    (reached : (perform (.setConnUserId conn written) >>= next).Reaches (Memory.hearing heard) memory
      result later) :
    ∃ middle, middle.online = memory.online ∧
      (∀ other, middle.identity other = if other = conn then
        (memory.identity conn).map fun (userId, socket, info0) =>
          (memcpy userId written written.length, socket, info0)
        else memory.identity other) ∧
      (next ()).Reaches (Memory.hearing heard) middle result later := by
  obtain ⟨_, middle, -, stepped, rest⟩ := memory_call reached
  refine ⟨middle, after_online stepped, fun other => ?_, rest⟩
  rw [Memory.identity, after_conns stepped]
  refine (write_identity memory conn _ other).trans ?_
  simp only [Memory.identity, Option.map_map]
  rfl

/-- The write of the sign-in flag, and what follows it. -/
theorem signedIn_call {α : Type} {conn : Nat} {next : Unit → Handler α} {result : α}
    (reached : (perform (.setConnSignedIn conn) >>= next).Reaches (Memory.hearing heard) memory result
      later) :
    ∃ middle, middle.online = memory.online ∧
      (∀ other, middle.identity other = if other = conn then
        (memory.identity conn).map fun (userId, socket, _) => (userId, socket, yes)
        else memory.identity other) ∧
      (next ()).Reaches (Memory.hearing heard) middle result later := by
  obtain ⟨_, middle, -, stepped, rest⟩ := memory_call reached
  refine ⟨middle, after_online stepped, fun other => ?_, rest⟩
  rw [Memory.identity, after_conns stepped]
  refine (write_identity memory conn _ other).trans ?_
  simp only [Memory.identity, Option.map_map]
  rfl

/-- `SIA` after the password is decoded. -/
theorem talkSignIn_effect {b : CLN} {flow : Flow}
    (reached : (talkSignIn b).Reaches (Memory.hearing heard) memory flow later)
    (requested : a.signInId = some b.userId) (conn : b.conn = a.conn)
    (socket : b.socket = a.socket) : RequestEffect heard a memory later := by
  obtain ⟨result, first, signing, rest⟩ := (reaches_bind _ _ _).mp reached
  cases signIn_effect signing with
  | refused same =>
    exact .same (same.trans (quiet_reaches (sendReply_quiet b _) rest))
  | done userKeyId inserted hears online identity =>
    simp only [↓reduceIte] at rest
    obtain ⟨second, kept, named, rest⟩ := userId_call rest
    obtain ⟨_, third, same, rest⟩ := quiet_bind rest (refreshKeyId_plain b).quiet
    obtain ⟨fourth, kept', flagged, rest⟩ := signedIn_call rest
    have last := quiet_reaches (sendReply_quiet b _) rest
    have marked : Marked a.conn (b.userId.take 12) memory later := by
      intro other
      rw [last.identity, flagged, same.identity, same.identity, named, named, identity, identity,
        conn]
      by_cases own : other = a.conn
      · simp only [own, ↓reduceIte, Option.map_map]
        rfl
      · simp only [own, ↓reduceIte]
    refine .signIn { b with userKeyId } inserted (b.userId.take 12) requested conn socket hears ?_ ?_
      marked
    · rw [last.online, kept', same.online, kept, online]
    · intro short sized array
      have size : (b.userId.take 12).length = 12 := List.length_take_of_le sized
      rw [memcpy, List.take_length]
      exact cstr_take_append short sized _

/-- Opcode 3 after the password is decoded. -/
theorem iotSignIn_effect {b : CLN} {name : Bytes} {result : Unit}
    (reached : (iotSignIn b name).Reaches (Memory.hearing heard) memory result later)
    (requested : a.signInId = some b.userId) (conn : b.conn = a.conn)
    (socket : b.socket = a.socket) (text : cstr b.userId = cstr name) :
    RequestEffect heard a memory later := by
  have answer {opCode : String} : (sendOpBack b opCode []).Only quiet := by
    refine ⟨quiet_of_plain rfl, fun _ => ?_⟩
    exact (sendRow_only b (send_quiet _ _) (quiet_of_plain rfl)).bind fun _ => trivial
  obtain ⟨_, zeroth, registered, rest⟩ := quiet_bind reached (register_plain b 1).quiet
  refine .after registered ?_
  obtain ⟨outcome, first, signing, rest⟩ := (reaches_bind _ _ _).mp rest
  cases signIn_effect signing with
  | refused same => exact .same (same.trans (quiet_reaches answer rest))
  | done userKeyId inserted hears online identity =>
    simp only [↓reduceIte] at rest
    obtain ⟨second, kept, flagged, rest⟩ := signedIn_call rest
    obtain ⟨third, kept', named, rest⟩ := userId_call rest
    obtain ⟨_, fourth, same, rest⟩ := quiet_bind rest (refreshKeyId_plain b).quiet
    have last := quiet_reaches answer rest
    have marked : Marked a.conn (cstr name ++ [0]) zeroth later := by
      intro other
      rw [last.identity, same.identity, named, flagged, flagged, identity, identity, conn]
      by_cases own : other = a.conn
      · simp only [own, ↓reduceIte, Option.map_map]
        rfl
      · simp only [own, ↓reduceIte]
    refine .signIn { b with userKeyId } inserted (cstr name ++ [0]) requested conn socket hears ?_ ?_
      marked
    · rw [last.online, same.online, kept', kept, online]
    · intro _ _ array
      rw [memcpy, List.take_length, List.append_assoc]
      exact (cstr_append_zero name _).trans text.symm

/-- Opcode 3 has the effect of its request on the memory. -/
theorem iotRegSign_effect {result : Unit} (device : a.requestClass = .device)
    (code : atoi a.checkcode = 3)
    (reached : (iotRegSign a).Reaches (Memory.hearing heard) memory result later) :
    RequestEffect heard a memory later := by
  have answer : (sendOpBack a "23" []).Only quiet := (sendOpBack_plain a [] (by decide)).quiet
  obtain ⟨signedIn, first, same, rest⟩ := quiet_call reached (quiet_of_plain rfl)
  refine .after same ?_
  dsimp only [Prog.bind] at rest
  split at rest
  · split at rest
    · rename_i name secret more split
      obtain ⟨userPassword, rest⟩ := defined_reaches rest
      have requested : a.signInId = some (strcpy a.userId name) := by
        simp only [CLN.signInId, device, code, ↓reduceIte, split]
      exact iotSignIn_effect rest requested rfl rfl (cstr_strcpy a.userId name)
    · obtain ⟨-, rfl⟩ := (reaches_ret _ _).mp rest
      exact .same (SameSession.refl _)
  · exact .same (quiet_reaches answer rest)

/-- The program of every request has the effect of that request on the memory. -/
theorem talk_effect {config : Config}
    (reached : (talk config a).Reaches (Memory.hearing heard) memory () later) :
    RequestEffect heard a memory later := by
  by_cases still : a.signing = false
  · exact .same (quiet_reaches (talk_quiet config still) reached)
  · have signing : a.signing = true := Bool.eq_true_of_not_eq_false still
    unfold talk at reached
    split at reached
    · rename_i test
      simp [CLN.signing, test] at signing
    · rename_i device
      have code : atoi a.checkcode = 3 := by simpa [CLN.signing, device] using signing
      obtain ⟨_, middle, first, rest⟩ := (reaches_bind _ _ _).mp reached
      rw [iotTalk_regSign code] at first
      exact (iotRegSign_effect device code first).andThen (quiet_reaches (finish_quiet a) rest)
    · rename_i opcode user
      obtain ⟨flow, middle, first, rest⟩ := (reaches_bind _ _ _).mp reached
      have last : SameSession middle later := by
        cases flow with
        | returned =>
          obtain ⟨-, rfl⟩ := (reaches_ret _ _).mp rest
          exact SameSession.refl _
        | left => exact quiet_reaches (finish_quiet a) rest
      refine RequestEffect.andThen ?_ last
      have named (opcode : Opcode) (requested : a.requestClass = .user opcode)
          (which : opcode = .sia ∨ opcode = .sib) : a.signInId = some a.userId := by
        obtain rfl | rfl := which <;> simp only [CLN.signInId, requested]
      cases opcode with
      | sia =>
        obtain ⟨userPassword, first⟩ := defined_reaches first
        exact talkSignIn_effect first (named _ user (.inl rfl)) rfl rfl
      | sib =>
        obtain ⟨userPassword, first⟩ := defined_reaches first
        exact talkSignIn_effect first (named _ user (.inr rfl)) rfl rfl
      | sto => exact talkSto_effect user first
      | _ => simp [CLN.signing, user] at signing

end

end UubangIot
