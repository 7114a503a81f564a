import UubangIot.Verif.SignInTrail

/-!
# What users do before they sign in

`talk` computes whether its connection is signed in and only `PIN` asks for it. The requests that
store messages, friends, devices and scenes or command a device are handled for anybody who has made
the handshake, and the flag they would ask for is also set for devices.
-/

namespace UubangIot

open Effect Effect.Prog Transition Transition.System

/-! ## Statement -/

/-- The requests of a user for others: `SCE`, `DSC`, `IOC`, `ADS`, `ADD`, `TAA` and `ICM`. -/
def CLN.forOthers (a : CLN) : Bool :=
  match a.requestClass with
  | .user .sce | .user .dsc | .user .ioc | .user .ads | .user .add | .user .taa | .user .icm => true
  | _ => false

/-- A user's sign-in: `SIA` or `SIB`. -/
def CLN.userSignIn (a : CLN) : Bool :=
  match a.requestClass with
  | .user .sia | .user .sib => true
  | _ => false

/-- A device's sign-in: opcode 3. -/
def CLN.deviceSignIn (a : CLN) : Bool :=
  decide (a.requestClass = .device) && decide (atoi a.checkcode = 3)

/-- `SIGNIN` of a user's request has returned 1. -/
def SignInReturned (a : CLN) (trace : List Happening) : Prop :=
  ∃ userPassword first later,
    decodeOver a.passwordKey a.userPassword a.data 32 = some userPassword ∧
      trace = first ++ later ∧
      (signIn { a with userPassword := userPassword.set 32 0 }).Path first 1

/-- A user has signed in on a connection. -/
def SignedUser (log : List Note) (conn : Nat) : Prop :=
  ∃ object request, Requested log object request ∧ request.conn = conn ∧
    request.userSignIn = true ∧ SignInReturned request (deeds log object)

/-- A request for others changes a table or commands a device only after a user has signed in on its
connection. -/
def UserFirst (before : List Note) : Note → Prop
  | .did object happening => acts happening = true → ∀ request, Requested before object request →
      request.forOthers = true → SignedUser before request.conn
  | .received _ _ _ _ _ => True

/-- A device has signed in on a connection. -/
def deviceSigned (log : List Note) (conn : Nat) : Bool :=
  log.any fun note => note.request.any fun asked =>
    decide (asked.2.conn = conn) && asked.2.deviceSignIn &&
      (deeds log asked.1).any fun happening => happening.1 = .setConnSignedIn conn

/-- A request for others, with enough fields to be handled, is received on a connection that is
signed in, and not by a device. -/
def asksSigned (now : ServerState × List Note) : Turn → Bool
  | .event (.receive conn packet allocated) =>
    (now.1.memory.conns conn).all fun record =>
      (requestOf conn record packet allocated).all fun request =>
        !request.forOthers || request.early ||
          (request.signedIn && !deviceSigned now.2 conn)
  | _ => true

/-- Requests for others come from connections that are signed in. -/
def AsksSigned (now : ServerState × List Note) (turn : Turn) : Prop := asksSigned now turn = true

instance (now : ServerState × List Note) (turn : Turn) : Decidable (AsksSigned now turn) :=
  inferInstanceAs (Decidable (_ = true))

/-! ## One request -/

variable {config : Config} {a : CLN} {conn : Nat} {trace : List Happening}

/-- No operation sets a flag. -/
abbrev Flagless {α : Type} (handler : Handler α) : Prop :=
  handler.Only fun op => ∀ conn, op ≠ .setConnSignedIn conn

/-- `SIGNIN` sets no flag. -/
theorem signIn_flagless (a : CLN) : Flagless (signIn a) := by
  rw [signIn, signInAs_eq]
  refine ⟨fun _ => Op.noConfusion, fun check => ⟨fun _ => Op.noConfusion, fun checkuser => ?_⟩⟩
  dsimp only
  split
  · trivial
  · unfold signInFound
    split
    · refine ⟨fun _ => Op.noConfusion, fun found => ?_⟩
      cases found with
      | none => trivial
      | some registered =>
        exact ⟨fun _ => Op.noConfusion, fun _ => ⟨fun _ => Op.noConfusion, fun _ => trivial⟩⟩
    · exact ⟨fun _ => Op.noConfusion, fun _ => ⟨fun _ => Op.noConfusion, fun _ =>
        ⟨fun _ => Op.noConfusion, fun _ => trivial⟩⟩⟩
    · refine ⟨fun _ => Op.noConfusion, fun found => ?_⟩
      cases found with
      | none =>
        exact ⟨fun _ => Op.noConfusion, fun _ => ⟨fun _ => Op.noConfusion, fun _ => trivial⟩⟩
      | some registered =>
        exact ⟨fun _ => Op.noConfusion, fun _ => ⟨fun _ => Op.noConfusion, fun _ =>
          ⟨fun _ => Op.noConfusion, fun _ => trivial⟩⟩⟩

/-- The end of a task sets no flag. -/
theorem finish_flagless (a : CLN) : Flagless (finish a) :=
  ⟨fun _ => Op.noConfusion, fun _ => ⟨fun _ => Op.noConfusion, fun _ => trivial⟩⟩

/-- A reply sets no flag. -/
theorem sendReply_flagless (a : CLN) (frame : Frame) : Flagless (sendReply a frame) := by
  refine ⟨fun _ => Op.noConfusion, fun len => ?_⟩
  dsimp only [Prog.bind]
  split
  · exact ⟨fun _ => Op.noConfusion, fun _ => (finish_flagless a).bind fun _ => trivial⟩
  · trivial

/-- A flag is not among operations that set none. -/
theorem flagless_apart {α : Type} {handler rest : Handler α} (flagless : Flagless handler)
    (comes : Comes handler trace rest) {response : (Op.setConnSignedIn conn).Res} :
    ⟨.setConnSignedIn conn, response⟩ ∉ trace :=
  fun member => (flagless.comes comes).1 _ member conn rfl

/-- A user's request that has set a flag has signed somebody in. -/
theorem talkSia_returned {rest : Handler Flow} (comes : Comes (talkSia a) trace rest)
    {response : (Op.setConnSignedIn conn).Res}
    (sets : ⟨.setConnSignedIn conn, response⟩ ∈ trace) : SignInReturned a trace := by
  unfold talkSia at comes
  rw [source_decode] at comes
  unfold defined at comes
  split at comes
  · have fault : Flagless (faulty : Handler Flow) :=
      ⟨fun _ => Op.noConfusion, fun response => response.elim⟩
    exact absurd sets (flagless_apart fault comes)
  · rename_i userPassword decoded
    rcases comes.bind_cases with ⟨middle, first, rfl⟩ | ⟨before, result, after, rfl, path, later⟩
    · exact absurd sets (flagless_apart (signIn_flagless _) first)
    · by_cases one : result = 1
      · subst one
        exact ⟨userPassword, before, after, decoded, rfl, path⟩
      · rw [if_neg one] at later
        rcases List.mem_append.mp sets with early | late
        · exact absurd early (flagless_apart (signIn_flagless _) (comes_ret.mpr path))
        · exact absurd late (flagless_apart (sendReply_flagless _ _) later)

/-- A user's request that has set a flag: its `SIGNIN` has returned 1. -/
theorem userSignIn_returned (asks : a.userSignIn = true) {rest : Handler Unit}
    (comes : Comes (talk config a) trace rest) {response : (Op.setConnSignedIn conn).Res}
    (sets : ⟨.setConnSignedIn conn, response⟩ ∈ trace) : SignInReturned a trace := by
  have sia : ∃ opcode, a.requestClass = .user opcode ∧ talkCase config a opcode = talkSia a := by
    unfold CLN.userSignIn at asks
    split at asks
    · rename_i sia
      exact ⟨.sia, sia, rfl⟩
    · rename_i sib
      exact ⟨.sib, sib, rfl⟩
    · cases asks
  obtain ⟨opcode, requested, case⟩ := sia
  rw [talk_user requested, case] at comes
  rcases comes.bind_cases with ⟨middle, first, rfl⟩ | ⟨before, flow, after, rfl, path, later⟩
  · exact talkSia_returned first sets
  · rcases List.mem_append.mp sets with early | late
    · obtain ⟨userPassword, first, more, decoded, rfl, returned⟩ :=
        talkSia_returned (comes_ret.mpr path) early
      exact ⟨userPassword, first, more ++ after, decoded, List.append_assoc _ _ _, returned⟩
    · exact absurd late (flagless_apart (endCase_only (finish_flagless a) flow) later)

/-- A sign-out sets no flag. -/
theorem talkSto_flagless (requested : a.requestClass = .user .sto) :
    Flagless (talk config a) := by
  rw [talk_user requested]
  refine Only.bind ?_ (endCase_only (finish_flagless a))
  refine (sendReply_flagless a _).bind fun flow => ?_
  cases flow with
  | returned => trivial
  | left => exact ⟨fun _ => Op.noConfusion, fun _ => trivial⟩

/-- A request for others without enough fields is not handled. -/
theorem talk_early (others : a.forOthers = true) (early : a.early = true) :
    talk config a = .ret () := by
  unfold CLN.forOthers at others
  split at others
  · rename_i asks
    rw [CLN.early, asks] at early
    rw [talk_user asks, talkCase, talkSce]
    rcases shape : strSplit a.data 200 tilde with _ | ⟨data, _ | ⟨date, rest⟩⟩
    all_goals
      rw [shape] at early
      have few := of_decide_eq_true early
    · rw [talkSceneDaily, if_pos few]
      rfl
    · rw [talkSceneDaily, if_pos few]
      rfl
    · change talkSceneScheduled _ >>= endCase a = _
      rw [talkSceneScheduled, if_pos few]
      rfl
  · rename_i asks
    rw [CLN.early, asks] at early
    rw [talk_user asks, talkCase, talkDsc]
    rcases shape : strSplit a.data 200 tilde with _ | ⟨data, _ | ⟨date, rest⟩⟩
    all_goals
      rw [shape] at early
      have few := of_decide_eq_true early
    · rw [talkDscDaily, if_pos few]
      rfl
    · rw [talkDscDaily, if_pos few]
      rfl
    · change talkDscScheduled _ _ >>= endCase a = _
      rw [talkDscScheduled, if_pos few]
      rfl
  all_goals rename_i asks
  · rw [CLN.early, asks] at early
    cases early
  · rw [CLN.early, asks] at early
    cases early
  · rw [CLN.early, asks] at early
    cases early
  · rw [CLN.early, asks] at early
    cases early
  · rw [CLN.early, asks] at early
    rw [talk_user asks, talkCase, talkIcm]
    have few : (strSplit a.data (strlen a.data) underscore).length < 2 := of_decide_eq_true early
    rcases shape : strSplit a.data (strlen a.data) underscore with
      _ | ⟨first, _ | ⟨second, rest⟩⟩
    · rfl
    · rfl
    · rw [shape, List.length_cons, List.length_cons] at few
      omega
  · cases others

/-! ## Every run -/

variable {now : ServerState × List Note} {log : List Note}

/-- A user who has signed in has done so later on. -/
theorem SignedUser.mono (signed : SignedUser log conn) (notes : List Note) :
    SignedUser (log ++ notes) conn := by
  obtain ⟨object, request, requested, own, asks, userPassword, first, later, decoded, split, path⟩ :=
    signed
  have more : deeds (log ++ notes) object = deeds log object ++ deeds notes object :=
    List.filterMap_append
  refine ⟨object, request, requested_append.mpr (.inl requested), own, asks, userPassword, first,
    later ++ deeds notes object, decoded, ?_, path⟩
  rw [more, split, List.append_assoc]

/-- A flag that no device has set was set by a user. -/
theorem signedUser_of_flag (told : Told config now) (flag : flagged now.2 conn = true)
    (free : deviceSigned now.2 conn = false) : SignedUser now.2 conn := by
  obtain ⟨object, request, response, requested, own, signing, done⟩ := told.flagged flag
  obtain ⟨rest, comes⟩ := told.comes requested
  have user : request.userSignIn = true := by
    unfold CLN.signing at signing
    split at signing
    · rename_i asks
      rw [CLN.userSignIn, asks]
    · rename_i asks
      rw [CLN.userSignIn, asks]
    · rename_i asks
      exact absurd done (flagless_apart (talkSto_flagless asks) comes)
    · rename_i asks
      obtain ⟨note, member, told⟩ := requested
      have device : deviceSigned now.2 conn = true := by
        refine List.any_eq_true.mpr ⟨note, member, ?_⟩
        rw [told, Option.any_some]
        dsimp only
        rw [own, CLN.deviceSignIn, asks]
        simp only [decide_true, Bool.true_and, of_decide_eq_true signing]
        exact List.any_eq_true.mpr ⟨_, done, decide_eq_true rfl⟩
      rw [free] at device
      cases device
    · cases signing
  exact ⟨object, request, requested, own, user, userSignIn_returned user comes done⟩

/-- Requests for others that are handled come from connections on which a user has signed in. -/
def Vetted (log : List Note) : Prop :=
  ∀ object request, Requested log object request → request.forOthers = true →
    request.early = false → SignedUser log request.conn

/-- What a turn keeps. -/
structure Supervised (config : Config) (now : ServerState × List Note) : Prop where
  told : Told config now
  trail : Trail now
  vetted : Vetted now.2
  first : Throughout UserFirst now.2

/-- Before the first connection no user has acted. -/
theorem supervised_initial (config : Config) : Supervised config (.initial, []) where
  told := told_initial config
  trail := trail_initial
  vetted _ _ requested := by
    obtain ⟨note, member, -⟩ := requested
    cases member
  first := throughout_nil

/-- What is done for others is done after a user has signed in. -/
theorem Supervised.did (supervised : Supervised config now) {object : Nat} {request : CLN} {op : Op}
    {rest : op.Res → Handler Unit} (requested : Requested now.2 object request)
    (comes : Comes (talk config request) (deeds now.2 object) (.call op rest))
    (response : op.Res) : UserFirst now.2 (.did object ⟨op, response⟩) := by
  intro _ found asks others
  obtain rfl := supervised.told.single object _ _ requested asks
  apply supervised.vetted object request requested others
  apply Bool.eq_false_of_not_eq_true
  intro early
  rw [talk_early others early] at comes
  generalize deeds now.2 object = trace at comes
  cases comes

/-- A turn whose requests for others are signed in. -/
theorem supervised_turn (config : Config) (now : ServerState × List Note) (turn : Turn)
    (next : ServerState × List Note) (asks : AsksSigned now turn) (supervised : Supervised config now)
    (turned : (chronicled config).step now turn = some next) : Supervised config next := by
  refine ⟨told_turn config now turn next supervised.told turned,
    trail_turn config now turn next supervised.told supervised.trail turned, ?_, ?_⟩
  · obtain ⟨server, log⟩ := now
    obtain ⟨after, history⟩ := next
    obtain ⟨conn, record, packet, allocated, rfl, known, received, rfl⟩ |
      ⟨index, answer, task, op, rest, response, memory, -, -, -, -, -, -, rfl⟩ |
      ⟨index, task, -, -, -, -, rfl⟩ | ⟨passes, rfl⟩ := chronicled_cases turned
    · intro object request requested others handled
      rcases requested_append.mp requested with old | new
      · exact (supervised.vetted object request old others handled).mono _
      · have own := requested_singleton.mp new
        rw [Note.request, Option.map_eq_some_iff] at own
        obtain ⟨made, made_eq, same⟩ := own
        obtain rfl := (Prod.mk.inj same).2
        have copied := requestOf_copied made_eq
        rw [AsksSigned, asksSigned, known, Option.all_some, made_eq, Option.all_some, others,
          handled] at asks
        have both : made.signedIn = true ∧ deviceSigned log conn = false := by simpa using asks
        have flag : flagged log conn = true := by
          refine (supervised.trail.flag conn record known).mp ?_
          rw [← copied.info0]
          exact of_decide_eq_true both.1
        rw [copied.fields.1]
        exact (signedUser_of_flag supervised.told flag both.2).mono _
    · intro object request requested others handled
      rcases requested_append.mp requested with old | new
      · exact (supervised.vetted object request old others handled).mono _
      · have own := requested_singleton.mp new
        rw [Note.request] at own
        cases own
    · exact supervised.vetted
    · exact supervised.vetted
  · obtain ⟨server, log⟩ := now
    obtain ⟨after, history⟩ := next
    obtain ⟨conn, record, packet, allocated, rfl, known, received, rfl⟩ |
      ⟨index, answer, task, op, rest, response, memory, -, found, program, -, -, -, rfl⟩ |
      ⟨index, task, -, -, -, -, rfl⟩ | ⟨passes, rfl⟩ := chronicled_cases turned
    · exact (throughout_snoc _ _).mpr ⟨supervised.first, trivial⟩
    · obtain ⟨requested, comes⟩ := supervised.told.pooled task (List.mem_of_getElem? found)
      rw [program] at comes
      exact (throughout_snoc _ _).mpr ⟨supervised.first, supervised.did requested comes response⟩
    · exact supervised.first
    · exact supervised.first

/-- Where requests for others come from connections that are signed in, and not by a device, they
change a table or command a device only after a user has signed in on their connection. -/
theorem user_operations_signed_in (config : Config) (turns : List Turn)
    (meets : (chronicled config).Meets AsksSigned (.initial, []) turns) :
    (chronicled config).Always (fun now => Throughout UserFirst now.2) (.initial, []) turns :=
  always_of_meets (fun _ kept => kept.first) (supervised_turn config) (supervised_initial config) meets

/-! ## Runs -/

/-- An `IOC` packet for a device. -/
def iocPacket : Bytes := text "IOC" ++ zeros 60 ++ text "dev0000001" ++ zeros 133

/-- A `SIA` packet of a user. -/
def userSiaPacket : Bytes := text "SIA" ++ zeros 15 ++ text "13800000000" ++ zeros 177

/-- A registered node with a key. -/
def keyedNode (userId : String) (key : Int) : User := ⟨0, text userId, key, [], [], 0, true⟩

/-- A connection makes its handshake. -/
def greets : List Turn := [.event (.accept 5), .event (.receive 0 (text "ZYXX1226") true)]

/-- A user signs in on it. -/
def userSignsIn : List Turn :=
  .event (.receive 0 userSiaPacket true) ::
    [.int 1, .found none, .found (some (keyedNode "13800000000" 3)), .unit, .int 1, .unit,
      .found none, .unit].map (.step 1)

/-- It stores a device. -/
def storesDevice (index : Nat) : List Turn :=
  .event (.receive 0 iocPacket true) ::
    [.found (some (keyedNode "dev0000001" 7)), .node (some 0), .query .done].map (.step index)

/-- A table is changed for a request. -/
def Note.actsFor (object : Nat) : Note → Bool
  | .did other happening => decide (other = object) && acts happening
  | .received _ _ _ _ _ => false

/-- A user signs in and then stores a device. -/
theorem user_operations_signed_in_store : ∃ server log,
    (chronicled ⟨id, []⟩).run (.initial, []) (greets ++ userSignsIn ++ storesDevice 2) =
        some (server, log) ∧
      log.any (Note.actsFor 2) = true ∧ Throughout UserFirst log := by
  have acted : ((chronicled ⟨id, []⟩).run (.initial, [])
      (greets ++ userSignsIn ++ storesDevice 2)).any (fun now => now.2.any (Note.actsFor 2)) = true := by
    decide +kernel
  obtain ⟨⟨server, log⟩, ran, acted⟩ := (Option.any_eq_true _ _).mp acted
  have meets : (chronicled ⟨id, []⟩).Meets AsksSigned (.initial, [])
      (greets ++ userSignsIn ++ storesDevice 2) := by decide +kernel
  exact ⟨server, log, ran, acted, user_operations_signed_in ⟨id, []⟩ _ meets 15 (server, log) ran⟩

/-- Nobody signs in, and a device is stored. -/
theorem device_stored_by_nobody : ∃ server log,
    (chronicled ⟨id, []⟩).run (.initial, []) (greets ++ storesDevice 1) = some (server, log) ∧
      ¬Throughout UserFirst log := by
  have checked : ((chronicled ⟨id, []⟩).run (.initial, []) (greets ++ storesDevice 1)).any
      (fun now => now.2.getLast?.any (Note.actsFor 1) &&
        now.2.dropLast.any (fun note => note.request.any fun asked =>
          decide (asked.1 = 1) && asked.2.forOthers) &&
        now.2.dropLast.all fun note => note.request.all fun asked => !asked.2.userSignIn) = true := by
    decide +kernel
  obtain ⟨⟨server, log⟩, ran, checks⟩ := (Option.any_eq_true _ _).mp checked
  rw [Bool.and_eq_true, Bool.and_eq_true] at checks
  obtain ⟨⟨last, asked⟩, nobody⟩ := checks
  refine ⟨server, log, ran, fun first => ?_⟩
  obtain ⟨note, final, acted⟩ := (Option.any_eq_true _ _).mp last
  have split : log = log.dropLast ++ [note] := (List.dropLast_append_getLast? note final).symm
  have signed := first log.dropLast note [] split
  obtain ⟨earlier, member, asks⟩ := List.any_eq_true.mp asked
  obtain ⟨⟨object, request⟩, made, others⟩ := (Option.any_eq_true _ _).mp asks
  cases note with
  | received => cases acted
  | did other happening =>
    have done := Bool.and_eq_true_iff.mp acted
    have own := Bool.and_eq_true_iff.mp others
    have same : object = other := (of_decide_eq_true own.1).trans (of_decide_eq_true done.1).symm
    obtain ⟨_, found, requested, -, user, -⟩ :=
      signed done.2 request ⟨earlier, member, same ▸ made⟩ own.2
    obtain ⟨any, present, told⟩ := requested
    have none := List.all_eq_true.mp nobody any present
    rw [told, Option.all_some, user] at none
    cases none

end UubangIot
