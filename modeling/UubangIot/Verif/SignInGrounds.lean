import UubangIot.Verif.SignInTrail

/-!
# What a sign-in rests on

A request writes a key id to its connection, makes an online node or sets the flag only after its
name and password were found, and the key id is that of a registered node of the name. Of a device's
sign-in that has set the flag, the key id was written unless the registered devices had none of the
name.
-/

namespace UubangIot

open Effect Effect.Prog

variable {α : Type} {past since : List Happening} {userId userPassword : Bytes}

/-- A name and a password were found, and what has happened since. -/
def PassedCheck (past : List Happening) (userId userPassword : Bytes) (since : List Happening) :
    Prop :=
  ∃ before, ∃ check : Int, past = before ++ ⟨.checkIdPwd 0 userId userPassword, check⟩ :: since ∧
    check ≠ -1

/-- A sign-in on a connection was done: a node was made, and for a device the key id was written
unless none was registered. -/
def SignInDone (conn : Nat) (userId : Bytes) (since : List Happening) : Prop :=
  (∃ b, ∃ result : Int, ⟨.newOnlineUserOrIotDev b, result⟩ ∈ since ∧ b.conn = conn) ∧
    (kindOf userId = .iot →
      (∃ key, ⟨.setConnUserKeyId conn key, ()⟩ ∈ since) ∨
        ⟨.findRegister .iot (.name userId), (none : Option User)⟩ ∈ since)

/-- What the operations of a sign-in need. -/
def Grounded (past : List Happening) : Op → Prop
  | .setConnUserKeyId _ key => ∃ userId userPassword since kind, ∃ found : User,
      PassedCheck past userId userPassword since ∧
        ⟨.findRegister kind (.name userId), some found⟩ ∈ since ∧ found.userKeyId = key ∧
        (kind = kindOf userId ∨ kind = .user)
  | .newOnlineUserOrIotDev b => ∃ since, PassedCheck past b.userId b.userPassword since
  | .setConnSignedIn conn => ∃ userId userPassword since,
      PassedCheck past userId userPassword since ∧ SignInDone conn userId since
  | _ => True

/-- A check that was passed stays passed through more events. -/
theorem PassedCheck.append (passed : PassedCheck past userId userPassword since)
    (trace : List Happening) :
    PassedCheck (past ++ trace) userId userPassword (since ++ trace) := by
  obtain ⟨before, check, rfl, right⟩ := passed
  exact ⟨before, check, by rw [List.append_assoc, List.cons_append], right⟩

/-- A check that was passed stays passed through one more event. -/
theorem PassedCheck.snoc (passed : PassedCheck past userId userPassword since)
    (happening : Happening) :
    PassedCheck (past ++ [happening]) userId userPassword (since ++ [happening]) :=
  passed.append [happening]

/-- A sign-in stays done. -/
theorem SignInDone.mono {conn : Nat} {more : List Happening} (done : SignInDone conn userId since)
    (subset : since ⊆ more) : SignInDone conn userId more := by
  obtain ⟨⟨b, result, made, own⟩, keyed⟩ := done
  refine ⟨⟨b, result, subset made, own⟩, fun device => ?_⟩
  rcases keyed device with ⟨key, written⟩ | missing
  · exact .inl ⟨key, subset written⟩
  · exact .inr (subset missing)

/-- The other operations need nothing. -/
theorem grounded_routine (op : Op) (past : List Happening) (routine : op.routine = true) :
    Grounded past op := by
  cases op with
  | setConnUserKeyId conn key => exact Bool.noConfusion routine
  | newOnlineUserOrIotDev b => exact Bool.noConfusion routine
  | setConnSignedIn conn => exact Bool.noConfusion routine
  | _ => trivial

/-- Routine operations need nothing. -/
theorem Routine.founded {handler : Handler α} (routine : Routine handler) :
    handler.Founded Grounded past := Only.founded routine grounded_routine

/-- The end of a task has what its operations need. -/
theorem finish_founded (a : CLN) : (finish a).Founded Grounded past :=
  ⟨trivial, fun _ => ⟨trivial, fun _ => trivial⟩⟩

/-- A reply has what its operations need. -/
theorem sendReply_founded (a : CLN) (frame : Frame) : (sendReply a frame).Founded Grounded past := by
  refine ⟨trivial, fun len => ?_⟩
  dsimp only [Prog.bind]
  split
  · exact ⟨trivial, fun _ => (finish_founded a).bind fun _ _ _ => trivial⟩
  · trivial

/-- Arithmetic that may be undefined has what its operations need. -/
theorem defined_founded {β : Type} {value : Option α} {next : α → Handler β}
    (later : ∀ found, (next found).Founded Grounded past) :
    (defined value next).Founded Grounded past := by
  cases value with
  | none => exact faulty_mild.routine.founded
  | some found => exact later found

/-! ## `SIGNIN` -/

/-- `SIGNIN` after its search is founded on the check it has passed. -/
theorem signInFound_founded (b : CLN) (checkuser : Option User)
    (passed : PassedCheck past b.userId b.userPassword since) :
    (signInFound b (kindOf b.userId) checkuser).Founded Grounded past := by
  have listed (kind : Kind) (own : kind = kindOf b.userId) (found : User) (conn : Nat) :
      Grounded (past ++ [⟨.findRegister kind (.name b.userId), some found⟩])
        (.setConnUserKeyId conn found.userKeyId) :=
    ⟨b.userId, b.userPassword, _, kind, found, passed.snoc _,
      List.mem_append_right _ List.mem_cons_self, rfl, .inl own⟩
  generalize kind_eq : kindOf b.userId = kind
  cases checkuser with
  | none =>
    refine ⟨trivial, fun registered => ?_⟩
    cases registered with
    | none => trivial
    | some registered =>
      refine ⟨listed kind kind_eq.symm registered b.conn, fun _ => ⟨?_, fun _ => trivial⟩⟩
      exact ⟨_, (passed.snoc _).snoc _⟩
  | some node =>
    cases kind with
    | user =>
      refine ⟨trivial, fun _ => ⟨trivial, fun _ => ⟨?_, fun _ => trivial⟩⟩⟩
      exact ⟨_, (passed.snoc _).snoc _⟩
    | iot =>
      refine ⟨trivial, fun registered => ?_⟩
      cases registered with
      | none =>
        refine ⟨trivial, fun _ => ⟨?_, fun _ => trivial⟩⟩
        exact ⟨_, (passed.snoc _).snoc _⟩
      | some registered =>
        refine ⟨listed .iot kind_eq.symm registered b.conn, fun _ => ⟨trivial, fun _ =>
          ⟨?_, fun _ => trivial⟩⟩⟩
        exact ⟨_, ((passed.snoc _).snoc _).snoc _⟩

/-- `SIGNIN` has what its operations need. -/
theorem signIn_founded (b : CLN) : (signIn b).Founded Grounded past := by
  rw [signIn, signInAs_eq]
  refine ⟨trivial, fun check => ⟨trivial, fun checkuser => ?_⟩⟩
  dsimp only
  split
  · trivial
  · rename_i right
    have passed : PassedCheck (past ++ [⟨.checkIdPwd 0 b.userId b.userPassword, check⟩])
        b.userId b.userPassword [] := ⟨past, check, rfl, right⟩
    exact signInFound_founded b checkuser (passed.snoc _)

/-- What `SIGNIN` has done after its search when it returns 1. -/
theorem signInFound_done (b : CLN) (checkuser : Option User) :
    (signInFound b (kindOf b.userId) checkuser).Ensures fun trace result =>
      result = 1 → SignInDone b.conn b.userId trace := by
  generalize kind_eq : kindOf b.userId = kind
  cases checkuser with
  | none =>
    refine (ensures_call _ _).mpr fun registered => ?_
    cases registered with
    | none => exact (ensures_ret _).mpr fun one => absurd one (by decide)
    | some registered =>
      refine (ensures_call _ _).mpr fun _ => (ensures_call _ _).mpr fun result => ?_
      refine (ensures_ret _).mpr fun _ => ⟨⟨{ b with userKeyId := registered.userKeyId }, result, ?_,
        rfl⟩, fun _ => .inl ⟨registered.userKeyId, ?_⟩⟩
      · exact List.mem_cons_of_mem _ (List.mem_cons_of_mem _ List.mem_cons_self)
      · exact List.mem_cons_of_mem _ List.mem_cons_self
  | some node =>
    cases kind with
    | user =>
      refine (ensures_call _ _).mpr fun _ => (ensures_call _ _).mpr fun _ => ?_
      refine (ensures_call _ _).mpr fun result => (ensures_ret _).mpr fun _ => ?_
      refine ⟨⟨{ b with userKeyId := node.userKeyId }, result, ?_, rfl⟩, fun device => ?_⟩
      · exact List.mem_cons_of_mem _ (List.mem_cons_of_mem _ List.mem_cons_self)
      · exact Kind.noConfusion (kind_eq.symm.trans device)
    | iot =>
      refine (ensures_call _ _).mpr fun registered => ?_
      cases registered with
      | none =>
        refine (ensures_call _ _).mpr fun _ => (ensures_call _ _).mpr fun result => ?_
        refine (ensures_ret _).mpr fun _ => ⟨⟨b, result, ?_, rfl⟩, fun _ => .inr ?_⟩
        · exact List.mem_cons_of_mem _ (List.mem_cons_of_mem _ List.mem_cons_self)
        · exact List.mem_cons_self
      | some registered =>
        refine (ensures_call _ _).mpr fun _ => (ensures_call _ _).mpr fun _ => ?_
        refine (ensures_call _ _).mpr fun result => (ensures_ret _).mpr fun _ => ?_
        refine ⟨⟨{ b with userKeyId := registered.userKeyId }, result, ?_, rfl⟩,
          fun _ => .inl ⟨registered.userKeyId, ?_⟩⟩
        · exact List.mem_cons_of_mem _ (List.mem_cons_of_mem _ (List.mem_cons_of_mem _
            List.mem_cons_self))
        · exact List.mem_cons_of_mem _ List.mem_cons_self

/-- A `SIGNIN` that returns 1 has found the name and the password, and is done. -/
theorem signIn_done (past : List Happening) {b : CLN} {trace : List Happening}
    (path : (signIn b).Path trace 1) :
    ∃ since, PassedCheck (past ++ trace) b.userId b.userPassword since ∧
      SignInDone b.conn b.userId since := by
  rw [signIn, signInAs_eq] at path
  obtain ⟨check, _, rfl, checkuser, rest, rfl, path⟩ := path
  dsimp only at path
  split at path
  · exact absurd path.2 (by decide)
  · rename_i right
    have done := signInFound_done b checkuser rest 1 path rfl
    refine ⟨_, ⟨past, check, rfl, right⟩, ?_⟩
    exact done.mono (List.subset_cons_self _ _)

/-! ## Requests -/

/-- The key id of a registered user of the name. -/
theorem refreshKeyId_founded (b : CLN) (passed : PassedCheck past b.userId userPassword since) :
    (refreshKeyId b).Founded Grounded past := by
  refine ⟨trivial, fun first => ?_⟩
  cases first with
  | none => trivial
  | some first =>
    refine ⟨trivial, fun second => ?_⟩
    cases second with
    | none => exact faulty_mild.routine.founded
    | some registered =>
      refine ⟨?_, fun _ => trivial⟩
      exact ⟨b.userId, userPassword, _, .user, registered, (passed.snoc _).snoc _,
        List.mem_append_right _ List.mem_cons_self, rfl, .inr rfl⟩

/-- `SIA` after the password is decoded. -/
theorem talkSignIn_founded (b : CLN) : (talkSignIn b).Founded Grounded past := by
  refine (signIn_founded b).bind fun trace result path => ?_
  by_cases one : result = 1
  · subst one
    obtain ⟨since, passed, done⟩ := signIn_done past path
    rw [if_pos rfl]
    refine ⟨trivial, fun _ => (refreshKeyId_founded b (passed.snoc _)).bind fun more _ _ => ?_⟩
    refine ⟨⟨b.userId, b.userPassword, _, (passed.snoc _).append more, ?_⟩, fun _ =>
      sendReply_founded b _⟩
    exact done.mono fun _ member => List.mem_append_left _ (List.mem_append_left _ member)
  · rw [if_neg one]
    exact sendReply_founded b _

/-- Opcode 3 after the password is decoded. -/
theorem iotSignIn_founded (b : CLN) (name : Bytes) : (iotSignIn b name).Founded Grounded past := by
  have answer (past : List Happening) (opCode : String) (other : text opCode ≠ text "01") :
      (sendOpBack b opCode []).Founded Grounded past := (sendOpBack_routine b [] other).founded
  refine (register_mild b 1).routine.founded.bind fun registers _ _ => ?_
  refine (signIn_founded b).bind fun trace result path => ?_
  by_cases one : result = 1
  · subst one
    obtain ⟨since, passed, done⟩ := signIn_done (past ++ registers) path
    rw [if_pos rfl]
    refine ⟨⟨b.userId, b.userPassword, since, passed, done⟩, fun _ => ⟨trivial, fun _ => ?_⟩⟩
    refine (refreshKeyId_founded b ((passed.snoc _).snoc _)).bind fun _ _ _ => ?_
    exact answer _ _ (by decide)
  · rw [if_neg one]
    exact answer _ _ (by decide)

/-- Opcode 3 has what its operations need. -/
theorem iotRegSign_founded (a : CLN) : (iotRegSign a).Founded Grounded past := by
  refine ⟨trivial, fun signedIn => ?_⟩
  dsimp only [Prog.bind]
  split
  · split
    · exact defined_founded fun userPassword => iotSignIn_founded _ _
    · trivial
  · exact (sendOpBack_routine a [] (by decide)).founded

/-- `STO` has what its operations need. -/
theorem talkSto_founded (a : CLN) : (talkSto a).Founded Grounded past := by
  refine (sendReply_founded a _).bind fun _ flow _ => ?_
  cases flow with
  | returned => trivial
  | left => exact ⟨trivial, fun _ => trivial⟩

/-- The end of a case has what its operations need. -/
theorem endCase_founded (a : CLN) (flow : Flow) : (endCase a flow).Founded Grounded past := by
  cases flow with
  | returned => trivial
  | left => exact finish_founded a

/-- Every sign-in of the program of a request is founded. -/
theorem talk_founded (config : Config) (a : CLN) : (talk config a).Founded Grounded past := by
  by_cases signs : a.signing = true
  · cases asks : a.requestClass with
    | test => simp [CLN.signing, asks] at signs
    | device =>
      have code : atoi a.checkcode = 3 := by simpa [CLN.signing, asks] using signs
      rw [talk_device asks, iotTalk_regSign code]
      exact (iotRegSign_founded a).bind fun _ _ _ => finish_founded a
    | user opcode =>
      rw [talk_user asks]
      refine Founded.bind ?_ fun _ flow _ => endCase_founded a flow
      cases opcode with
      | sia => exact defined_founded fun _ => talkSignIn_founded _
      | sib => exact defined_founded fun _ => talkSignIn_founded _
      | sto => exact talkSto_founded a
      | _ => simp [CLN.signing, asks] at signs
  · refine Only.founded (talk_allows config a) fun op past allowed => ?_
    rcases allowed with routine | accounting | key | ⟨signing, -⟩
    · exact grounded_routine op past routine
    · cases op <;> trivial
    · cases op <;> trivial
    · exact absurd signing signs

end UubangIot
