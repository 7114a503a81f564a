import UubangIot.Verif.Roles

/-!
# Where a request's operations stand

`request_leads` describes every request at once: routine operations, session operations only where it
signs somebody in or out, key operations only where it replaces the key, and then the end of the
task. A request that returns without it is `early`, or misses a registered device where it must
find one.
-/

namespace UubangIot

open Effect Effect.Prog RsaUtils

/-! ## Device requests -/

/-- A reply that announces no key is routine. -/
theorem sendOpBack_routine (a : CLN) {opCode : String} (payLoad : Bytes)
    (other : text opCode ≠ text "01") : Routine (sendOpBack a opCode payLoad) := by
  have row (frame : Frame) (silent : frame.announced = none) : Routine (sendRow a frame) :=
    sendRow_only a (send_routine _ silent) rfl
  exact ⟨rfl, fun _ => (row _ (iotFrame_silent other)).bind fun _ => trivial⟩

/-- Opcode 2 is routine. -/
theorem iotPin_routine (a : CLN) : Routine (iotPin a) := by
  unfold iotPin
  split
  · trivial
  · refine ⟨rfl, fun pin => ⟨rfl, fun _ => ?_⟩⟩
    exact defined_only rfl fun payLoad _ => sendOpBack_routine a _ (by decide)

section

variable {allowed : Op → Prop} (a : CLN)

/-- Pairs of opcode 4 store their statuses and are answered. -/
theorem iotUpdateLoop_only (fields : List Bytes)
    (update : ∀ data evtClass status,
      (iotUpdateStatus { a with data } evtClass status).Only allowed)
    (answer : ∀ opCode, text opCode ≠ text "01" → (sendOpBack a opCode []).Only allowed) :
    (iotUpdateLoop a fields).Only allowed := by
  have answers (stored : Int) :
      (sendOpBack a (if stored ≠ 0 then "04" else "24") []).Only allowed := by
    split <;> exact answer _ (by decide)
  have pair (evtClass : Int) (value : Bytes) : (iotUpdatePair a evtClass value).Only allowed := by
    unfold iotUpdatePair
    split
    · exact (update _ _ _).bind answers
    · split
      · exact (update _ _ _).bind answers
      · trivial
  induction fields using iotUpdateLoop.induct with
  | case1 kind value rest ih => exact (pair _ _).bind fun _ => ih
  | case2 fields short =>
    unfold iotUpdateLoop
    split
    · exact absurd rfl (short _ _ _)
    · trivial

/-- Opcode 5 reads a command, deletes the commands and answers. -/
theorem iotRead_only
    (read : ∀ data devclass del, (iotReadCmd { a with data } devclass del).Only allowed)
    (answer : ∀ data opCode payLoad, text opCode ≠ text "01" →
      (sendOpBack { a with data } opCode payLoad).Only allowed) : (iotRead a).Only allowed := by
  unfold iotRead
  split
  · trivial
  · refine (read _ _ _).bind_path fun trace found path => ?_
    obtain ⟨data, same⟩ := iotReadCmd_request a.decrypted _ _ trace found path
    obtain ⟨found, request⟩ := found
    obtain rfl : request = { a with data } := same
    dsimp only
    split
    · exact answer _ _ _ (by decide)
    · exact (read _ _ _).bind fun _ => answer _ _ _ (by decide)

/-- Opcode 7 reads the fields one after the other. -/
theorem iotReadLoop_only (fields : List Bytes) (read : ∀ id, (iotGetIotData a id).Only allowed) :
    (iotReadLoop a fields).Only allowed := by
  induction fields with
  | nil => trivial
  | cons field rest ih => exact (read _).bind fun _ => ih

end

/-- The pairs of opcode 4 are routine. -/
theorem iotUpdateLoop_routine (a : CLN) (fields : List Bytes) : Routine (iotUpdateLoop a fields) :=
  iotUpdateLoop_only a fields (fun _ _ _ => (iotUpdateStatus_mild _ _ _).routine)
    fun _ other => sendOpBack_routine a _ other

/-- Opcode 4 is routine. -/
theorem iotUpdate_routine (a : CLN) : Routine (iotUpdate a) := by
  unfold iotUpdate
  dsimp only
  split
  · trivial
  · exact iotUpdateLoop_routine _ _

/-- Opcode 5 is routine. -/
theorem iotRead_routine (a : CLN) : Routine (iotRead a) :=
  iotRead_only a (fun _ _ _ => (iotReadCmd_mild _ _ _).routine)
    fun _ _ payLoad other => sendOpBack_routine _ payLoad other

/-- The fields of opcode 7 are routine. -/
theorem iotReadLoop_routine (a : CLN) (fields : List Bytes) : Routine (iotReadLoop a fields) :=
  iotReadLoop_only a fields (iotGetIotData_routine a)

/-- Opcode 8 is routine. -/
theorem iotSend_routine (a : CLN) : Routine (iotSend a) := by
  unfold iotSend
  split
  · refine ⟨rfl, fun online => ?_⟩
    cases online with
    | none =>
      refine ⟨rfl, fun found => ?_⟩
      cases found with
      | none => exact faulty_mild.routine
      | some device => exact (send2OnlineUserViaTopServer_mild _).routine.bind fun _ => trivial
    | some node => exact ⟨rfl, fun _ => sendOpBack_routine _ _ (by decide)⟩
  · trivial

/-- Opcode 9 is routine. -/
theorem iotStore_routine (a : CLN) : Routine (iotStore a) := by
  unfold iotStore
  split
  · refine ⟨rfl, fun found => ?_⟩
    cases found with
    | none => exact sendOpBack_routine a _ (by decide)
    | some device =>
      refine (newIotCmdToBeExecute_mild _ _ _ _ _).routine.bind fun stored => ?_
      split <;> exact sendOpBack_routine _ _ (by decide)
  · trivial

/-- A reply that announces no key is plain. -/
theorem sendOpBack_plain (a : CLN) {opCode : String} (payLoad : Bytes)
    (other : text opCode ≠ text "01") : Plain (sendOpBack a opCode payLoad) :=
  (sendOpBack_routine a payLoad other).plain

/-- `Register` is plain. -/
theorem register_plain (a : CLN) (method : Int) : Plain (register a method) :=
  (register_mild a method).routine.plain

section

variable {allowed : Op → Prop} (quiet : ∀ op : Op, op.mild = true → allowed op)

include quiet

/-- The key id of a registered user. -/
theorem refreshKeyId_only (a : CLN) {conn socket : Nat} {named : Bytes → Prop}
    (own : a.conn = conn) (session : ∀ op : Op, op.signsBy conn socket named → allowed op) :
    (refreshKeyId a).Only allowed := by
  refine ⟨quiet _ rfl, fun found => ?_⟩
  cases found with
  | none => trivial
  | some first =>
    refine ⟨quiet _ rfl, fun found => ?_⟩
    cases found with
    | none => exact faulty_mild.mono quiet
    | some registered => exact ⟨session _ own, fun _ => trivial⟩

/-- A sign-in is routine but for its session operations. -/
theorem signIn_only (a : CLN) {conn socket : Nat} {named : Bytes → Prop} (own : a.conn = conn)
    (line : a.socket = socket) (session : ∀ op : Op, op.signsBy conn socket named → allowed op) :
    (signIn a).Only allowed := by
  rw [signIn, signInAs_eq]
  refine ⟨quiet _ rfl, fun check => ⟨quiet _ rfl, fun checkuser => ?_⟩⟩
  dsimp only
  split
  · trivial
  · unfold signInFound
    split
    · refine ⟨quiet _ rfl, fun found => ?_⟩
      cases found with
      | none => trivial
      | some registered =>
        exact ⟨session _ own, fun _ => ⟨session _ ⟨own, line⟩, fun _ => trivial⟩⟩
    · exact ⟨session _ trivial, fun _ => ⟨quiet _ (send_mild _ rfl rfl), fun _ =>
        ⟨session _ ⟨own, line⟩, fun _ => trivial⟩⟩⟩
    · refine ⟨quiet _ rfl, fun found => ?_⟩
      cases found with
      | none => exact ⟨session _ trivial, fun _ => ⟨session _ ⟨own, line⟩, fun _ => trivial⟩⟩
      | some registered =>
        exact ⟨session _ own, fun _ => ⟨session _ trivial, fun _ =>
          ⟨session _ ⟨own, line⟩, fun _ => trivial⟩⟩⟩

end

section

variable {allowed : Op → Prop} (routine : ∀ op : Op, op.routine = true → allowed op)

include routine

/-- A device's sign-in is routine but for its session operations. -/
theorem iotRegSign_only (a : CLN) {named : Bytes → Prop}
    (session : ∀ op : Op, op.signsBy a.conn a.socket named → allowed op)
    (device : ∀ name rest, strSplit a.data 200 underscore = name :: rest →
      named (cstr name ++ [0])) : (iotRegSign a).Only allowed := by
  have answer (b : CLN) (opCode : String) (other : text opCode ≠ text "01") :
      (sendOpBack b opCode []).Only allowed := (sendOpBack_routine b _ other).mono routine
  have quiet (op : Op) (mild : op.mild = true) : allowed op :=
    routine op (Op.unstamped_routine (Op.mild_unstamped mild))
  refine ⟨routine _ rfl, fun signedIn => ?_⟩
  dsimp only [Prog.bind]
  split
  · split
    · rename_i name secret rest fields
      refine defined_only (routine _ rfl) fun userPassword _ => ?_
      refine ((register_mild _ _).routine.mono routine).bind fun _ => ?_
      refine (signIn_only quiet _ (by rfl) (by rfl) session).bind fun result => ?_
      split
      · exact ⟨session _ rfl, fun _ => ⟨session _ ⟨rfl, device _ _ fields⟩, fun _ =>
          (refreshKeyId_only quiet _ (by rfl) session).bind fun _ => answer _ _ (by decide)⟩⟩
      · exact answer _ _ (by decide)
    · trivial
  · exact answer _ _ (by decide)

/-- A device request: session operations in opcode 3, key operations in opcode 1. -/
theorem iotTalk_only (a : CLN) {named : Bytes → Prop}
    (session : atoi a.checkcode = 3 → ∀ op : Op, op.signsBy a.conn a.socket named → allowed op)
    (device : ∀ name rest, strSplit a.data 200 underscore = name :: rest →
      named (cstr name ++ [0]))
    (key : atoi a.checkcode = 1 → ∀ op : Op, op.role = .key → allowed op) :
    (iotTalk a).Only allowed := by
  have signedIn {handler : Handler Unit} (quiet : Routine handler) :
      (a.whenSignedIn handler).Only allowed := by
    unfold CLN.whenSignedIn
    split
    · exact quiet.mono routine
    · trivial
  unfold iotTalk
  split
  · rename_i code
    refine ⟨routine _ rfl, fun _ => ⟨routine _ rfl, fun fresh => ⟨key code _ rfl, fun _ => ?_⟩⟩⟩
    refine ⟨routine _ rfl, fun _ => ?_⟩
    exact (sendRow_only a (key code _ rfl) (routine _ rfl)).bind fun _ => trivial
  · exact (iotPin_routine a).mono routine
  · rename_i code
    exact iotRegSign_only routine a (session code) device
  · exact signedIn (iotUpdate_routine a)
  · exact signedIn (iotRead_routine a)
  · exact signedIn ((iotReadSelfSceneCmd_routine a _).bind fun _ => trivial)
  · exact signedIn (iotReadLoop_routine a _)
  · exact signedIn (iotSend_routine a)
  · exact signedIn (iotStore_routine a)
  · trivial

end

/-! ## User requests -/

/-- The stored scene of the device that starts one is mild. -/
theorem storeTrigger_mild (a : CLN) (first second cmd timeStamp exeDate : Bytes) :
    Mild (storeTrigger a first second cmd timeStamp exeDate) := by
  unfold storeTrigger
  split
  · refine (userDeleteSce_mild _).bind fun _ => ⟨rfl, fun found => ?_⟩
    cases found with
    | none => exact faulty_mild
    | some device => exact (newUserSceneCmdStore_mild _ _ _ _ _ _ _ _).bind fun _ => trivial
  · trivial

/-- Both stores of `SCE` are mild. -/
theorem storeScene_mild (a : CLN) (first second third timeStamp exeDate : Bytes) :
    Mild (storeScene a first second third timeStamp exeDate) := by
  refine ⟨rfl, fun found => ?_⟩
  cases found with
  | none => exact faulty_mild
  | some device =>
    exact (storeTrigger_mild _ _ _ _ _ _).bind fun _ =>
      (newUserSceneCmdStore_mild _ _ _ _ _ _ _ _).bind fun _ => trivial

/-- The scene that `DSC` replaces is mild. -/
theorem replaceScene_mild (a : CLN) (iotid devclass : Int) (timeStamp exeDate : Bytes) :
    Mild (replaceScene a iotid devclass timeStamp exeDate) := by
  refine (userDeleteSce_mild iotid).bind fun deleted => ?_
  split
  · trivial
  · exact (newUserSceneCmdStore_mild _ _ _ _ _ _ _ _).bind fun _ => trivial

/-- A case that returns without the end of its task, by the request alone. -/
def CLN.early (a : CLN) : Bool :=
  match a.requestClass with
  | .user .pin => a.key.encryptBlockBytes = 0
  | .user .sce =>
    match strSplit a.data 200 tilde with
    | data :: _ :: _ => (strSplit (strcpy a.data data) 200 dash).length < 7
    | _ => (strSplit a.data 200 dash).length < 7
  | .user .icm => (strSplit a.data (strlen a.data) underscore).length < 2
  | .user .dsc =>
    match strSplit a.data 200 tilde with
    | data :: _ :: _ =>
      (strSplit (strcpy a.data data) (strlen (strcpy a.data data)) dash).length < 3
    | _ => (strSplit a.data (strlen a.data) dash).length < 6
  | _ => false

/-- A registered device that a command or a scene has to find is missing. -/
def CLN.misses (a : CLN) : Happening → Bool
  | ⟨.findRegister .iot (.name _), found⟩ =>
    (found : Option User).isNone && decide (a.requestClass = .user .icm)
  | ⟨.findRegister .iot (.key _), found⟩ =>
    (found : Option User).isNone && decide (a.requestClass = .user .dsc)
  | _ => false

/-- A request that signs somebody in or out. -/
def CLN.signing (a : CLN) : Bool :=
  match a.requestClass with
  | .user .sia | .user .sib | .user .sto => true
  | .device => atoi a.checkcode = 3
  | _ => false

/-- A request that replaces the connection's key. -/
def CLN.rekeying (a : CLN) : Bool :=
  match a.requestClass with
  | .user .hba | .user .rsa => true
  | .device => atoi a.checkcode = 1
  | _ => false

/-- What `talk` does after a case. -/
def endCase (a : CLN) : Flow → Handler Unit
  | .returned => return ()
  | .left => finish a

/-- It does what the end of a task does. -/
theorem endCase_only {allowed : Op → Prop} {a : CLN} (ends : (finish a).Only allowed) (flow : Flow) :
    (endCase a flow).Only allowed := by
  cases flow with
  | returned => trivial
  | left => exact ends

/-- A request is its case and the end of its task. -/
theorem talk_user [Writers] {config : Config} {a : CLN} {opcode : Opcode} (asks : a.requestClass = .user opcode) :
    talk config a = talkCase config a opcode >>= endCase a := by
  rw [talk, asks]
  have same : (fun flow : Flow => match flow with
      | .returned => (return () : Handler Unit)
      | .left => finish a) = endCase a := by
    funext flow
    cases flow <;> rfl
  exact congrArg (talkCase config a opcode >>= ·) same

/-- A device's request is its opcode and the end of its task. -/
theorem talk_device [Writers] {config : Config} {a : CLN} (asks : a.requestClass = .device) :
    talk config a = iotTalk a >>= fun _ => finish a := by
  rw [talk, asks]

/-- Opcode 1 asks for a key. -/
theorem iotTalk_rsa [Writers] {a : CLN} (one : atoi a.checkcode = 1) : iotTalk a = iotRsa a := by
  rw [iotTalk, one]
  rfl

/-- Opcode 2 asks for a PIN. -/
theorem iotTalk_pin [Writers] {a : CLN} (two : atoi a.checkcode = 2) : iotTalk a = iotPin a := by
  rw [iotTalk, two]
  rfl

/-- Opcode 3 registers a device or signs it in. -/
theorem iotTalk_regSign [Writers] {a : CLN} (three : atoi a.checkcode = 3) :
    iotTalk a = iotRegSign a := by
  rw [iotTalk, three]
  rfl

/-- What a case leaves to do: nothing, or the end of the task before it returns; a bare return
only where that may be. -/
def Ends (bare : Prop) (a : CLN) (rest : Handler Flow) : Prop :=
  rest = .ret .left ∨ rest = (finish a >>= fun _ => .ret .returned) ∨
    (bare ∧ rest = .ret .returned)

section

variable {allowed : Op → Prop} {heard : Happening → Prop} {bare : Prop}

/-- A case that has left the switch. -/
theorem leads_left (a : CLN) : (Prog.ret Flow.left : Handler Flow).Leads allowed heard
    (Ends bare a) := .here (.inl rfl)

/-- A case that returns without the end of its task. -/
theorem leads_bare (a : CLN) (may : bare) : (Prog.ret Flow.returned : Handler Flow).Leads allowed
    heard (Ends bare a) := .here (.inr (.inr ⟨may, rfl⟩))

/-- A sequence of a reply and what follows it. -/
theorem andThen_leads {a : CLN} {sent next : Handler Flow}
    (first : sent.Leads allowed heard (Ends bare a))
    (second : next.Leads allowed heard (Ends bare a)) :
    (Flow.andThen sent next).Leads allowed heard (Ends bare a) := by
  refine first.bind fun rest ends => ?_
  obtain rfl | rfl | ⟨may, rfl⟩ := ends
  · exact second
  · exact .here (.inr (.inl rfl))
  · exact leads_bare a may

/-- An operation leads to wherever its answers do. -/
theorem perform_leads {op : Op} {next : op.Res → Handler Flow} {goal : Handler Flow → Prop}
    (first : allowed op)
    (later : ∀ response, heard ⟨op, response⟩ → (next response).Leads allowed heard goal) :
    (perform op >>= next).Leads allowed heard goal := .call first later

variable (quiet : ∀ op : Op, op.mild = true → allowed op)

include quiet

/-- A fault ends the program, so it leads nowhere. -/
theorem faulty_leads (a : CLN) :
    (faulty : Handler Flow).Leads allowed heard (Ends bare a) :=
  .call (quiet _ rfl) fun response _ => response.elim

/-- Undefined arithmetic is a fault. -/
theorem defined_leads {α : Type} {a : CLN} {value : Option α} {next : α → Handler Flow}
    (later : ∀ found, (next found).Leads allowed heard (Ends bare a)) :
    (defined value next).Leads allowed heard (Ends bare a) := by
  cases value with
  | none => exact faulty_leads quiet a
  | some found => exact later found

/-- A mild part leads to what follows it. -/
theorem Mild.leads {α : Type} {a : CLN} {handler : Handler α} {next : α → Handler Flow}
    (still : Mild handler) (later : ∀ value, (next value).Leads allowed heard (Ends bare a)) :
    (handler >>= next).Leads allowed heard (Ends bare a) :=
  (still.mono quiet).leads later

omit quiet in
/-- A reply: the case is over, or the task is. -/
theorem sendReply_leads (a : CLN) {frame : Frame} (send : allowed (.send a.socket frame))
    (close : allowed (.closeSocket a.socket)) :
    (sendReply a frame).Leads allowed heard (Ends bare a) := by
  refine perform_leads send fun len _ => ?_
  split
  · exact .call close fun _ _ => .here (.inr (.inl rfl))
  · exact leads_left a

/-- A reply by its code. -/
theorem reply_leads (a : CLN) (close : allowed (.closeSocket a.socket)) {code : String}
    (other : text code ≠ text "RSA") :
    (sendReply a (reply code)).Leads allowed heard (Ends bare a) :=
  sendReply_leads a (quiet _ (send_mild _ (if_neg other) rfl)) close

/-- `RSA` leads to the end of its task. -/
theorem talkRsa_leads (a : CLN) (close : allowed (.closeSocket a.socket))
    (key : ∀ op : Op, op.role = .key → allowed op) :
    (talkRsa a).Leads allowed heard (Ends bare a) :=
  .call (quiet _ rfl) fun _ _ => .call (quiet _ rfl) fun _ _ =>
    .call (key _ rfl) fun _ _ => sendReply_leads a (key _ rfl) close

/-- `PIN` leads to the end of its task. -/
theorem talkPin_leads (a : CLN) (close : allowed (.closeSocket a.socket))
    (early : a.key.encryptBlockBytes = 0 → bare) :
    (talkPin a).Leads allowed heard (Ends bare a) := by
  unfold talkPin
  split
  · rename_i keyless
    exact leads_bare a (early keyless)
  · refine perform_leads (quiet _ rfl) fun pin _ => perform_leads (quiet _ rfl) fun _ _ => ?_
    split
    · exact defined_leads quiet fun _ => faulty_leads quiet a
    · exact .call (quiet _ rfl) fun _ _ => reply_leads quiet a close (by decide)

/-- `SIA` and `SIB` lead to the end of their task. -/
theorem talkSia_leads (a : CLN) (close : allowed (.closeSocket a.socket))
    {named : Bytes → Prop}
    (session : ∀ op : Op, op.signsBy a.conn a.socket named → allowed op) (own : named (a.userId.take 12)) :
    (talkSia a).Leads allowed heard (Ends bare a) := by
  refine defined_leads quiet fun userPassword => ?_
  refine (signIn_only quiet _ (by rfl) (by rfl) session).leads fun result => ?_
  split
  · refine perform_leads (session _ ⟨rfl, own⟩) fun _ _ => ?_
    refine (refreshKeyId_only quiet _ (by rfl) session).leads fun _ => ?_
    exact .call (session _ rfl) fun _ _ => reply_leads quiet _ close (by decide)
  · exact reply_leads quiet _ close (by decide)

/-- `REA` after the PIN was compared leads to the end of its task. -/
theorem talkRegister_leads (a : CLN) (close : allowed (.closeSocket a.socket)) :
    (talkRegister a).Leads allowed heard (Ends bare a) := by
  refine defined_leads quiet fun userPassword => ?_
  refine Mild.leads quiet (register_mild _ _) fun registered => ?_
  split <;> exact reply_leads quiet a close (by decide)

/-- `REA` leads to the end of its task. -/
theorem talkRea_leads (config : Config) (a : CLN) (close : allowed (.closeSocket a.socket)) :
    (talkRea config a).Leads allowed heard (Ends bare a) := by
  refine Mild.leads quiet updateLocalRegUserAndIotlist_mild fun _ => ?_
  split
  · exact talkRegister_leads quiet a close
  · exact andThen_leads (reply_leads quiet a close (by decide)) (talkRegister_leads quiet a close)

/-- `SCE` without a schedule leads to the end of its task. -/
theorem talkSceneDaily_leads (a : CLN) (early : (strSplit a.data 200 dash).length < 7 → bare) :
    (talkSceneDaily a).Leads allowed heard (Ends bare a) := by
  unfold talkSceneDaily
  dsimp only
  split
  · rename_i short
    exact leads_bare a (early short)
  · refine Mild.leads quiet (storeScene_mild _ _ _ _ _ _) fun _ => ?_
    split
    · exact faulty_leads quiet a
    · exact leads_left a

/-- `SCE` with a schedule leads to the end of its task. -/
theorem talkSceneScheduled_leads (a : CLN)
    (early : (strSplit a.data 200 dash).length < 7 → bare) :
    (talkSceneScheduled a).Leads allowed heard (Ends bare a) := by
  unfold talkSceneScheduled
  dsimp only
  split
  · rename_i short
    exact leads_bare a (early short)
  · split <;>
      exact Mild.leads quiet (storeScene_mild _ _ _ _ _ _) fun _ => leads_left a

/-- A message leads to the end of its task. -/
theorem talkMessage_leads (a : CLN) (close : allowed (.closeSocket a.socket)) {code : String}
    (other : text code ≠ text "RSA") :
    (talkMessage a code).Leads allowed heard (Ends bare a) := by
  refine perform_leads (quiet _ rfl) fun found _ => ?_
  cases found with
  | none => exact .here (.inr (.inl rfl))
  | some user =>
    exact Mild.leads quiet (newUserMsgStorage_mild a _) fun _ => reply_leads quiet a close other

/-- `STO` leads to the end of its task. -/
theorem talkSto_leads (a : CLN) (close : allowed (.closeSocket a.socket))
    {named : Bytes → Prop}
    (session : ∀ op : Op, op.signsBy a.conn a.socket named → allowed op) :
    (talkSto a).Leads allowed heard (Ends bare a) :=
  andThen_leads (reply_leads quiet a close (by decide))
    (.call (session _ trivial) fun _ _ => leads_left a)

/-- `ADS` leads to the end of its task. -/
theorem talkAds_leads (a : CLN) (close : allowed (.closeSocket a.socket)) :
    (talkAds a).Leads allowed heard (Ends bare a) := by
  refine perform_leads (quiet _ rfl) fun found _ => ?_
  cases found with
  | none => exact faulty_leads quiet a
  | some friend =>
    refine Mild.leads quiet (newUserFriend_mild _ _ (only_ret _)) fun stored => ?_
    split
    · exact reply_leads quiet a close (by decide)
    · refine perform_leads (quiet _ rfl) fun found _ => ?_
      cases found with
      | none => exact faulty_leads quiet a
      | some own =>
        refine perform_leads (quiet _ rfl) fun id _ => ?_
        refine Mild.leads quiet (newUserFriend_mild _ _ ⟨rfl, fun _ => trivial⟩) fun stored => ?_
        split <;> exact reply_leads quiet a close (by decide)

omit quiet in
/-- A command to a device is stamped. -/
theorem commandDevice_leads (routine : ∀ op : Op, op.routine = true → allowed op) (a : CLN)
    (device : User) (payLoad : Bytes) :
    (commandDevice device payLoad).Leads allowed heard (Ends bare a) := by
  refine perform_leads (routine _ rfl) fun pin _ => perform_leads (routine _ rfl) fun seqNum _ => ?_
  refine perform_leads (routine _ (send_routine _ (iotFrame_silent (by decide)))) fun len _ => ?_
  split
  · exact .call (routine _ rfl) fun _ _ => leads_left a
  · exact leads_left a

/-- `ICM` to a device that is not online here leads to the end of its task. -/
theorem commandElsewhere_leads (a : CLN) (payLoad : Bytes)
    (missing : heard ⟨.findRegister .iot (.name a.talktoId), (none : Option User)⟩ → bare) :
    (commandElsewhere a payLoad).Leads allowed heard (Ends bare a) := by
  refine perform_leads (quiet _ rfl) fun found answer => ?_
  cases found with
  | none => exact leads_bare a (missing answer)
  | some device =>
    refine perform_leads (quiet _ rfl) fun _ _ => perform_leads (quiet _ rfl) fun _ _ => ?_
    refine perform_leads (quiet _ rfl) fun _ _ => perform_leads (quiet _ rfl) fun _ _ => ?_
    exact Mild.leads quiet (send2OnlineUserViaTopServer_mild _) fun _ => leads_left a

/-- `DSC` without a schedule leads to the end of its task. -/
theorem talkDscDaily_leads (a : CLN) (close : allowed (.closeSocket a.socket))
    (early : (strSplit a.data (strlen a.data) dash).length < 6 → bare)
    (missing : ∀ id, heard ⟨.findRegister .iot (.key id), (none : Option User)⟩ → bare) :
    (talkDscDaily a).Leads allowed heard (Ends bare a) := by
  unfold talkDscDaily
  dsimp only
  split
  · rename_i short
    exact leads_bare a (early short)
  · refine perform_leads (quiet _ rfl) fun found answer => ?_
    cases found with
    | none => exact leads_bare a (missing _ answer)
    | some device =>
      refine Mild.leads quiet (replaceScene_mild _ _ _ _ _) fun failed => ?_
      split <;> exact reply_leads quiet a close (by decide)

/-- `DSC` with a schedule leads to the end of its task. -/
theorem talkDscScheduled_leads (a : CLN) (close : allowed (.closeSocket a.socket))
    (schedule : Bytes)
    (early : (strSplit a.data (strlen a.data) dash).length < 3 → bare)
    (missing : ∀ id, heard ⟨.findRegister .iot (.key id), (none : Option User)⟩ → bare) :
    (talkDscScheduled a schedule).Leads allowed heard (Ends bare a) := by
  unfold talkDscScheduled
  dsimp only
  split
  · rename_i short
    exact leads_bare a (early short)
  · refine perform_leads (quiet _ rfl) fun found answer => ?_
    cases found with
    | none => exact leads_bare a (missing _ answer)
    | some device =>
      dsimp only
      split
      · refine Mild.leads quiet (replaceScene_mild _ _ _ _ _) fun failed => ?_
        split <;> exact reply_leads quiet a close (by decide)
      · refine Mild.leads quiet (userDeleteSce_mild _) fun deleted => ?_
        split
        · exact reply_leads quiet a close (by decide)
        · exact faulty_leads quiet a

/-- Every case of the switch. -/
theorem talkCase_leads (config : Config) (a : CLN) (opcode : Opcode)
    (requested : a.requestClass = .user opcode) (close : allowed (.closeSocket a.socket))
    (stamped : opcode = .icm → ∀ op : Op, op.routine = true → allowed op)
    (session : a.signing = true → ∀ op : Op, op.signsBy a.conn a.socket a.writesId → allowed op)
    (key : a.rekeying = true → ∀ op : Op, op.role = .key → allowed op)
    (early : a.early = true → bare)
    (missing : ∀ happening, a.misses happening = true → heard happening → bare) :
    (talkCase config a opcode).Leads allowed heard (Ends bare a) := by
  cases opcode with
  | hba =>
    have rekeys : a.rekeying = true := by rw [CLN.rekeying, requested]
    exact andThen_leads (reply_leads quiet a close (by decide))
      (talkRsa_leads quiet a close (key rekeys))
  | rsa =>
    have rekeys : a.rekeying = true := by rw [CLN.rekeying, requested]
    exact talkRsa_leads quiet a close (key rekeys)
  | pin =>
    refine talkPin_leads quiet a close fun keyless => early ?_
    simp only [CLN.early, requested, keyless, decide_true]
  | sib | sia =>
    have signs : a.signing = true := by rw [CLN.signing, requested]
    refine talkSia_leads quiet a close (session signs) ?_
    rw [CLN.writesId, requested, if_neg RequestClass.noConfusion]
  | rea => exact talkRea_leads quiet config a close
  | rme => exact leads_left a
  | sce =>
    simp only [CLN.early, requested] at early
    rw [talkCase, talkSce]
    rcases shape : strSplit a.data 200 tilde with _ | ⟨data, _ | ⟨date, rest⟩⟩
    · rw [shape] at early
      exact talkSceneDaily_leads quiet a fun short => early (decide_eq_true short)
    · rw [shape] at early
      exact talkSceneDaily_leads quiet a fun short => early (decide_eq_true short)
    · rw [shape] at early
      exact talkSceneScheduled_leads quiet
        { a with data := strcpy a.data data, date := strcpy a.date date }
        fun short => early (decide_eq_true short)
  | iot => exact (userGetIotData_only quiet a close).leads fun _ => leads_left a
  | taa => exact talkMessage_leads quiet a close (by decide)
  | sto =>
    have signs : a.signing = true := by rw [CLN.signing, requested]
    exact talkSto_leads quiet a close (session signs)
  | upd => exact .call (quiet _ (send_mild _ rfl rfl)) fun _ _ => leads_left a
  | add =>
    exact Mild.leads quiet updateLocalRegUserAndIotlist_mild fun _ =>
      talkMessage_leads quiet a close (by decide)
  | ads => exact talkAds_leads quiet a close
  | icm =>
    simp only [CLN.early, requested] at early
    simp only [talkCase, talkIcm]
    split
    · refine perform_leads (quiet _ rfl) fun found _ => ?_
      cases found with
      | none =>
        exact commandElsewhere_leads quiet a _ (missing _ (by simp [CLN.misses, requested]))
      | some device => exact commandDevice_leads (stamped rfl) a device _
    · rename_i short
      refine leads_bare a (early (decide_eq_true ?_))
      rcases shape : strSplit a.data (strlen a.data) underscore with _ | ⟨first, _ | ⟨second, rest⟩⟩
      · simp
      · simp
      · exact absurd shape (short _ _ _)
  | dsc =>
    have absent (id : Int) :
        heard ⟨.findRegister .iot (.key id), (none : Option User)⟩ → bare :=
      missing _ (by simp [CLN.misses, requested])
    simp only [CLN.early, requested] at early
    rw [talkCase, talkDsc]
    rcases shape : strSplit a.data 200 tilde with _ | ⟨data, _ | ⟨schedule, rest⟩⟩
    · rw [shape] at early
      exact talkDscDaily_leads quiet a close (fun short => early (decide_eq_true short)) absent
    · rw [shape] at early
      exact talkDscDaily_leads quiet a close (fun short => early (decide_eq_true short)) absent
    · rw [shape] at early
      exact talkDscScheduled_leads quiet { a with data := strcpy a.data data } close schedule
        (fun short => early (decide_eq_true short)) absent
  | ioc =>
    refine Mild.leads quiet (newUserIot_mild _ _ _) fun stored => ?_
    split <;> exact reply_leads quiet a close (by decide)
  | rco =>
    exact (userReqFriendRel_only quiet a close).leads fun _ =>
      (userReqIotRel_only quiet a close).leads fun _ => leads_left a
  | rpa =>
    refine Mild.leads quiet updateLocalRegUserAndIotlist_mild fun _ => ?_
    refine defined_leads quiet fun reUserPassword => ?_
    refine Mild.leads quiet (userRePwd_mild _) fun changed => ?_
    split <;> exact reply_leads quiet a close (by decide)
  | unknown => exact reply_leads quiet a close (by decide)

omit quiet in
/-- A request leads to the end of its task, or to a bare return where that may be; a sign-in writes
only the names it has. -/
theorem naming_leads (routine : ∀ op : Op, op.routine = true → allowed op) (config : Config)
    (a : CLN) (session : a.signing = true → ∀ op : Op, op.signsAs a.conn a.writesId → allowed op)
    (key : a.rekeying = true → ∀ op : Op, op.role = .key → allowed op)
    (early : a.early = true → bare)
    (missing : ∀ happening, a.misses happening = true → heard happening → bare) :
    (talk config a).Leads allowed heard fun rest => rest = finish a ∨ (bare ∧ rest = .ret ()) := by
  unfold talk
  split
  · exact .call (routine _ (send_routine _ rfl)) fun _ _ => .here (.inl rfl)
  · rename_i device
    refine (iotTalk_only routine a (fun code op signs => session ?_ op (Op.signsBy_signsAs signs))
      (fun name rest fields => ?_) fun code => key ?_).leads fun _ => .here (.inl rfl)
    · simp [CLN.signing, device, code]
    · rw [CLN.writesId, if_pos device]
      exact ⟨name, rest, fields, rfl⟩
    · simp [CLN.rekeying, device, code]
  · rename_i opcode requested
    have quiet (op : Op) (mild : op.mild = true) : allowed op :=
      routine op (Op.unstamped_routine (Op.mild_unstamped mild))
    refine (talkCase_leads quiet config a opcode requested (routine _ rfl) (fun _ => routine)
      (fun signs op by_socket => session signs op (Op.signsBy_signsAs by_socket)) key early
      missing).bind fun rest ends => ?_
    obtain rfl | rfl | ⟨may, rfl⟩ := ends
    · exact .here (.inl rfl)
    · exact .here (.inl rfl)
    · exact .here (.inr ⟨may, rfl⟩)

omit quiet in
/-- A request leads to the end of its task, or to a bare return where that may be. -/
theorem request_leads (routine : ∀ op : Op, op.routine = true → allowed op) (config : Config)
    (a : CLN) (session : a.signing = true → ∀ op : Op, op.signsFor a.conn → allowed op)
    (key : a.rekeying = true → ∀ op : Op, op.role = .key → allowed op)
    (early : a.early = true → bare)
    (missing : ∀ happening, a.misses happening = true → heard happening → bare) :
    (talk config a).Leads allowed heard fun rest => rest = finish a ∨ (bare ∧ rest = .ret ()) :=
  naming_leads routine config a
    (fun signing op signs => session signing op (Op.signsAs_signsFor signs)) key early missing

end

/-- The copy of a key id after a sign-in is plain. -/
theorem refreshKeyId_plain (a : CLN) : Plain (refreshKeyId a) := by
  refine ⟨rfl, fun found => ?_⟩
  cases found with
  | none => trivial
  | some first =>
    refine ⟨rfl, fun found => ?_⟩
    cases found with
    | none => exact faulty_plain
    | some registered => exact ⟨rfl, fun _ => trivial⟩

/-- The same with every plain operation allowed. -/
theorem talk_leads {allowed : Op → Prop} {heard : Happening → Prop} {bare : Prop}
    (plain : ∀ op : Op, op.plain → allowed op) (config : Config) (a : CLN)
    (session : a.signing = true → ∀ op : Op, op.role = .session → allowed op)
    (key : a.rekeying = true → ∀ op : Op, op.role = .key → allowed op)
    (early : a.early = true → bare)
    (missing : ∀ happening, a.misses happening = true → heard happening → bare) :
    (talk config a).Leads allowed heard fun rest => rest = finish a ∨ (bare ∧ rest = .ret ()) := by
  refine request_leads (fun op routine => plain op (Op.routine_plain routine)) config a
    (fun signing op signs => ?_) key early missing
  rcases Op.signsFor_cases signs with session' | keyed
  · exact session signing op session'
  · exact plain op keyed

end UubangIot
