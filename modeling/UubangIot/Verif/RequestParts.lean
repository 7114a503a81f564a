import UubangIot.Verif.Handlers

/-!
# The parts of a request

A request uses the database and the registered lists in eight kinds of parts only: a statement that
stores, a statement whose rows are read, the stored commands and the status of a device, the row of
a registration, the reload of the registered lists and the change of a password. What holds of these
parts, and of sequences, holds of every request.
-/

namespace UubangIot

open Effect Effect.Prog

/-- An operation outside the database and the registered lists, which it may still search. -/
def Op.apart : Op → Bool
  | .getDbConnect | .releaseNode _ | .realQuery _ _ | .storeResult _ | .affectedRows _
  | .lockMute _ | .unlockMute _ | .registedHead _ | .addtoLocal _
  | .setRegisterPassword _ _ => false
  | _ => true

/-- The record with which a request changes a password: its name, with both passwords decoded. -/
def CLN.renewal (a b : CLN) : Prop :=
  a.requestClass = .user .rpa ∧ ∃ reUserPassword,
    decodeOver a.passwordKey a.reUserPassword a.data 32 = some reUserPassword ∧
      b = { a with
        reUserPassword := decryptOver reUserPassword 32 a.pin
        userPassword := decryptOver a.userPassword 32 a.pin }

/-- A program that is put together from operations apart and the parts that use the database, with
the records it may change a password with. -/
inductive Assembled (renews : CLN → Prop) : {α : Type} → Handler α → Prop
  /-- A result. -/
  | ret {α : Type} (value : α) : Assembled renews (.ret value)
  /-- An operation apart, and what follows it. -/
  | call {α : Type} (op : Op) (apart : op.apart = true) (next : op.Res → Handler α)
      (later : ∀ response, Assembled renews (next response)) : Assembled renews (.call op next)
  /-- A sequence. -/
  | bind {α β : Type} (program : Handler α) (f : α → Handler β) (first : Assembled renews program)
      (second : ∀ value, Assembled renews (f value)) : Assembled renews (program >>= f)
  /-- A statement that stores. -/
  | storing (statement : Statement) (onNull onError : Int) (after : Handler Unit)
      (follows : Assembled renews after) : Assembled renews (storing statement onNull onError after)
  /-- A statement whose rows are read. -/
  | reading (statement : Statement) (each : Row → Handler Bool)
      (row : ∀ row, Assembled renews (each row)) : Assembled renews (reading statement each)
  /-- The stored commands of a device. -/
  | readCmd (a : CLN) (devclass : Int) (del : Bool) : Assembled renews (iotReadCmd a devclass del)
  /-- The status of a device. -/
  | updateStatus (a : CLN) (evtClass status : Int) :
    Assembled renews (iotUpdateStatus a evtClass status)
  /-- The row of a registration. -/
  | registerRow (a : CLN) (method : Int) : Assembled renews (registerRow a method)
  /-- The reload of the registered lists. -/
  | reload : Assembled renews updateLocalRegUserAndIotlist
  /-- The change of a password. -/
  | rePwd (b : CLN) (asked : renews b) : Assembled renews (userRePwd b)

variable {α β : Type} {a b : CLN} {renews : CLN → Prop}

/-- A sequence of two assembled parts. -/
theorem Assembled.seq {program : Handler α} {f : α → Handler β} (first : Assembled renews program)
    (second : ∀ value, Assembled renews (f value)) : Assembled renews (program >>= f) :=
  .bind program f first second

/-! ## Closed properties -/

/-- An operation that leaves the registered lists and their mutexes alone. -/
def Op.unlisted : Op → Bool
  | .lockMute _ | .unlockMute _ | .addtoLocal _ | .setRegisterPassword _ _ => false
  | _ => true

/-- A property of programs that results have and that operations besides those on the registered
lists, and sequences, keep. -/
structure ClosedUnder (property : (α : Type) → Handler α → Prop) : Prop where
  /-- A result. -/
  ret : ∀ (α : Type) (value : α), property α (.ret value)
  /-- An operation. -/
  call : ∀ (α : Type) (op : Op) (next : op.Res → Handler α), op.unlisted = true →
    (∀ response, property α (next response)) → property α (.call op next)
  /-- A sequence. -/
  bind : ∀ (α β : Type) (program : Handler α) (f : α → Handler β), property α program →
    (∀ value, property β (f value)) → property β (program >>= f)

section

variable {property : (α : Type) → Handler α → Prop}

/-- A program of such operations. -/
theorem ClosedUnder.only (closed : ClosedUnder property) {handler : Handler α}
    (free : handler.Only (Op.unlisted · = true)) : property α handler := by
  induction handler with
  | ret value => exact closed.ret α value
  | call op next ih =>
    exact closed.call α op next free.1 fun response => ih response (free.2 response)

/-- Statements that store, by their operations. -/
theorem ClosedUnder.storing (closed : ClosedUnder property) (statement : Statement)
    (onNull onError : Int) {after : Handler Unit} (follows : property Unit after) :
    property Int (storing statement onNull onError after) := by
  refine closed.call _ _ _ rfl fun node => ?_
  cases node with
  | none => exact closed.ret _ _
  | some node =>
    refine closed.call _ _ _ rfl fun result => ?_
    cases result with
    | failed duplicate => exact closed.call _ _ _ rfl fun _ => closed.ret _ _
    | done =>
      have whole : property Int (after >>= fun _ => .call (.releaseNode node) fun _ => .ret 1) :=
        closed.bind _ _ _ _ follows fun _ => closed.call _ _ _ rfl fun _ => closed.ret _ _
      exact whole

/-- Statements that read, by their operations and their rows. -/
theorem ClosedUnder.reading (closed : ClosedUnder property) (statement : Statement)
    {each : Row → Handler Bool} (row : ∀ row, property Bool (each row)) :
    property Int (reading statement each) := by
  have loop (rows : List Row) : property Bool (eachRow each rows) := by
    induction rows with
    | nil => exact closed.ret _ _
    | cons first rest ih =>
      refine closed.bind _ _ _ _ (row first) fun goes => ?_
      split
      · exact ih
      · exact closed.ret _ _
  refine closed.call _ _ _ rfl fun node => ?_
  cases node with
  | none => exact closed.ret _ _
  | some node =>
    refine closed.call _ _ _ rfl fun result => ?_
    cases result with
    | failed duplicate => exact closed.call _ _ _ rfl fun _ => closed.ret _ _
    | done =>
      refine closed.call _ _ _ rfl fun stored => ?_
      cases stored with
      | none => exact closed.call _ _ _ rfl fun response => response.elim
      | some rows =>
        have whole : property Int (eachRow each rows >>= fun complete =>
            .call (.releaseNode node) fun _ => .ret (if complete then 1 else 0)) :=
          closed.bind _ _ _ _ (loop rows) fun _ => closed.call _ _ _ rfl fun _ => closed.ret _ _
        exact whole

/-- The row of a registration. -/
theorem registerRow_unlisted (a : CLN) (method : Int) :
    (registerRow a method).Only (Op.unlisted · = true) := by
  unfold registerRow
  split
  · refine ⟨rfl, fun node => ?_⟩
    cases node with
    | none => trivial
    | some node =>
      refine ⟨rfl, fun result => ?_⟩
      cases result with
      | done => exact ⟨rfl, fun _ => trivial⟩
      | failed duplicate => cases duplicate <;> exact ⟨rfl, fun _ => trivial⟩
  · refine ⟨rfl, fun node => ?_⟩
    cases node with
    | none => trivial
    | some node =>
      refine ⟨rfl, fun result => ?_⟩
      cases result with
      | failed duplicate => exact ⟨rfl, fun _ => trivial⟩
      | done =>
        refine ⟨rfl, fun result => ?_⟩
        cases result with
        | failed duplicate => exact ⟨rfl, fun _ => trivial⟩
        | done => trivial

/-- What reloads and changes of passwords have as well, every assembled program has. -/
theorem Assembled.closed (closed : ClosedUnder property)
    (reload : property Int updateLocalRegUserAndIotlist)
    (rePwd : ∀ b, renews b → property Int (userRePwd b)) {handler : Handler α}
    (assembled : Assembled renews handler) : property α handler := by
  induction assembled with
  | ret value => exact closed.ret _ value
  | call op apart next later ih =>
    exact closed.call _ op next (by cases op <;> first | rfl | cases apart) ih
  | bind program f first second ih_first ih_second =>
    exact closed.bind _ _ program f ih_first ih_second
  | storing statement onNull onError after follows ih => exact closed.storing _ _ _ ih
  | reading statement each row ih => exact closed.reading _ ih
  | readCmd a devclass del =>
    exact closed.only (iotReadCmd_only a devclass del rfl (fun _ => rfl) (fun _ => rfl)
      (fun _ => rfl) (fun _ => rfl) rfl)
  | updateStatus a evtClass status =>
    exact closed.only (iotUpdateStatus_only a evtClass status rfl (fun _ => rfl) (fun _ => rfl)
      (fun _ => rfl) fun _ => rfl)
  | registerRow a method => exact closed.only (registerRow_unlisted a method)
  | reload => exact reload
  | rePwd b asked => exact rePwd b asked

end

/-! ## Replies -/

/-- A program of operations apart is put together from them alone. -/
theorem Only.assembled {handler : Handler α} (apart : handler.Only (Op.apart · = true)) :
    Assembled renews handler := by
  induction handler with
  | ret value => exact .ret value
  | call op next ih => exact .call op apart.1 next fun response => ih response (apart.2 response)

/-- An undefined access is put together from those parts. -/
theorem faulty_assembled : Assembled renews (faulty : Handler α) :=
  .call _ rfl _ fun response => response.elim

/-- One operation is put together from those parts. -/
theorem perform_assembled (op : Op) (apart : op.apart = true) : Assembled renews (perform op) :=
  .call op apart _ fun response => .ret response

/-- Arithmetic that may be undefined is put together from those parts. -/
theorem defined_assembled {value : Option α} {next : α → Handler β}
    (later : ∀ found, Assembled renews (next found)) : Assembled renews (defined value next) := by
  cases value with
  | none => exact faulty_assembled
  | some found => exact later found

/-- The end of a task is put together from those parts. -/
theorem finish_assembled (a : CLN) : Assembled renews (finish a) :=
  .call _ rfl _ fun _ => perform_assembled _ rfl

/-- A reply is put together from those parts. -/
theorem sendReply_assembled (a : CLN) (frame : Frame) : Assembled renews (sendReply a frame) := by
  refine .call _ rfl _ fun len => ?_
  dsimp only [Prog.bind]
  split
  · exact .call _ rfl _ fun _ => (finish_assembled a).seq fun _ => .ret _
  · exact .ret _

/-- A row that is sent is put together from those parts. -/
theorem sendRow_assembled (a : CLN) (frame : Frame) : Assembled renews (sendRow a frame) :=
  Only.assembled (sendRow_only a rfl rfl)

/-- A reply to a device is put together from those parts. -/
theorem sendOpBack_assembled (a : CLN) (opCode : String) (payLoad : Bytes) :
    Assembled renews (sendOpBack a opCode payLoad) :=
  .call _ rfl _ fun _ => (sendRow_assembled a _).seq fun _ => .ret _

/-- What follows a reply that was sent is put together from those parts. -/
theorem andThen_assembled {sent next : Handler Flow} (first : Assembled renews sent)
    (later : Assembled renews next) : Assembled renews (Flow.andThen sent next) := by
  refine first.seq fun flow => ?_
  cases flow with
  | returned => exact .ret _
  | left => exact later

/-! ## Statements -/

/-- A statement that stores, with nothing after it. -/
theorem storing_assembled (statement : Statement) (onNull onError : Int) :
    Assembled renews (storing statement onNull onError (return ())) :=
  .storing statement onNull onError _ (.ret ())

/-- `UpdateSqlInfoTimestamp` is put together from those parts. -/
theorem touching_assembled (userKeyId index : Int) : Assembled renews (touching userKeyId index) :=
  (storing_assembled _ _ _).seq fun _ => .ret _

/-- `UserDeleteSce` is put together from those parts. -/
theorem userDeleteSce_assembled (iotid : Int) : Assembled renews (userDeleteSce iotid) :=
  storing_assembled _ _ _

/-- `NewUserSceneCmdStore` is put together from those parts. -/
theorem newUserSceneCmdStore_assembled (talktoId : Bytes) (userKeyId : Int) (cmd : Bytes)
    (status devclass cmdGroup : Int) (timeStamp exeDate : Bytes) :
    Assembled renews (newUserSceneCmdStore talktoId userKeyId cmd status devclass cmdGroup timeStamp
      exeDate) := by
  refine .call _ rfl _ fun found => ?_
  cases found with
  | none => exact .ret _
  | some node => exact storing_assembled _ _ _

/-- `NewUserIot` is put together from those parts. -/
theorem newUserIot_assembled (talktoId : Bytes) (userKeyId iotId : Int) :
    Assembled renews (newUserIot talktoId userKeyId iotId) := by
  have stores (id : Int) : Assembled renews
      (storing (.insertUserIot userKeyId id) 0 0 (touching userKeyId 2)) :=
    .storing _ _ _ _ (touching_assembled _ _)
  unfold newUserIot
  split
  · refine .call _ rfl _ fun found => ?_
    cases found with
    | none => exact .ret _
    | some node => exact stores node.userKeyId
  · exact stores iotId

/-- `NewUserFriend` is put together from those parts. -/
theorem newUserFriend_assembled (userKeyId friendId : Int) {talktoId : Handler Bytes}
    (target : Assembled renews talktoId) :
    Assembled renews (newUserFriend userKeyId talktoId friendId) := by
  have stores (id : Int) : Assembled renews
      (storing (.insertFriend userKeyId id) 0 0 (touching userKeyId 1)) :=
    .storing _ _ _ _ (touching_assembled _ _)
  unfold newUserFriend
  split
  · refine target.seq fun name => .call _ rfl _ fun found => ?_
    cases found with
    | none => exact .ret _
    | some node => exact stores node.userKeyId
  · exact stores friendId

/-- `NewUserMsgStorage` is put together from those parts. -/
theorem newUserMsgStorage_assembled (a : CLN) (toId : Int) :
    Assembled renews (newUserMsgStorage a toId) :=
  .call _ rfl _ fun _ => .storing _ _ _ _ (touching_assembled _ _)

/-- `NewIotCmdToBeExecute` is put together from those parts. -/
theorem newIotCmdToBeExecute_assembled (a : CLN) (cmd : Bytes) (devclass status : Int)
    (timeToBeExe : Bytes) :
    Assembled renews (newIotCmdToBeExecute a cmd devclass status timeToBeExe) := by
  refine .call _ rfl _ fun found => ?_
  cases found with
  | none => exact faulty_assembled
  | some node => exact storing_assembled _ _ _

/-- `Register` is put together from those parts. -/
theorem register_assembled (a : CLN) (method : Int) : Assembled renews (register a method) := by
  rw [register_eq]
  refine .call _ rfl _ fun known => ?_
  split
  · exact .ret _
  · refine (Assembled.registerRow a method).seq fun inserted => ?_
    split
    · exact .ret _
    · exact Assembled.reload.seq fun _ => .ret _

/-! ## Signing in -/

/-- The copy of a key id after a sign-in is put together from those parts. -/
theorem refreshKeyId_assembled (a : CLN) : Assembled renews (refreshKeyId a) := by
  refine .call _ rfl _ fun found => ?_
  cases found with
  | none => exact .ret _
  | some first =>
    refine .call _ rfl _ fun found => ?_
    cases found with
    | none => exact faulty_assembled
    | some registered => exact perform_assembled _ rfl

/-- `SIGNIN` after its search is put together from those parts. -/
theorem signInFound_assembled (a : CLN) (kind : Kind) (checkuser : Option User) :
    Assembled renews (signInFound a kind checkuser) := by
  cases checkuser with
  | none =>
    refine .call _ rfl _ fun found => ?_
    cases found with
    | none => exact .ret _
    | some registered => exact .call _ rfl _ fun _ => .call _ rfl _ fun _ => .ret _
  | some node =>
    cases kind with
    | user =>
      exact .call _ rfl _ fun _ => .call _ rfl _ fun _ => .call _ rfl _ fun _ => .ret _
    | iot =>
      refine .call _ rfl _ fun found => ?_
      cases found with
      | none => exact .call _ rfl _ fun _ => .call _ rfl _ fun _ => .ret _
      | some registered =>
        exact .call _ rfl _ fun _ => .call _ rfl _ fun _ => .call _ rfl _ fun _ => .ret _

/-- `SIGNIN` is put together from those parts. -/
theorem signIn_assembled (a : CLN) : Assembled renews (signIn a) := by
  rw [signIn, signInAs_eq]
  refine .call _ rfl _ fun check => .call _ rfl _ fun checkuser => ?_
  split
  · exact .ret _
  · exact signInFound_assembled a _ _

/-! ## Device requests -/

/-- Opcode 1 is put together from those parts. -/
theorem iotRsa_assembled (a : CLN) : Assembled renews (iotRsa a) :=
  .call _ rfl _ fun _ => .call _ rfl _ fun _ => .call _ rfl _ fun _ => sendOpBack_assembled a _ _

/-- Opcode 2 is put together from those parts. -/
theorem iotPin_assembled (a : CLN) : Assembled renews (iotPin a) := by
  unfold iotPin
  split
  · exact .ret _
  · refine .call _ rfl _ fun _ => .call _ rfl _ fun _ => ?_
    exact defined_assembled fun _ => sendOpBack_assembled a _ _

/-- Opcode 3 is put together from those parts. -/
theorem iotRegSign_assembled (a : CLN) : Assembled renews (iotRegSign a) := by
  refine .call _ rfl _ fun signedIn => ?_
  dsimp only [Prog.bind]
  split
  · split
    · refine defined_assembled fun userPassword => ?_
      refine (register_assembled _ _).seq fun _ => ?_
      refine (signIn_assembled _).seq fun result => ?_
      split
      · refine .call _ rfl _ fun _ => .call _ rfl _ fun _ => ?_
        exact (refreshKeyId_assembled _).seq fun _ => sendOpBack_assembled _ _ _
      · exact sendOpBack_assembled _ _ _
    · exact .ret _
  · exact sendOpBack_assembled _ _ _

/-- The pairs of opcode 4 are put together from those parts. -/
theorem iotUpdateLoop_assembled (a : CLN) (fields : List Bytes) :
    Assembled renews (iotUpdateLoop a fields) := by
  have update (b : CLN) (evtClass status : Int) : Assembled renews
      (iotUpdateStatus b evtClass status >>=
        fun stored => sendOpBack a (if stored ≠ 0 then "04" else "24") []) :=
    (Assembled.updateStatus _ _ _).seq fun _ => sendOpBack_assembled _ _ _
  have pair (evtClass : Int) (value : Bytes) :
      Assembled renews (iotUpdatePair a evtClass value) := by
    unfold iotUpdatePair
    split
    · exact update _ _ _
    · split
      · exact update _ _ _
      · exact .ret _
  fun_induction iotUpdateLoop a fields with
  | case1 kind value rest ih => exact (pair _ _).seq fun _ => ih
  | case2 => exact .ret _

/-- Opcode 4 is put together from those parts. -/
theorem iotUpdate_assembled (a : CLN) : Assembled renews (iotUpdate a) := by
  unfold iotUpdate
  dsimp only
  split
  · exact .ret _
  · exact iotUpdateLoop_assembled _ _

/-- Opcode 5 is put together from those parts. -/
theorem iotRead_assembled (a : CLN) : Assembled renews (iotRead a) := by
  unfold iotRead
  split
  · exact .ret _
  · refine (Assembled.readCmd _ _ _).seq fun read => ?_
    obtain ⟨found, a⟩ := read
    dsimp only
    split
    · exact sendOpBack_assembled _ _ _
    · exact (Assembled.readCmd _ _ _).seq fun _ => sendOpBack_assembled _ _ _

/-- `IotReadSelfSceneCmd` is put together from those parts. -/
theorem iotReadSelfSceneCmd_assembled (a : CLN) (iotKey : Int) :
    Assembled renews (iotReadSelfSceneCmd a iotKey) :=
  .reading _ _ fun _ => .call _ rfl _ fun _ => sendRow_assembled a _

/-- The fields of opcode 7 are put together from those parts. -/
theorem iotReadLoop_assembled (a : CLN) (fields : List Bytes) :
    Assembled renews (iotReadLoop a fields) := by
  have rows (id : Int) : Assembled renews (iotGetIotData a id) :=
    .reading _ _ fun _ => .call _ rfl _ fun _ => sendRow_assembled a _
  induction fields with
  | nil => exact .ret _
  | cons field rest ih => exact (rows _).seq fun _ => ih

/-- Opcode 8 is put together from those parts. -/
theorem iotSend_assembled (a : CLN) : Assembled renews (iotSend a) := by
  unfold iotSend
  split
  · refine .call _ rfl _ fun online => ?_
    cases online with
    | none =>
      refine .call _ rfl _ fun found => ?_
      cases found with
      | none => exact faulty_assembled
      | some registered => exact .call _ rfl _ fun _ => .ret _
    | some node => exact .call _ rfl _ fun _ => sendOpBack_assembled _ _ _
  · exact .ret _

/-- Opcode 9 is put together from those parts. -/
theorem iotStore_assembled (a : CLN) : Assembled renews (iotStore a) := by
  unfold iotStore
  split
  · refine .call _ rfl _ fun found => ?_
    cases found with
    | none => exact sendOpBack_assembled _ _ _
    | some device =>
      exact (newIotCmdToBeExecute_assembled _ _ _ _ _).seq fun _ => sendOpBack_assembled _ _ _
  · exact .ret _

/-- `IoTtalk` is put together from those parts. -/
theorem iotTalk_assembled (a : CLN) : Assembled renews (iotTalk a) := by
  have signedIn {handler : Handler Unit} (assembled : Assembled renews handler) :
      Assembled renews (a.whenSignedIn handler) := by
    unfold CLN.whenSignedIn
    split
    · exact assembled
    · exact .ret _
  unfold iotTalk
  split
  · exact iotRsa_assembled a
  · exact iotPin_assembled a
  · exact iotRegSign_assembled a
  · exact signedIn (iotUpdate_assembled a)
  · exact signedIn (iotRead_assembled a)
  · exact signedIn ((iotReadSelfSceneCmd_assembled a _).seq fun _ => .ret _)
  · exact signedIn (iotReadLoop_assembled a _)
  · exact signedIn (iotSend_assembled a)
  · exact signedIn (iotStore_assembled a)
  · exact .ret _

/-! ## User requests -/

/-- `RSA` is put together from those parts. -/
theorem talkRsa_assembled (a : CLN) : Assembled renews (talkRsa a) :=
  .call _ rfl _ fun _ => .call _ rfl _ fun _ => .call _ rfl _ fun _ => sendReply_assembled a _

/-- `PIN` is put together from those parts. -/
theorem talkPin_assembled (a : CLN) : Assembled renews (talkPin a) := by
  unfold talkPin
  split
  · exact .ret _
  · refine .call _ rfl _ fun pin => .call _ rfl _ fun _ => ?_
    dsimp only [Prog.bind]
    split
    · exact defined_assembled fun _ => faulty_assembled
    · exact .call _ rfl _ fun _ => sendReply_assembled _ _

/-- `SIA` and `SIB` are put together from those parts. -/
theorem talkSia_assembled (a : CLN) : Assembled renews (talkSia a) := by
  refine defined_assembled fun userPassword => ?_
  refine (signIn_assembled _).seq fun result => ?_
  split
  · refine .call _ rfl _ fun _ => (refreshKeyId_assembled _).seq fun _ => ?_
    exact .call _ rfl _ fun _ => sendReply_assembled _ _
  · exact sendReply_assembled _ _

/-- `REA` is put together from those parts. -/
theorem talkRea_assembled (config : Config) (a : CLN) : Assembled renews (talkRea config a) := by
  have registers : Assembled renews (talkRegister a) :=
    defined_assembled fun _ =>
      (register_assembled _ _).seq fun _ => sendReply_assembled _ _
  refine Assembled.reload.seq fun _ => ?_
  split
  · exact registers
  · exact andThen_assembled (sendReply_assembled _ _) registers

/-- Both stores of `SCE` are put together from those parts. -/
theorem storeScene_assembled (a : CLN) (first second third timeStamp exeDate : Bytes) :
    Assembled renews (storeScene a first second third timeStamp exeDate) := by
  have trigger (cmd : Bytes) :
      Assembled renews (storeTrigger a first second cmd timeStamp exeDate) := by
    unfold storeTrigger
    split
    · refine (userDeleteSce_assembled _).seq fun _ => .call _ rfl _ fun found => ?_
      cases found with
      | none => exact faulty_assembled
      | some device =>
        exact (newUserSceneCmdStore_assembled _ _ _ _ _ _ _ _).seq fun _ => .ret _
    · exact .ret _
  refine .call _ rfl _ fun found => ?_
  cases found with
  | none => exact faulty_assembled
  | some device =>
    refine (trigger _).seq fun _ => ?_
    exact (newUserSceneCmdStore_assembled _ _ _ _ _ _ _ _).seq fun _ => .ret _

/-- `SCE` is put together from those parts. -/
theorem talkSce_assembled (a : CLN) : Assembled renews (talkSce a) := by
  unfold talkSce
  split
  · unfold talkSceneScheduled
    simp only [source_print]
    split
    · exact .ret _
    · split
      all_goals exact (storeScene_assembled _ _ _ _ _ _).seq fun _ => .ret _
  · unfold talkSceneDaily
    dsimp only
    split
    · exact .ret _
    · refine (storeScene_assembled _ _ _ _ _ _).seq fun _ => ?_
      split
      · exact faulty_assembled
      · exact .ret _

/-- `IOT` is put together from those parts. -/
theorem talkIot_assembled (a : CLN) : Assembled renews (talkIot a) := by
  refine (Assembled.call _ rfl _ fun found => ?_).seq fun _ => .ret _
  cases found with
  | none => exact faulty_assembled
  | some device => exact .reading _ _ fun _ => sendRow_assembled _ _

/-- A message is put together from those parts. -/
theorem talkMessage_assembled (a : CLN) (code : String) :
    Assembled renews (talkMessage a code) := by
  refine .call _ rfl _ fun found => ?_
  cases found with
  | none => exact (finish_assembled a).seq fun _ => .ret _
  | some user =>
    exact (newUserMsgStorage_assembled a _).seq fun _ => sendReply_assembled _ _

/-- `ADS` is put together from those parts. -/
theorem talkAds_assembled (a : CLN) : Assembled renews (talkAds a) := by
  refine .call _ rfl _ fun found => ?_
  cases found with
  | none => exact faulty_assembled
  | some friend =>
    refine (newUserFriend_assembled _ _ (.ret _)).seq fun stored => ?_
    split
    · exact sendReply_assembled _ _
    · refine .call _ rfl _ fun found => ?_
      cases found with
      | none => exact faulty_assembled
      | some own =>
        refine .call _ rfl _ fun id => ?_
        exact (newUserFriend_assembled _ _ (perform_assembled _ rfl)).seq fun stored =>
          sendReply_assembled _ _

/-- `ICM` is put together from those parts. -/
theorem talkIcm_assembled (a : CLN) : Assembled renews (talkIcm a) := by
  unfold talkIcm
  split
  · refine .call _ rfl _ fun found => ?_
    cases found with
    | none =>
      refine .call _ rfl _ fun found => ?_
      cases found with
      | none => exact .ret _
      | some registered =>
        exact .call _ rfl _ fun _ => .call _ rfl _ fun _ => .call _ rfl _ fun _ =>
          .call _ rfl _ fun _ => .call _ rfl _ fun _ => .ret _
    | some device =>
      refine .call _ rfl _ fun pin => .call _ rfl _ fun seqNum => .call _ rfl _ fun len => ?_
      dsimp only [Prog.bind]
      split
      · exact .call _ rfl _ fun _ => .ret _
      · exact .ret _
  · exact .ret _

/-- The scene that `DSC` replaces is put together from those parts. -/
theorem replaceScene_assembled (a : CLN) (iotid devclass : Int) (timeStamp exeDate : Bytes) :
    Assembled renews (replaceScene a iotid devclass timeStamp exeDate) := by
  refine (userDeleteSce_assembled iotid).seq fun deleted => ?_
  split
  · exact .ret _
  · exact (newUserSceneCmdStore_assembled _ _ _ _ _ _ _ _).seq fun _ => .ret _

/-- `DSC` is put together from those parts. -/
theorem talkDsc_assembled (a : CLN) : Assembled renews (talkDsc a) := by
  unfold talkDsc
  split
  · unfold talkDscScheduled
    dsimp only
    split
    · exact .ret _
    · refine .call _ rfl _ fun found => ?_
      cases found with
      | none => exact .ret _
      | some device =>
        split
        · exact (replaceScene_assembled _ _ _ _ _).seq fun _ => sendReply_assembled _ _
        · refine (userDeleteSce_assembled _).seq fun deleted => ?_
          split
          · exact sendReply_assembled _ _
          · exact faulty_assembled
  · unfold talkDscDaily
    dsimp only
    split
    · exact .ret _
    · refine .call _ rfl _ fun found => ?_
      cases found with
      | none => exact .ret _
      | some device =>
        exact (replaceScene_assembled _ _ _ _ _).seq fun _ => sendReply_assembled _ _

/-- `RCO` is put together from those parts. -/
theorem talkRco_assembled (a : CLN) : Assembled renews (talkRco a) := by
  have friends : Assembled renews (userReqFriendRel a) := by
    refine .reading _ _ fun row => .call _ rfl _ fun found => ?_
    cases found with
    | none => exact .ret _
    | some friend => exact sendRow_assembled _ _
  have devices : Assembled renews (userReqIotRel a) := by
    refine .reading _ _ fun row => .call _ rfl _ fun found => ?_
    cases found with
    | none => exact .ret _
    | some device => exact sendRow_assembled _ _
  exact friends.seq fun _ => devices.seq fun _ => .ret _

/-- `RPA` is put together from those parts. -/
theorem talkRpa_assembled (asks : a.requestClass = .user .rpa) :
    Assembled a.renewal (talkRpa a) := by
  refine Assembled.reload.seq fun _ => ?_
  rw [source_decode]
  cases decoded : decodeOver a.passwordKey a.reUserPassword a.data 32 with
  | none => exact faulty_assembled
  | some reUserPassword =>
    have renewal : Assembled a.renewal (userRePwd { a with
        reUserPassword := decryptOver reUserPassword 32 a.pin
        userPassword := decryptOver a.userPassword 32 a.pin }) :=
      .rePwd _ ⟨asks, reUserPassword, decoded, rfl⟩
    exact renewal.seq fun _ => sendReply_assembled _ _

/-- Every case of the switch is put together from those parts. -/
theorem talkCase_assembled (config : Config) (a : CLN) (opcode : Opcode)
    (asks : a.requestClass = .user opcode) : Assembled a.renewal (talkCase config a opcode) := by
  cases opcode with
  | hba => exact andThen_assembled (sendReply_assembled _ _) (talkRsa_assembled a)
  | rsa => exact talkRsa_assembled a
  | pin => exact talkPin_assembled a
  | sib | sia => exact talkSia_assembled a
  | rea => exact talkRea_assembled config a
  | rme => exact .ret _
  | sce => exact talkSce_assembled a
  | iot => exact talkIot_assembled a
  | taa => exact talkMessage_assembled a _
  | sto =>
    exact andThen_assembled (sendReply_assembled _ _) (.call _ rfl _ fun _ => .ret _)
  | upd => exact .call _ rfl _ fun _ => .ret _
  | add => exact Assembled.reload.seq fun _ => talkMessage_assembled a _
  | ads => exact talkAds_assembled a
  | icm => exact talkIcm_assembled a
  | dsc => exact talkDsc_assembled a
  | ioc => exact (newUserIot_assembled _ _ _).seq fun _ => sendReply_assembled _ _
  | rco => exact talkRco_assembled a
  | rpa => exact talkRpa_assembled asks
  | unknown => exact sendReply_assembled _ _

/-- Every request is put together from the parts, and only a change of a password changes one. -/
theorem talk_assembled (config : Config) (a : CLN) : Assembled a.renewal (talk config a) := by
  cases asks : a.requestClass with
  | test =>
    rw [talk, asks]
    exact .call _ rfl _ fun _ => finish_assembled a
  | device =>
    rw [talk_device asks]
    exact (iotTalk_assembled a).seq fun _ => finish_assembled a
  | user opcode =>
    rw [talk_user asks]
    refine (talkCase_assembled config a opcode asks).seq fun flow => ?_
    cases flow with
    | left => exact finish_assembled a
    | returned => exact .ret _

end UubangIot
