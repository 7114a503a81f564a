import UubangIot.Verif.SignInTrail

/-!
# What every operation of a request rests on

A request works on its own connection and under its own key id. What it does to another connection
rests on what it has found before: the node of a device it has a command for, or the node of whoever
is online under the name it signs in with, once name and password were found together. `warrants`
says so of one operation and the events before it.
-/

namespace UubangIot

open Effect Effect.Prog

/-! ## Statement -/

/-- A search of the request has found somebody online. -/
def FoundOnline (past : List Happening) (kind : Kind) (lookup : Lookup) (node : User) : Prop :=
  ⟨.findOnline kind lookup, (some node : Option User)⟩ ∈ past

/-- The request has given a registered name and its password. -/
def Proved (past : List Happening) (userId : Bytes) : Prop :=
  ∃ userPassword, ∃ check : Int, ⟨.checkIdPwd 0 userId userPassword, check⟩ ∈ past ∧ check ≠ -1

/-- The request has found a device for a command. -/
def Commands (past : List Happening) (node : User) : Prop :=
  ∃ lookup, FoundOnline past .iot lookup node

/-- The request signs in under the name of somebody online. -/
def Displaces (past : List Happening) (kind : Kind) (userId : Bytes) (node : User) : Prop :=
  Proved past userId ∧ FoundOnline past kind (.name userId) node

/-- The key id that a statement stores or reads for. -/
def Statement.author : Statement → Option Int
  | .insertEvent iotId _ _ _ | .updateEvent _ _ iotId _ => some iotId
  | .insertScene _ _ _ _ _ _ _ fromUserId => some fromUserId
  | .insertFriend userId _ | .selectFriends userId => some userId
  | .insertUserIot userId _ | .selectUserIots userId => some userId
  | .insertMessage _ userId _ _ => some userId
  | .updateTimestamp _ userId _ => some userId
  | .updatePassword _ id => some id
  | .insertCommand _ _ _ _ fromid _ => some fromid
  | .selectCommands iotid _ | .deleteCommands iotid _ | .selectScenes iotid => some iotid
  | _ => none

/-- A statement is for the key id of its request, or for one that was never written. -/
def CLN.signs (a : CLN) (past : List Happening) (statement : Statement) : Prop :=
  ∀ id, statement.author = some id → id = a.userKeyId ∨ ⟨.uninitialisedInt, id⟩ ∈ past

/-- What an operation of a request rests on. -/
def CLN.warrants (a : CLN) (past : List Happening) : Op → Prop
  | .decrementTasks conn | .setConnKey conn _ | .setConnPin conn _ _ | .setConnUserId conn _
  | .setConnUserKeyId conn _ | .setConnSignedIn conn | .connSignedIn conn => conn = a.conn
  | .nextSeqNum conn => conn = a.conn ∨ ∃ node, Commands past node ∧ conn = node.connHandle
  | .connPin conn => ∃ node, Commands past node ∧ conn = node.connHandle
  | .newOnlineUserOrIotDev b => b.conn = a.conn ∧ b.socket = a.socket
  | .deleteOutUser userId socket => socket = a.socket ∨
      ∃ kind node, Displaces past kind userId node ∧ socket = node.userSocket
  | .send socket frame => socket = a.socket ∨
      (∃ userId node, Displaces past .user userId node ∧ socket = node.userSocket ∧
        frame = reply "STO") ∨
      ∃ node, Commands past node ∧ socket = node.userSocket ∧
        ∃ seqNum payLoad, frame = .iot ⟨text "00", seqNum, payLoad⟩
  | .closeSocket socket => socket = a.socket ∨
      ∃ node, Commands past node ∧ socket = node.userSocket
  | .setRegisterPassword userId _ => Proved past userId
  | .realQuery _ (.updatePassword _ id) => id = a.userKeyId ∧ ∃ userId, Proved past userId
  | .realQuery _ statement => a.signs past statement
  | _ => True

/-! ## Operations that rest on nothing found -/

/-- An operation that is warranted whatever has happened. -/
def CLN.free (a : CLN) (op : Op) : Prop := ∀ past, a.warrants past op

/-- A program of such operations. -/
abbrev Free {α : Type} (a : CLN) (handler : Handler α) : Prop := handler.Only a.free

variable {α β : Type} {a b : CLN} {past : List Happening}

/-- They are warranted after any events. -/
theorem Free.founded {handler : Handler α} (free : Free a handler) :
    handler.Founded a.warrants past := Only.founded free fun _ past allowed => allowed past

/-- A statement that names nobody needs no signature. -/
theorem signs_of_none {statement : Statement} (none : statement.author = none) :
    a.signs past statement := by
  intro id author
  rw [none] at author
  cases author

/-- A statement for the key id of the request. -/
theorem signs_of_own {statement : Statement} (own : statement.author = some a.userKeyId) :
    a.signs past statement := by
  intro id author
  rw [own] at author
  exact .inl (Option.some.inj author).symm

/-- The operations of a reload need no warrant. -/
theorem free_of_reloading {op : Op} (reloads : op.reloading = true) : a.free op := by
  intro past
  cases op with
  | realQuery node statement =>
    cases statement <;> first | exact signs_of_none rfl | cases reloads
  | _ => trivial

/-- An undefined access needs no warrant. -/
theorem faulty_free : Free a (faulty : Handler α) :=
  ⟨fun _ => trivial, fun response => response.elim⟩

/-- Arithmetic that may be undefined does only what it has a warrant for. -/
theorem defined_warranted {value : Option α} {next : α → Handler β}
    (later : ∀ found, (next found).Founded a.warrants past) :
    (defined value next).Founded a.warrants past := by
  cases value with
  | none => exact faulty_free.founded
  | some found => exact later found

/-- `UpdateLocalRegUserAndIotlist` needs no warrant. -/
theorem reload_free : Free a updateLocalRegUserAndIotlist :=
  updateLocalRegUserAndIotlist_reloading.mono fun _ => free_of_reloading

/-- The end of a task needs no warrant. -/
theorem finish_free (own : b.conn = a.conn) : Free a (finish b) :=
  ⟨fun _ => own, fun _ => ⟨fun _ => trivial, fun _ => trivial⟩⟩

/-- A reply goes to the request's own socket. -/
theorem sendReply_free (own : b.conn = a.conn) (line : b.socket = a.socket) (frame : Frame) :
    Free a (sendReply b frame) := by
  refine ⟨fun _ => .inl line, fun len => ?_⟩
  dsimp only [Prog.bind]
  split
  · exact ⟨fun _ => .inl line, fun _ => (finish_free own).bind fun _ => trivial⟩
  · trivial

/-- A row that is sent needs no warrant. -/
theorem sendRow_free (line : b.socket = a.socket) (frame : Frame) : Free a (sendRow b frame) :=
  sendRow_only b (fun _ => .inl line) fun _ => .inl line

/-- A numbered frame of the request. -/
theorem sendIotRow_free (own : b.conn = a.conn) (line : b.socket = a.socket)
    (opCode payLoad : Bytes) : Free a (iotFrame b opCode payLoad >>= sendRow b) :=
  ⟨fun _ => .inl own, fun _ => sendRow_free line _⟩

/-- A reply to a device needs no warrant. -/
theorem sendOpBack_free (own : b.conn = a.conn) (line : b.socket = a.socket) (opCode : String)
    (payLoad : Bytes) : Free a (sendOpBack b opCode payLoad) :=
  (sendIotRow_free own line (text opCode) payLoad).bind fun _ => trivial

/-! ## Statements on a node -/

/-- A statement that stores needs no warrant. -/
theorem storing_free {statement : Statement} (onNull onError : Int) {after : Handler Unit}
    (query : ∀ node, a.free (.realQuery node statement)) (follows : Free a after) :
    Free a (storing statement onNull onError after) :=
  storing_only onNull onError (fun _ => trivial) query (fun _ _ => trivial) follows

/-- A statement that reads needs no warrant. -/
theorem reading_free {statement : Statement} {each : Row → Handler Bool}
    (query : ∀ node, a.free (.realQuery node statement)) (row : ∀ row, Free a (each row)) :
    Free a (reading statement each) :=
  reading_only (fun _ => trivial) query (fun _ _ => trivial) (fun _ => trivial)
    (fun _ _ => trivial) row

/-- `UpdateSqlInfoTimestamp` needs no warrant. -/
theorem touching_free (index : Int) : Free a (touching a.userKeyId index) := by
  refine (storing_free _ _ (fun node => ?_) (only_ret ())).bind fun _ => trivial
  exact fun past => signs_of_own rfl

/-- `UserDeleteSce` needs no warrant. -/
theorem userDeleteSce_free (iotid : Int) : Free a (userDeleteSce iotid) :=
  storing_free _ _ (fun _ _ => signs_of_none rfl) (only_ret ())

/-- `NewUserSceneCmdStore` needs no warrant. -/
theorem newUserSceneCmdStore_free (talktoId cmd : Bytes) (status devclass cmdGroup : Int)
    (timeStamp exeDate : Bytes) : Free a (newUserSceneCmdStore talktoId a.userKeyId cmd status
      devclass cmdGroup timeStamp exeDate) := by
  refine ⟨fun _ => trivial, fun found => ?_⟩
  cases found with
  | none => trivial
  | some node => exact storing_free _ _ (fun _ _ => signs_of_own rfl) (only_ret ())

/-- `NewUserIot` needs no warrant. -/
theorem newUserIot_free (talktoId : Bytes) (iotId : Int) :
    Free a (newUserIot talktoId a.userKeyId iotId) := by
  have stores (id : Int) : Free a
      (storing (.insertUserIot a.userKeyId id) 0 0 (touching a.userKeyId 2)) :=
    storing_free _ _ (fun _ _ => signs_of_own rfl) (touching_free 2)
  unfold newUserIot
  split
  · refine ⟨fun _ => trivial, fun found => ?_⟩
    cases found with
    | none => trivial
    | some node => exact stores node.userKeyId
  · exact stores iotId

/-- `NewUserMsgStorage` needs no warrant. -/
theorem newUserMsgStorage_free (toId : Int) : Free a (newUserMsgStorage a toId) :=
  ⟨fun _ => trivial, fun _ => storing_free _ _ (fun _ _ => signs_of_own rfl) (touching_free 3)⟩

/-- A row is inserted for the registered id, and the lists are reloaded. -/
theorem registerRow_free (method : Int) : Free a (registerRow b method) := by
  unfold registerRow
  split
  · refine ⟨fun _ => trivial, fun node => ?_⟩
    cases node with
    | none => trivial
    | some node =>
      refine ⟨fun _ => signs_of_none rfl, fun result => ?_⟩
      cases result with
      | done => exact ⟨fun _ => trivial, fun _ => trivial⟩
      | failed duplicate => cases duplicate <;> exact ⟨fun _ => trivial, fun _ => trivial⟩
  · refine ⟨fun _ => trivial, fun node => ?_⟩
    cases node with
    | none => trivial
    | some node =>
      refine ⟨fun _ => signs_of_none rfl, fun result => ?_⟩
      cases result with
      | failed duplicate => exact ⟨fun _ => trivial, fun _ => trivial⟩
      | done =>
        refine ⟨fun _ => signs_of_none rfl, fun result => ?_⟩
        cases result with
        | failed duplicate => exact ⟨fun _ => trivial, fun _ => trivial⟩
        | done => trivial

/-- `Register` needs no warrant. -/
theorem register_free (method : Int) : Free a (register b method) := by
  rw [register_eq]
  refine ⟨fun _ => trivial, fun known => ?_⟩
  dsimp only
  split
  · trivial
  · refine (registerRow_free method).bind fun inserted => ?_
    split
    · trivial
    · exact reload_free.bind fun _ => trivial

/-! ## Device requests -/

/-- Opcode 1 needs no warrant. -/
theorem iotRsa_free : Free a (iotRsa a) := by
  refine ⟨fun _ => trivial, fun _ => ⟨fun _ => trivial, fun key => ⟨fun _ => rfl, fun _ => ?_⟩⟩⟩
  exact sendOpBack_free rfl rfl _ _

/-- Opcode 2 needs no warrant. -/
theorem iotPin_free : Free a (iotPin a) := by
  unfold iotPin
  split
  · trivial
  · refine ⟨fun _ => trivial, fun pin => ⟨fun _ => rfl, fun _ => ?_⟩⟩
    exact defined_only (fun _ => trivial) fun payLoad _ => sendOpBack_free rfl rfl _ _

/-- Opcode 4 needs no warrant. -/
theorem iotUpdate_free : Free a (iotUpdate a) := by
  have update (data : Bytes) (evtClass status : Int) :
      Free a (iotUpdateStatus { a.decrypted with data } evtClass status) :=
    iotUpdateStatus_only _ _ _ (fun _ => trivial) (fun _ _ => trivial)
      (fun _ _ => signs_of_own rfl) (fun _ _ => signs_of_own rfl) fun _ _ => trivial
  unfold iotUpdate
  dsimp only
  split
  · trivial
  · refine iotUpdateLoop_only a.decrypted _ update fun _ _ => sendOpBack_free rfl rfl _ _

/-- Opcode 5 needs no warrant. -/
theorem iotRead_free : Free a (iotRead a) := by
  have read (data : Bytes) (devclass : Int) (del : Bool) :
      Free a (iotReadCmd { a with data } devclass del) :=
    iotReadCmd_only _ _ _ (fun _ => trivial) (fun _ _ => trivial) (fun _ _ => signs_of_own rfl)
      (fun _ _ => signs_of_own rfl) (fun _ _ => trivial) fun _ => trivial
  exact iotRead_only a read fun _ _ _ _ => sendOpBack_free rfl rfl _ _

/-- `IotReadSelfSceneCmd` needs no warrant. -/
theorem iotReadSelfSceneCmd_free : Free a (iotReadSelfSceneCmd a a.userKeyId) :=
  reading_free (fun _ _ => signs_of_own rfl) fun _ => sendIotRow_free rfl rfl _ _

/-- The fields of opcode 7 need no warrant. -/
theorem iotReadLoop_free (fields : List Bytes) : Free a (iotReadLoop a fields) :=
  iotReadLoop_only a fields fun _ =>
    reading_free (fun _ _ => signs_of_none rfl) fun _ => sendIotRow_free rfl rfl _ _

/-- `NewIotCmdToBeExecute` needs no warrant. -/
theorem newIotCmdToBeExecute_free (key : b.userKeyId = a.userKeyId) (cmd : Bytes)
    (devclass status : Int) (timeToBeExe : Bytes) :
    Free a (newIotCmdToBeExecute b cmd devclass status timeToBeExe) := by
  refine ⟨fun _ => trivial, fun found => ?_⟩
  cases found with
  | none => exact faulty_free
  | some node =>
    refine storing_free _ _ (fun _ _ => signs_of_own ?_) (only_ret ())
    rw [← key]
    rfl

/-- Opcode 9 needs no warrant. -/
theorem iotStore_free : Free a (iotStore a) := by
  unfold iotStore
  split
  · refine ⟨fun _ => trivial, fun found => ?_⟩
    cases found with
    | none => exact sendOpBack_free rfl rfl _ _
    | some device =>
      have stores (cmd : Bytes) (devclass status : Int) := newIotCmdToBeExecute_free (a := a)
        (b := { a.decrypted with talktoId := strcpy a.talktoId device.userId }) rfl cmd devclass
        status (text "00:00:00")
      exact (stores _ _ _).bind fun _ => sendOpBack_free rfl rfl _ _
  · trivial

/-- A device that was found stays found. -/
theorem Commands.append {node : User} (commands : Commands past node) (trace : List Happening) :
    Commands (past ++ trace) node := by
  obtain ⟨lookup, found⟩ := commands
  exact ⟨lookup, List.mem_append_left trace found⟩

/-- A search that finds a device. -/
theorem commands_of_found (past : List Happening) (lookup : Lookup) (node : User) :
    Commands (past ++ [⟨.findOnline .iot lookup, (some node : Option User)⟩]) node :=
  ⟨lookup, List.mem_append_right past List.mem_cons_self⟩

/-- A command is sent to the device that was found. -/
theorem sendOpBack_warranted {node : User} (own : b.conn = a.conn)
    (line : b.socket = node.userSocket) (commands : Commands past node) (payLoad : Bytes) :
    (sendOpBack b "00" payLoad).Founded a.warrants past := by
  refine ⟨.inl own, fun seqNum => ?_⟩
  refine ⟨.inr (.inr ⟨node, commands.append _, line, seqNum, payLoad, rfl⟩), fun len => ?_⟩
  dsimp only [Prog.bind]
  split
  · exact ⟨.inr ⟨node, (commands.append _).append _, line⟩, fun _ => trivial⟩
  · trivial

/-- Opcode 8 sends to the device it has found. -/
theorem iotSend_warranted : (iotSend a).Founded a.warrants past := by
  unfold iotSend
  split
  · refine ⟨trivial, fun online => ?_⟩
    cases online with
    | none =>
      refine ⟨trivial, fun found => ?_⟩
      cases found with
      | none => exact faulty_free.founded
      | some registered => exact ⟨trivial, fun _ => trivial⟩
    | some node =>
      refine ⟨⟨node, commands_of_found past _ node, rfl⟩, fun pin => ?_⟩
      exact sendOpBack_warranted (by rfl) (by rfl) ((commands_of_found past _ node).append _) _
  · trivial

/-! ## Signing in -/

/-- The key id of the connection is that of a registered user. -/
theorem refreshKeyId_free (own : b.conn = a.conn) : Free a (refreshKeyId b) := by
  refine ⟨fun _ => trivial, fun found => ?_⟩
  cases found with
  | none => trivial
  | some first =>
    refine ⟨fun _ => trivial, fun found => ?_⟩
    cases found with
    | none => exact faulty_free
    | some registered => exact ⟨fun _ => own, fun _ => trivial⟩

/-- Whoever is online under the name stays found. -/
theorem Displaces.append {kind : Kind} {userId : Bytes} {node : User}
    (displaces : Displaces past kind userId node) (trace : List Happening) :
    Displaces (past ++ trace) kind userId node := by
  obtain ⟨⟨userPassword, check, member, right⟩, found⟩ := displaces
  exact ⟨⟨userPassword, check, List.mem_append_left trace member, right⟩,
    List.mem_append_left trace found⟩

/-- A sign-in after its check and its search: whoever is online under the name gives way. -/
theorem signInFound_warranted (own : b.conn = a.conn) (line : b.socket = a.socket) {kind : Kind}
    {checkuser : Option User} (proved : Proved past b.userId)
    (found : ∀ node, checkuser = some node → FoundOnline past kind (.name b.userId) node) :
    (signInFound b kind checkuser).Founded a.warrants past := by
  cases checkuser with
  | none =>
    refine ⟨trivial, fun registered => ?_⟩
    cases registered with
    | none => trivial
    | some registered => exact ⟨own, fun _ => ⟨⟨own, line⟩, fun _ => trivial⟩⟩
  | some node =>
    have displaces : Displaces past kind b.userId node := ⟨proved, found node rfl⟩
    cases kind with
    | user =>
      refine ⟨.inr ⟨.user, node, displaces, rfl⟩, fun _ => ?_⟩
      refine ⟨.inr (.inl ⟨b.userId, node, displaces.append _, rfl, rfl⟩), fun _ => ?_⟩
      exact ⟨⟨own, line⟩, fun _ => trivial⟩
    | iot =>
      refine ⟨trivial, fun registered => ?_⟩
      cases registered with
      | none =>
        exact ⟨.inr ⟨.iot, node, displaces.append _, rfl⟩, fun _ => ⟨⟨own, line⟩, fun _ => trivial⟩⟩
      | some registered =>
        refine ⟨own, fun _ => ⟨.inr ⟨.iot, node, (displaces.append _).append _, rfl⟩, fun _ => ?_⟩⟩
        exact ⟨⟨own, line⟩, fun _ => trivial⟩

/-- `SIGNIN` does only what it has a warrant for. -/
theorem signIn_warranted (own : b.conn = a.conn) (line : b.socket = a.socket) :
    (signIn b).Founded a.warrants past := by
  rw [signIn, signInAs_eq]
  refine ⟨trivial, fun check => ⟨trivial, fun checkuser => ?_⟩⟩
  dsimp only
  split
  · trivial
  · rename_i right
    refine signInFound_warranted own line ⟨b.userPassword, check, ?_, right⟩ fun node same => ?_
    · exact List.mem_append_left _ (List.mem_append_right _ List.mem_cons_self)
    · rw [same]
      exact List.mem_append_right _ List.mem_cons_self

/-- Opcode 3 does only what it has a warrant for. -/
theorem iotRegSign_warranted : (iotRegSign a).Founded a.warrants past := by
  have answer (past : List Happening) (b : CLN) (own : b.conn = a.conn) (line : b.socket = a.socket)
      (opCode : String) : (sendOpBack b opCode []).Founded a.warrants past :=
    (sendOpBack_free own line _ _).founded
  refine ⟨rfl, fun signedIn => ?_⟩
  dsimp only [Prog.bind]
  split
  · split
    · refine defined_warranted fun userPassword => ?_
      refine (register_free 1).founded.bind fun _ _ _ => ?_
      refine (signIn_warranted (by rfl) (by rfl)).bind fun _ result _ => ?_
      split
      · refine ⟨rfl, fun _ => ⟨rfl, fun _ => ?_⟩⟩
        exact (refreshKeyId_free (by rfl)).founded.bind fun _ _ _ => answer _ _ rfl rfl _
      · exact answer _ _ rfl rfl _
    · trivial
  · exact answer _ _ rfl rfl _

/-- `IoTtalk` does only what it has a warrant for. -/
theorem iotTalk_warranted : (iotTalk a).Founded a.warrants past := by
  have signedIn {handler : Handler Unit} (founded : handler.Founded a.warrants past) :
      (a.whenSignedIn handler).Founded a.warrants past := by
    unfold CLN.whenSignedIn
    split
    · exact founded
    · trivial
  unfold iotTalk
  split
  · exact iotRsa_free.founded
  · exact iotPin_free.founded
  · exact iotRegSign_warranted
  · exact signedIn iotUpdate_free.founded
  · exact signedIn iotRead_free.founded
  · exact signedIn (Free.founded (iotReadSelfSceneCmd_free.bind fun _ => trivial))
  · exact signedIn (iotReadLoop_free _).founded
  · exact signedIn iotSend_warranted
  · exact signedIn iotStore_free.founded
  · trivial

/-! ## User requests -/

/-- A reply and what follows it. -/
theorem andThen_warranted {frame : Frame} {next : Handler Flow} (own : b.conn = a.conn)
    (line : b.socket = a.socket)
    (later : ∀ trace, next.Founded a.warrants (past ++ trace)) :
    (Flow.andThen (sendReply b frame) next).Founded a.warrants past := by
  refine (sendReply_free own line frame).founded.bind fun trace flow _ => ?_
  cases flow with
  | returned => trivial
  | left => exact later trace

/-- `RSA` needs no warrant. -/
theorem talkRsa_free : Free a (talkRsa a) :=
  ⟨fun _ => trivial, fun _ => ⟨fun _ => trivial, fun _ => ⟨fun _ => rfl, fun _ =>
    sendReply_free rfl rfl _⟩⟩⟩

/-- `PIN` needs no warrant. -/
theorem talkPin_free : Free a (talkPin a) := by
  unfold talkPin
  split
  · trivial
  · refine ⟨fun _ => trivial, fun pin => ⟨fun _ => rfl, fun _ => ?_⟩⟩
    dsimp only [Prog.bind]
    split
    · exact defined_only (fun _ => trivial) fun _ _ =>
        ⟨fun _ => trivial, fun response => response.elim⟩
    · exact ⟨fun _ => trivial, fun _ => sendReply_free rfl rfl _⟩

/-- `SIA` and `SIB` do only what they have a warrant for. -/
theorem talkSia_warranted : (talkSia a).Founded a.warrants past := by
  refine defined_warranted fun userPassword => ?_
  refine (signIn_warranted (by rfl) (by rfl)).bind fun _ result _ => ?_
  split
  · refine ⟨rfl, fun _ => ?_⟩
    refine (refreshKeyId_free (by rfl)).founded.bind fun _ _ _ => ⟨rfl, fun _ => ?_⟩
    exact (sendReply_free rfl rfl _).founded
  · exact (sendReply_free rfl rfl _).founded

/-- `REA` after the PIN was compared needs no warrant. -/
theorem talkRegister_free : Free a (talkRegister a) :=
  defined_only (fun _ => trivial) fun _ _ =>
    (register_free 0).bind fun _ => sendReply_free rfl rfl _

/-- `REA` does only what it has a warrant for. -/
theorem talkRea_warranted (config : Config) : (talkRea config a).Founded a.warrants past := by
  refine reload_free.founded.bind fun _ _ _ => ?_
  split
  · exact talkRegister_free.founded
  · exact andThen_warranted rfl rfl fun _ => talkRegister_free.founded

/-- The stored scene of the device that starts one needs no warrant. -/
theorem storeTrigger_free (key : b.userKeyId = a.userKeyId)
    (first second cmd timeStamp exeDate : Bytes) :
    Free a (storeTrigger b first second cmd timeStamp exeDate) := by
  unfold storeTrigger
  split
  · refine (userDeleteSce_free _).bind fun _ => ⟨fun _ => trivial, fun found => ?_⟩
    cases found with
    | none => exact faulty_free
    | some device =>
      have stores := newUserSceneCmdStore_free (a := a) device.userId cmd 0 (atoi second) 0
        timeStamp exeDate
      rw [← key] at stores
      exact stores.bind fun _ => trivial
  · trivial

/-- Both stores of `SCE` need no warrant. -/
theorem storeScene_free (key : b.userKeyId = a.userKeyId)
    (first second third timeStamp exeDate : Bytes) :
    Free a (storeScene b first second third timeStamp exeDate) := by
  refine ⟨fun _ => trivial, fun found => ?_⟩
  cases found with
  | none => exact faulty_free
  | some device =>
    have stores := newUserSceneCmdStore_free (a := a) b.talktoId b.data 0 99 0 timeStamp exeDate
    rw [← key] at stores
    exact (storeTrigger_free key _ _ _ _ _).bind fun _ => stores.bind fun _ => trivial

/-- `SCE` needs no warrant. -/
theorem talkSce_free : Free a (talkSce a) := by
  unfold talkSce
  split
  · unfold talkSceneScheduled
    simp only [source_print]
    split
    · trivial
    · split
      all_goals
        refine (storeScene_free (by rfl) _ _ _ _ _).bind fun _ => ?_
        trivial
  · unfold talkSceneDaily
    dsimp only
    split
    · trivial
    · refine (storeScene_free (by rfl) _ _ _ _ _).bind fun _ => ?_
      split
      · exact faulty_free
      · trivial

/-- `IOT` needs no warrant. -/
theorem talkIot_free : Free a (talkIot a) := by
  refine Only.bind ⟨fun _ => trivial, fun found => ?_⟩ fun _ => trivial
  cases found with
  | none => exact faulty_free
  | some device => exact reading_free (fun _ _ => signs_of_none rfl) fun _ => sendRow_free rfl _

/-- A message needs no warrant. -/
theorem talkMessage_free (code : String) : Free a (talkMessage a code) := by
  refine ⟨fun _ => trivial, fun found => ?_⟩
  cases found with
  | none => exact (finish_free rfl).bind fun _ => trivial
  | some user => exact (newUserMsgStorage_free _).bind fun _ => sendReply_free rfl rfl _

/-- `STO` does only what it has a warrant for. -/
theorem talkSto_warranted : (talkSto a).Founded a.warrants past :=
  andThen_warranted rfl rfl fun _ => ⟨.inl rfl, fun _ => trivial⟩

/-- A statement on a node, and what follows it, after more events. -/
theorem storing_warranted {statement : Statement} {onNull onError : Int} {after : Handler Unit}
    (query : ∀ node trace, a.warrants (past ++ trace) (.realQuery node statement))
    (follows : ∀ trace, after.Founded a.warrants (past ++ trace)) :
    (storing statement onNull onError after).Founded a.warrants past := by
  refine ⟨trivial, fun node => ?_⟩
  cases node with
  | none => trivial
  | some node =>
    refine ⟨query node _, fun result => ?_⟩
    cases result with
    | failed duplicate => exact ⟨trivial, fun _ => trivial⟩
    | done =>
      have later := follows ([⟨.getDbConnect, some node⟩] ++
        [⟨.realQuery node statement, QueryResult.done⟩])
      rw [← List.append_assoc] at later
      exact later.bind fun _ _ _ => ⟨trivial, fun _ => trivial⟩

/-- A friend is stored for a key id that is the request's own, or was never written. -/
theorem newUserFriend_warranted {userKeyId friendId : Int} {talktoId : Handler Bytes}
    (own : userKeyId = a.userKeyId ∨ ⟨.uninitialisedInt, userKeyId⟩ ∈ past)
    (target : Free a talktoId) :
    (newUserFriend userKeyId talktoId friendId).Founded a.warrants past := by
  have signs (statement : Statement) (author : statement.author = some userKeyId)
      (trace : List Happening) : a.signs (past ++ trace) statement := by
    intro id same
    rw [author] at same
    rw [← Option.some.inj same]
    exact own.imp_right fun drawn => List.mem_append_left trace drawn
  have stores (trace : List Happening) (id : Int) :
      (storing (.insertFriend userKeyId id) 0 0 (touching userKeyId 1)).Founded a.warrants
        (past ++ trace) := by
    refine storing_warranted (fun _ more => ?_) fun more => ?_
    · rw [List.append_assoc]
      exact signs _ rfl _
    · refine Founded.bind (storing_warranted (fun _ other => ?_) fun _ => ?_) fun _ _ _ => trivial
      · rw [List.append_assoc, List.append_assoc]
        exact signs _ rfl _
      · trivial
  unfold newUserFriend
  split
  · refine target.founded.bind fun trace name _ => ⟨trivial, fun found => ?_⟩
    cases found with
    | none => trivial
    | some node =>
      rw [List.append_assoc]
      exact stores _ _
  · have whole := stores [] friendId
    rwa [List.append_nil] at whole

/-- `ADS` does only what it has a warrant for. -/
theorem talkAds_warranted : (talkAds a).Founded a.warrants past := by
  refine ⟨trivial, fun found => ?_⟩
  cases found with
  | none => exact faulty_free.founded
  | some friend =>
    refine (newUserFriend_warranted (.inl rfl) (only_ret _)).bind fun _ stored _ => ?_
    split
    · exact (sendReply_free rfl rfl _).founded
    · refine ⟨trivial, fun found => ?_⟩
      cases found with
      | none => exact faulty_free.founded
      | some own =>
        refine ⟨trivial, fun id => ?_⟩
        have text : Free a (perform .uninitialisedText) := ⟨fun _ => trivial, fun _ => trivial⟩
        refine (newUserFriend_warranted (.inr ?_) text).bind
          fun _ stored _ => (sendReply_free rfl rfl _).founded
        exact List.mem_append_right _ List.mem_cons_self

/-- `ICM` does only what it has a warrant for. -/
theorem talkIcm_warranted : (talkIcm a).Founded a.warrants past := by
  unfold talkIcm
  split
  · refine ⟨trivial, fun found => ?_⟩
    cases found with
    | none =>
      refine ⟨trivial, fun found => ?_⟩
      cases found with
      | none => trivial
      | some registered =>
        exact ⟨trivial, fun _ => ⟨trivial, fun _ => ⟨trivial, fun _ => ⟨trivial, fun _ =>
          ⟨trivial, fun _ => trivial⟩⟩⟩⟩⟩
    | some device =>
      have found := commands_of_found past (.name a.talktoId) device
      refine ⟨⟨device, found, rfl⟩, fun pin => ?_⟩
      refine ⟨.inr ⟨device, found.append _, rfl⟩, fun seqNum => ?_⟩
      refine ⟨.inr (.inr ⟨device, (found.append _).append _, rfl, seqNum, _, rfl⟩), fun len => ?_⟩
      dsimp only [Prog.bind]
      split
      · exact ⟨.inr ⟨device, ((found.append _).append _).append _, rfl⟩, fun _ => trivial⟩
      · trivial
  · trivial

/-- The scene that `DSC` replaces needs no warrant. -/
theorem replaceScene_free (key : b.userKeyId = a.userKeyId) (iotid devclass : Int)
    (timeStamp exeDate : Bytes) : Free a (replaceScene b iotid devclass timeStamp exeDate) := by
  refine (userDeleteSce_free iotid).bind fun deleted => ?_
  split
  · trivial
  · have stores := newUserSceneCmdStore_free (a := a) b.talktoId b.data 0 devclass 0 timeStamp
      exeDate
    rw [← key] at stores
    exact stores.bind fun _ => trivial

/-- `DSC` needs no warrant. -/
theorem talkDsc_free : Free a (talkDsc a) := by
  unfold talkDsc
  split
  · unfold talkDscScheduled
    dsimp only
    split
    · trivial
    · refine ⟨fun _ => trivial, fun found => ?_⟩
      cases found with
      | none => trivial
      | some device =>
        dsimp only
        split
        · refine (replaceScene_free (by rfl) _ _ _ _).bind fun _ => ?_
          exact sendReply_free (by rfl) (by rfl) _
        · refine (userDeleteSce_free _).bind fun deleted => ?_
          split
          · exact sendReply_free (by rfl) (by rfl) _
          · exact faulty_free
  · unfold talkDscDaily
    dsimp only
    split
    · trivial
    · refine ⟨fun _ => trivial, fun found => ?_⟩
      cases found with
      | none => trivial
      | some device =>
        exact (replaceScene_free (by rfl) _ _ _ _).bind fun _ => sendReply_free (by rfl) (by rfl) _

/-- `RCO` needs no warrant. -/
theorem talkRco_free : Free a (talkRco a) := by
  have friends : Free a (userReqFriendRel a) := by
    refine reading_free (fun _ _ => signs_of_own rfl) fun row => ⟨fun _ => trivial, fun found => ?_⟩
    cases found with
    | none => trivial
    | some friend => exact sendRow_free rfl _
  have devices : Free a (userReqIotRel a) := by
    refine reading_free (fun _ _ => signs_of_own rfl) fun row => ⟨fun _ => trivial, fun found => ?_⟩
    cases found with
    | none => trivial
    | some device => exact sendRow_free rfl _
  exact friends.bind fun _ => devices.bind fun _ => trivial

/-- A password changes after the old one was given. -/
theorem userRePwd_warranted (key : b.userKeyId = a.userKeyId) :
    (userRePwd b).Founded a.warrants past := by
  refine ⟨trivial, fun tag => ⟨trivial, fun known => ?_⟩⟩
  dsimp only [Prog.bind]
  split
  · rename_i right
    have proved (trace : List Happening) : Proved (past ++ [⟨.registedHead .user, tag⟩] ++
        [⟨.checkIdPwd 0 b.userId b.userPassword, known⟩] ++ trace) b.userId := by
      refine ⟨b.userPassword, known, ?_, by omega⟩
      exact List.mem_append_left _ (List.mem_append_right _ List.mem_cons_self)
    cases tag with
    | none => trivial
    | some first =>
      dsimp only
      split
      · have now := proved []
        rw [List.append_nil] at now
        exact ⟨now, fun _ => trivial⟩
      · refine ⟨trivial, fun found => ?_⟩
        cases found with
        | none => trivial
        | some user =>
          refine ⟨trivial, fun node => ?_⟩
          cases node with
          | none => trivial
          | some node =>
            refine ⟨⟨key, b.userId, ?_⟩, fun result => ?_⟩
            · rw [List.append_assoc]
              exact proved _
            · cases result with
              | failed duplicate => exact ⟨trivial, fun _ => trivial⟩
              | done =>
                refine ⟨?_, fun _ => ⟨trivial, fun _ => trivial⟩⟩
                rw [List.append_assoc, List.append_assoc]
                exact proved _
  · trivial

/-- `RPA` does only what it has a warrant for. -/
theorem talkRpa_warranted : (talkRpa a).Founded a.warrants past := by
  refine reload_free.founded.bind fun _ _ _ => ?_
  refine defined_warranted fun reUserPassword => ?_
  refine (userRePwd_warranted (by rfl)).bind fun _ _ _ => ?_
  exact (sendReply_free rfl rfl _).founded

/-- Every case of the switch. -/
theorem talkCase_warranted (config : Config) (opcode : Opcode) :
    (talkCase config a opcode).Founded a.warrants past := by
  have answers (frame : Frame) : (sendReply a frame).Founded a.warrants past :=
    (sendReply_free rfl rfl frame).founded
  cases opcode with
  | hba => exact andThen_warranted rfl rfl fun _ => talkRsa_free.founded
  | rsa => exact talkRsa_free.founded
  | pin => exact talkPin_free.founded
  | sib | sia => exact talkSia_warranted
  | rea => exact talkRea_warranted config
  | rme => trivial
  | sce => exact talkSce_free.founded
  | iot => exact talkIot_free.founded
  | taa => exact (talkMessage_free _).founded
  | sto => exact talkSto_warranted
  | upd => exact ⟨.inl rfl, fun _ => trivial⟩
  | add => exact Free.founded (reload_free.bind fun _ => talkMessage_free _)
  | ads => exact talkAds_warranted
  | icm => exact talkIcm_warranted
  | dsc => exact talkDsc_free.founded
  | ioc => exact Free.founded ((newUserIot_free _ _).bind fun _ => sendReply_free rfl rfl _)
  | rco => exact talkRco_free.founded
  | rpa => exact talkRpa_warranted
  | unknown => exact answers _

/-- Every operation of a request is warranted by what has happened before it. -/
theorem talk_warranted (config : Config) (a : CLN) (past : List Happening) :
    (talk config a).Founded a.warrants past := by
  have ends (past : List Happening) : (finish a).Founded a.warrants past :=
    (finish_free rfl).founded
  cases asks : a.requestClass with
  | test =>
    rw [talk, asks]
    exact ⟨.inl rfl, fun _ => ends _⟩
  | device =>
    rw [talk_device asks]
    exact iotTalk_warranted.bind fun _ _ _ => ends _
  | user opcode =>
    rw [talk_user asks]
    refine (talkCase_warranted config opcode).bind fun _ flow _ => ?_
    cases flow with
    | left => exact ends _
    | returned => trivial

/-! ## In a run -/

variable {config : Config} {now : ServerState × List Note}

/-- What a request has done was warranted by what it had done before. -/
theorem Told.warranted (told : Told config now) {object : Nat} {request : CLN}
    (requested : Requested now.2 object request) {before after : List Happening}
    {happening : Happening} (done : deeds now.2 object = before ++ happening :: after) :
    request.warrants before happening.1 := by
  obtain ⟨rest, comes⟩ := told.comes requested
  rw [done] at comes
  exact (talk_warranted config request []).each comes

end UubangIot
