import UubangIot.Server.Worker

/-!
# What the handlers may do to a connection

Every operation has one role: it settles a task, changes a session, replaces a key, or is plain.
One lemma for each function the handlers call says that it is routine; the handlers themselves are
then described by where their other operations stand.
-/

namespace UubangIot

open Effect Effect.Prog RsaUtils

/-- What an operation is to its connection. -/
inductive Role
  /-- Nothing that the results below follow. -/
  | plain
  /-- The task's count and its request. -/
  | accounting
  /-- The online lists and the connection's sign-in. -/
  | session
  /-- The connection's key and its announcement. -/
  | key
  deriving DecidableEq, Repr

/-- The role of an operation. -/
def Op.role : Op → Role
  | .decrementTasks _ | .freeNode => .accounting
  | .setConnUserId _ _ | .setConnSignedIn _ | .deleteOutUser _ _
  | .newOnlineUserOrIotDev _ => .session
  | .setConnKey _ _ => .key
  | .send _ frame => if frame.announced = none then .plain else .key
  | _ => .plain

/-- A plain operation. -/
def Op.plain (op : Op) : Prop := op.role = .plain

/-- A plain program. -/
abbrev Plain {α : Type} (handler : Handler α) : Prop := handler.Only Op.plain

/-- A plain operation that does not write the key id of a connection. -/
def Op.routine : Op → Bool
  | .setConnUserKeyId _ _ => false
  | op => op.role = .plain

/-- Routine operations are plain. -/
theorem Op.routine_plain {op : Op} (routine : op.routine = true) : op.plain := by
  cases op with
  | send socket frame => exact show (Op.send socket frame).role = .plain from of_decide_eq_true routine
  | _ => first | rfl | cases routine

/-- What a request does that signs its connection in or out. -/
def Op.signsFor (conn : Nat) : Op → Prop
  | .setConnUserKeyId other _ | .setConnUserId other _ | .setConnSignedIn other => other = conn
  | .deleteOutUser _ _ => True
  | .newOnlineUserOrIotDev a => a.conn = conn
  | _ => False

/-- A sign-in on a connection is a session operation or a plain one. -/
theorem Op.signsFor_cases {op : Op} {conn : Nat} (signs : op.signsFor conn) :
    op.role = .session ∨ op.plain := by
  cases op <;> first | exact .inl rfl | exact .inr rfl | exact signs.elim

/-- The same, with the names it may write to the connection. -/
def Op.signsAs (conn : Nat) (named : Bytes → Prop) : Op → Prop
  | .setConnUserId other userId => other = conn ∧ named userId
  | op => op.signsFor conn

/-- Whoever signs in as somebody signs in. -/
theorem Op.signsAs_signsFor {op : Op} {conn : Nat} {named : Bytes → Prop}
    (signs : op.signsAs conn named) : op.signsFor conn := by
  cases op <;> first | exact signs | exact signs.1

/-- The same, with the socket of the node it may make. -/
def Op.signsBy (conn socket : Nat) (named : Bytes → Prop) : Op → Prop
  | .newOnlineUserOrIotDev a => a.conn = conn ∧ a.socket = socket
  | op => op.signsAs conn named

/-- A sign-in by a socket is one as somebody. -/
theorem Op.signsBy_signsAs {op : Op} {conn socket : Nat} {named : Bytes → Prop}
    (signs : op.signsBy conn socket named) : op.signsAs conn named := by
  cases op <;> first | exact signs | exact signs.1

/-- The names that a request may write to its connection: the first field of a device's data, or the
user's own id. -/
def CLN.writesId (a : CLN) (userId : Bytes) : Prop :=
  if a.requestClass = .device then
    ∃ name rest, strSplit a.data 200 underscore = name :: rest ∧ userId = cstr name ++ [0]
  else userId = a.userId.take 12

/-- A program of routine operations. -/
abbrev Routine {α : Type} (handler : Handler α) : Prop := handler.Only (Op.routine · = true)

/-- Routine programs are plain. -/
theorem Routine.plain {α : Type} {handler : Handler α} (routine : Routine handler) :
    Plain handler := routine.mono fun _ => Op.routine_plain

/-- A frame for a device. -/
def Frame.toDevice : Frame → Bool
  | .iot _ => true
  | _ => false

/-- A routine operation that takes no sequence number and sends nothing to a device. -/
def Op.unstamped : Op → Bool
  | .nextSeqNum _ => false
  | .send _ frame => frame.announced = none ∧ frame.toDevice = false
  | op => op.routine

/-- An operation that takes no number is routine. -/
theorem Op.unstamped_routine {op : Op} (unstamped : op.unstamped = true) : op.routine = true := by
  cases op with
  | nextSeqNum conn => exact Bool.noConfusion unstamped
  | send socket frame =>
    have silent : frame.announced = none := (of_decide_eq_true unstamped).1
    exact decide_eq_true (show (Op.send socket frame).role = .plain from if_pos silent)
  | _ => exact unstamped

/-- A program of such operations. -/
abbrev Unstamped {α : Type} (handler : Handler α) : Prop := handler.Only (Op.unstamped · = true)

/-- A program of operations that take no number is routine. -/
theorem Unstamped.routine {α : Type} {handler : Handler α} (unstamped : Unstamped handler) :
    Routine handler := unstamped.mono fun _ => Op.unstamped_routine

/-- An unstamped operation that closes no socket. -/
def Op.mild : Op → Bool
  | .closeSocket _ => false
  | op => op.unstamped

/-- A mild operation takes no number. -/
theorem Op.mild_unstamped {op : Op} (mild : op.mild = true) : op.unstamped = true := by
  cases op with
  | closeSocket socket => exact Bool.noConfusion mild
  | _ => exact mild

/-- A program of such operations. -/
abbrev Mild {α : Type} (handler : Handler α) : Prop := handler.Only (Op.mild · = true)

/-- A mild program takes no number. -/
theorem Mild.unstamped {α : Type} {handler : Handler α} (mild : Mild handler) :
    Unstamped handler := mild.mono fun _ => Op.mild_unstamped

/-- Mild programs are routine. -/
theorem Mild.routine {α : Type} {handler : Handler α} (mild : Mild handler) : Routine handler :=
  mild.unstamped.routine

/-! ## Replies and ends -/

/-- The checkcode of a reply. -/
def replyCode (happening : Happening) : Option Bytes :=
  match happening.1 with
  | .send _ (.user packet) => some packet.checkcode
  | _ => none

/-- An operation that ends a task. -/
def Op.ending : Op → Bool
  | .closeSocket _ => true
  | .decrementTasks _ => true
  | .freeNode => true
  | _ => false

/-- The end of a task is no reply. -/
theorem replyCode_ending (happening : Happening) (ends : happening.1.ending = true) :
    replyCode happening = none := by
  obtain ⟨op, response⟩ := happening
  cases op <;> first | rfl | cases ends

/-- `finish` makes only the operations that end a task. -/
theorem finish_ending (a : CLN) : (finish a).Only (Op.ending · = true) :=
  ⟨rfl, fun _ => ⟨rfl, fun _ => trivial⟩⟩

/-! ## Effects -/

/-- A statement that changes no table. -/
def Statement.selects : Statement → Bool
  | .selectUsers | .selectIotNodes | .selectUsersAbove _ | .selectIotNodesAbove _
  | .selectEvents _ | .selectScenes _ | .selectFriends _ | .selectUserIots _
  | .selectCommands _ _ => true
  | _ => false

/-- A change of a table that was done, or a command frame for a device, sent here or through the
top server. -/
def acts : Happening → Bool
  | ⟨.realQuery _ statement, result⟩ =>
    !statement.selects && decide ((show QueryResult from result) = .done)
  | ⟨.send _ (.iot packet), _⟩ => packet.opCode = text "00"
  | ⟨.sendTop packet, _⟩ => packet.checkcode = text "00"
  | _ => false

/-! ## The database and the registered lists -/

/-- Nothing happens after a fault. -/
theorem faulty_mild {α : Type} : Mild (faulty : Handler α) :=
  ⟨rfl, fun response => response.elim⟩

/-- An undefined access is plain. -/
theorem faulty_plain {α : Type} : Plain (faulty : Handler α) := faulty_mild.routine.plain

/-- Undefined arithmetic is a fault. -/
theorem defined_only {α β : Type} {allowed : Op → Prop} {value : Option α}
    {next : α → Handler β} (fault : allowed .fault)
    (later : ∀ found, value = some found → (next found).Only allowed) :
    (defined value next).Only allowed := by
  cases value with
  | none => exact ⟨fault, fun response => response.elim⟩
  | some found => exact later found rfl

/-- A statement on a node does what it needs the node for and what follows it. -/
theorem storing_only {allowed : Op → Prop} {statement : Statement} (onNull onError : Int)
    {after : Handler Unit} (take : allowed .getDbConnect)
    (query : ∀ node, allowed (.realQuery node statement))
    (give : ∀ node, allowed (.releaseNode node)) (follows : after.Only allowed) :
    (storing statement onNull onError after).Only allowed := by
  refine ⟨take, fun node => ?_⟩
  cases node with
  | none => trivial
  | some node =>
    refine ⟨query node, fun result => ?_⟩
    cases result with
    | failed duplicate => exact ⟨give node, fun _ => trivial⟩
    | done => exact follows.bind fun _ => ⟨give node, fun _ => trivial⟩

/-- A row loop does what each row does. -/
theorem eachRow_only {allowed : Op → Prop} {each : Row → Handler Bool}
    (row : ∀ row, (each row).Only allowed) (rows : List Row) :
    (eachRow each rows).Only allowed := by
  induction rows with
  | nil => trivial
  | cons first rest ih =>
    refine (row first).bind fun more => ?_
    cases more with
    | true => exact ih
    | false => trivial

/-- A query does what it needs the node for and what its rows do. -/
theorem reading_only {allowed : Op → Prop} {statement : Statement} {each : Row → Handler Bool}
    (take : allowed .getDbConnect) (query : ∀ node, allowed (.realQuery node statement))
    (result : ∀ node, allowed (.storeResult node)) (fault : allowed .fault)
    (give : ∀ node, allowed (.releaseNode node)) (row : ∀ row, (each row).Only allowed) :
    (reading statement each).Only allowed := by
  refine ⟨take, fun node => ?_⟩
  cases node with
  | none => trivial
  | some node =>
    refine ⟨query node, fun answer => ?_⟩
    cases answer with
    | failed duplicate => exact ⟨give node, fun _ => trivial⟩
    | done =>
      refine ⟨result node, fun stored => ?_⟩
      cases stored with
      | none => exact ⟨fault, fun response => response.elim⟩
      | some rows => exact (eachRow_only row rows).bind fun _ => ⟨give node, fun _ => trivial⟩

/-- A statement on a node is routine when what follows it is. -/
theorem storing_mild (statement : Statement) (onNull onError : Int) {after : Handler Unit}
    (follows : Mild after) : Mild (storing statement onNull onError after) :=
  storing_only onNull onError rfl (fun _ => rfl) (fun _ => rfl) follows

/-- A query is routine when its rows are. -/
theorem reading_routine (statement : Statement) {each : Row → Handler Bool}
    (row : ∀ row, Routine (each row)) : Routine (reading statement each) :=
  reading_only rfl (fun _ => rfl) (fun _ => rfl) rfl (fun _ => rfl) row

/-- A row's frame, and the end of its connection when that fails. -/
theorem sendRow_only {allowed : Op → Prop} (a : CLN) {frame : Frame}
    (send : allowed (.send a.socket frame)) (close : allowed (.closeSocket a.socket)) :
    (sendRow a frame).Only allowed := by
  refine ⟨send, fun len => ?_⟩
  dsimp only [Prog.bind]
  split
  · exact ⟨close, fun _ => trivial⟩
  · trivial

/-- A frame for a user that announces no key. -/
theorem send_mild (socket : Nat) {frame : Frame} (silent : frame.announced = none)
    (user : frame.toDevice = false) : (Op.send socket frame).mild = true :=
  decide_eq_true ⟨silent, user⟩

/-- A frame that announces no key is routine to send. -/
theorem send_routine (socket : Nat) {frame : Frame} (silent : frame.announced = none) :
    (Op.send socket frame).routine = true :=
  decide_eq_true (show (Op.send socket frame).role = .plain from if_pos silent)

/-- A frame that announces no key is plain to send. -/
theorem send_plain (socket : Nat) {frame : Frame} (silent : frame.announced = none) :
    (Op.send socket frame).plain := if_pos silent

/-- `UpdateSqlInfoTimestamp` is mild. -/
theorem touching_mild (userId index : Int) : Mild (touching userId index) :=
  (storing_mild _ _ _ (only_ret ())).bind fun _ => trivial

/-- `NewUserSceneCmdStore` is mild. -/
theorem newUserSceneCmdStore_mild (talktoId : Bytes) (userKeyId : Int) (cmd : Bytes)
    (status devclass cmdGroup : Int) (timeStamp exeDate : Bytes) :
    Mild (newUserSceneCmdStore talktoId userKeyId cmd status devclass cmdGroup timeStamp
      exeDate) := by
  refine ⟨rfl, fun found => ?_⟩
  cases found with
  | none => trivial
  | some node => exact storing_mild _ _ _ trivial

/-- `UserDeleteSce` is mild. -/
theorem userDeleteSce_mild (iotid : Int) : Mild (userDeleteSce iotid) :=
  storing_mild _ _ _ trivial

/-- `NewUserFriend` is mild. -/
theorem newUserFriend_mild (userKeyId : Int) {talktoId : Handler Bytes} (friendId : Int)
    (target : Mild talktoId) : Mild (newUserFriend userKeyId talktoId friendId) := by
  unfold newUserFriend
  split
  · refine target.bind fun name => ⟨rfl, fun found => ?_⟩
    cases found with
    | none => trivial
    | some node => exact storing_mild _ _ _ (touching_mild _ _)
  · exact storing_mild _ _ _ (touching_mild _ _)

/-- `NewUserIot` is mild. -/
theorem newUserIot_mild (talktoId : Bytes) (userKeyId iotId : Int) :
    Mild (newUserIot talktoId userKeyId iotId) := by
  unfold newUserIot
  split
  · refine ⟨rfl, fun found => ?_⟩
    cases found with
    | none => trivial
    | some node => exact storing_mild _ _ _ (touching_mild _ _)
  · exact storing_mild _ _ _ (touching_mild _ _)

/-- `NewUserMsgStorage` is mild. -/
theorem newUserMsgStorage_mild (a : CLN) (toId : Int) : Mild (newUserMsgStorage a toId) :=
  ⟨rfl, fun _ => storing_mild _ _ _ (touching_mild _ _)⟩

/-- `NewIotCmdToBeExecute` is mild. -/
theorem newIotCmdToBeExecute_mild (a : CLN) (cmd : Bytes) (devclass status : Int)
    (timeToBeExe : Bytes) : Mild (newIotCmdToBeExecute a cmd devclass status timeToBeExe) := by
  refine ⟨rfl, fun found => ?_⟩
  cases found with
  | none => exact faulty_mild
  | some node => exact storing_mild _ _ _ trivial

/-- A status is stored by its statements. -/
theorem iotUpdateStatus_only {allowed : Op → Prop} (a : CLN) (evtClass status : Int)
    (take : allowed .getDbConnect) (give : ∀ node, allowed (.releaseNode node))
    (insert : ∀ node,
      allowed (.realQuery node (.insertEvent a.userKeyId evtClass status (cstr a.data))))
    (update : ∀ node,
      allowed (.realQuery node (.updateEvent status (cstr a.data) a.userKeyId evtClass)))
    (affected : ∀ node, allowed (.affectedRows node)) :
    (iotUpdateStatus a evtClass status).Only allowed := by
  refine ⟨take, fun node => ?_⟩
  cases node with
  | none => trivial
  | some node =>
    refine ⟨insert node, fun result => ?_⟩
    cases result with
    | done => exact ⟨give node, fun _ => trivial⟩
    | failed duplicate =>
      cases duplicate with
      | false => exact ⟨give node, fun _ => trivial⟩
      | true =>
        refine ⟨give node, fun _ => ⟨take, fun node => ?_⟩⟩
        cases node with
        | none => trivial
        | some node =>
          exact ⟨update node, fun _ => ⟨affected node, fun _ => ⟨give node, fun _ => trivial⟩⟩⟩

/-- A command is read, or the commands are deleted. -/
theorem iotReadCmd_only {allowed : Op → Prop} (a : CLN) (devclass : Int) (del : Bool)
    (take : allowed .getDbConnect) (give : ∀ node, allowed (.releaseNode node))
    (select : ∀ node, allowed (.realQuery node (.selectCommands a.userKeyId devclass)))
    (delete : ∀ node, allowed (.realQuery node (.deleteCommands a.userKeyId devclass)))
    (result : ∀ node, allowed (.storeResult node)) (fault : allowed .fault) :
    (iotReadCmd a devclass del).Only allowed := by
  cases del with
  | true => exact (storing_only _ _ take delete give (only_ret ())).bind fun _ => trivial
  | false =>
    refine ⟨take, fun node => ?_⟩
    cases node with
    | none => trivial
    | some node =>
      refine ⟨select node, fun answer => ?_⟩
      cases answer with
      | failed duplicate => exact ⟨give node, fun _ => trivial⟩
      | done =>
        refine ⟨result node, fun stored => ?_⟩
        cases stored with
        | none => exact ⟨fault, fun response => response.elim⟩
        | some rows =>
          cases rows with
          | nil => exact ⟨give node, fun _ => trivial⟩
          | cons row rows => exact ⟨give node, fun _ => trivial⟩

/-- `IotReadCmd` is mild. -/
theorem iotReadCmd_mild (a : CLN) (devclass : Int) (del : Bool) :
    Mild (iotReadCmd a devclass del) :=
  iotReadCmd_only a devclass del rfl (fun _ => rfl) (fun _ => rfl) (fun _ => rfl) (fun _ => rfl) rfl

/-- A stored command is read into the data of its request. -/
theorem iotReadCmd_request (a : CLN) (devclass : Int) (del : Bool) :
    (iotReadCmd a devclass del).Ensures fun _ result => ∃ data, result.2 = { a with data } := by
  cases del with
  | true =>
    refine (ensures_bind _ _ _).mpr fun _ _ _ => ?_
    exact (ensures_ret _).mpr ⟨_, rfl⟩
  | false =>
    refine (ensures_call _ _).mpr fun node => ?_
    cases node with
    | none => exact (ensures_ret _).mpr ⟨_, rfl⟩
    | some node =>
      refine (ensures_call _ _).mpr fun answer => ?_
      cases answer with
      | failed duplicate =>
        exact (ensures_call _ _).mpr fun _ => (ensures_ret _).mpr ⟨_, rfl⟩
      | done =>
        refine (ensures_call _ _).mpr fun stored => ?_
        cases stored with
        | none => exact (ensures_call _ _).mpr fun response => response.elim
        | some rows =>
          cases rows with
          | nil => exact (ensures_call _ _).mpr fun _ => (ensures_ret _).mpr ⟨_, rfl⟩
          | cons row rows => exact (ensures_call _ _).mpr fun _ => (ensures_ret _).mpr ⟨_, rfl⟩

/-- A device frame with another opcode than `01` announces no key. -/
theorem iotFrame_silent {opCode payLoad : Bytes} {seqNum : UInt8} (other : opCode ≠ text "01") :
    (Frame.iot ⟨opCode, seqNum, payLoad⟩).announced = none := if_neg other

/-- A row sent to a device under another opcode than `01`. -/
theorem sendIotRow_routine (a : CLN) {opCode payLoad : Bytes} (other : opCode ≠ text "01") :
    Routine (iotFrame a opCode payLoad >>= sendRow a) :=
  ⟨rfl, fun _ => sendRow_only a (send_routine _ (iotFrame_silent other)) rfl⟩

/-- `IotGetIotData` is routine. -/
theorem iotGetIotData_routine (a : CLN) (readIotId : Int) : Routine (iotGetIotData a readIotId) :=
  reading_routine _ fun _ => sendIotRow_routine a (by decide)

/-- `IotReadSelfSceneCmd` is routine. -/
theorem iotReadSelfSceneCmd_routine (a : CLN) (iotKey : Int) :
    Routine (iotReadSelfSceneCmd a iotKey) :=
  reading_routine _ fun _ => sendIotRow_routine a (by decide)

section

variable {allowed : Op → Prop} (quiet : ∀ op : Op, op.mild = true → allowed op) (a : CLN)
  (close : allowed (.closeSocket a.socket))

include quiet

/-- A query does what its rows do and mild operations. -/
theorem listing_only (statement : Statement) {each : Row → Handler Bool}
    (row : ∀ row, (each row).Only allowed) : (reading statement each).Only allowed :=
  reading_only (quiet _ rfl) (fun _ => quiet _ rfl) (fun _ => quiet _ rfl) (quiet _ rfl)
    (fun _ => quiet _ rfl) row

include close

/-- `UserGetIotData` by its operations. -/
theorem userGetIotData_only : (userGetIotData a).Only allowed := by
  refine ⟨quiet _ rfl, fun found => ?_⟩
  cases found with
  | none => exact faulty_mild.mono quiet
  | some device =>
    exact listing_only quiet _ fun _ => sendRow_only a (quiet _ (send_mild _ rfl rfl)) close

/-- `UserReqFriendRel` by its operations. -/
theorem userReqFriendRel_only : (userReqFriendRel a).Only allowed := by
  refine listing_only quiet _ fun row => ⟨quiet _ rfl, fun found => ?_⟩
  cases found with
  | none => trivial
  | some friend => exact sendRow_only a (quiet _ (send_mild _ rfl rfl)) close

/-- `UserReqIotRel` by its operations. -/
theorem userReqIotRel_only : (userReqIotRel a).Only allowed := by
  refine listing_only quiet _ fun row => ⟨quiet _ rfl, fun found => ?_⟩
  cases found with
  | none => trivial
  | some device => exact sendRow_only a (quiet _ (send_mild _ rfl rfl)) close

end

/-- `IotUpdateStatus` is mild. -/
theorem iotUpdateStatus_mild (a : CLN) (evtClass status : Int) :
    Mild (iotUpdateStatus a evtClass status) :=
  iotUpdateStatus_only a evtClass status rfl (fun _ => rfl) (fun _ => rfl) (fun _ => rfl)
    fun _ => rfl

/-- `Send2OnlineUserViaTopServer` is mild. -/
theorem send2OnlineUserViaTopServer_mild (packet : UserPacket) :
    Mild (send2OnlineUserViaTopServer packet) := ⟨rfl, fun _ => trivial⟩

/-- What a reload of the registered lists may do. -/
def Op.reloading : Op → Bool
  | .lockMute _ | .unlockMute _ | .uninitialisedText | .registedHead _ | .addtoLocal _
  | .getDbConnect | .releaseNode _ | .storeResult _ | .fault => true
  | .realQuery _ (.selectUsersAbove _) | .realQuery _ (.selectIotNodesAbove _) => true
  | _ => false

/-- A program that only reloads. -/
abbrev Reloading {α : Type} (handler : Handler α) : Prop := handler.Only (Op.reloading · = true)

/-- The rows of a reload only reload. -/
theorem addRows_reloading (entry : Row → Entry) (rows : List Row) :
    Reloading (addRows entry rows) := by
  induction rows with
  | nil => trivial
  | cons row rows ih => exact ⟨rfl, fun _ => ih⟩

/-- One query of a reload only reloads. -/
theorem fetchRows_reloading (node : Nat) {statement : Statement} (entry : Row → Entry)
    {next : Handler Int} (selects : (Op.realQuery node statement).reloading = true)
    (follows : Reloading next) : Reloading (fetchRows node statement entry next) := by
  refine ⟨selects, fun result => ?_⟩
  cases result with
  | failed duplicate => exact ⟨rfl, fun _ => trivial⟩
  | done =>
    refine ⟨rfl, fun stored => ?_⟩
    cases stored with
    | none => exact ⟨rfl, fun response => response.elim⟩
    | some rows => exact (addRows_reloading entry rows).bind fun _ => follows

/-- The reload of the devices only reloads. -/
theorem updateLocalIotlist_reloading (node : Nat) : Reloading (updateLocalIotlist node) := by
  refine ⟨rfl, fun top => ?_⟩
  cases top with
  | none => trivial
  | some top =>
    refine ⟨rfl, fun _ => ⟨rfl, fun top => ?_⟩⟩
    cases top with
    | none => exact ⟨rfl, fun response => response.elim⟩
    | some top => exact fetchRows_reloading _ _ rfl ⟨rfl, fun _ => ⟨rfl, fun _ => trivial⟩⟩

/-- `UpdateLocalRegUserAndIotlist` only reloads. -/
theorem updateLocalRegUserAndIotlist_reloading : Reloading updateLocalRegUserAndIotlist := by
  refine ⟨rfl, fun _ => ⟨rfl, fun _ => ⟨rfl, fun top => ?_⟩⟩⟩
  cases top with
  | none => exact ⟨rfl, fun response => response.elim⟩
  | some top =>
    refine ⟨rfl, fun node => ?_⟩
    cases node with
    | none => trivial
    | some node =>
      exact fetchRows_reloading _ _ rfl
        ⟨rfl, fun _ => ⟨rfl, fun _ => updateLocalIotlist_reloading node⟩⟩

/-- The operations of a reload are mild. -/
theorem mild_of_reloading {op : Op} (reloads : op.reloading = true) :
    op.mild = true := by
  cases op <;> first | rfl | cases reloads

/-- `UpdateLocalRegUserAndIotlist` is mild. -/
theorem updateLocalRegUserAndIotlist_mild : Mild updateLocalRegUserAndIotlist :=
  updateLocalRegUserAndIotlist_reloading.mono fun _ reloads => mild_of_reloading reloads

/-- A registration checks the id, inserts a row and reloads the lists. -/
theorem register_only {allowed : Op → Prop} (a : CLN) (method : Int)
    (check : allowed (.checkIdPwd 1 a.userId a.userPassword)) (take : allowed .getDbConnect)
    (query : ∀ node statement, allowed (.realQuery node statement))
    (give : ∀ node, allowed (.releaseNode node))
    (reload : updateLocalRegUserAndIotlist.Only allowed) : (register a method).Only allowed := by
  rw [register_eq]
  refine ⟨check, fun known => ?_⟩
  dsimp only
  split
  · trivial
  · have row : (registerRow a method).Only allowed := by
      unfold registerRow
      split
      · refine ⟨take, fun node => ?_⟩
        cases node with
        | none => trivial
        | some node =>
          refine ⟨query node _, fun result => ?_⟩
          cases result with
          | done => exact ⟨give node, fun _ => trivial⟩
          | failed duplicate => cases duplicate <;> exact ⟨give node, fun _ => trivial⟩
      · refine ⟨take, fun node => ?_⟩
        cases node with
        | none => trivial
        | some node =>
          refine ⟨query node _, fun result => ?_⟩
          cases result with
          | failed duplicate => exact ⟨give node, fun _ => trivial⟩
          | done =>
            refine ⟨query node _, fun result => ?_⟩
            cases result with
            | failed duplicate => exact ⟨give node, fun _ => trivial⟩
            | done => trivial
    refine row.bind fun inserted => ?_
    split
    · trivial
    · exact reload.bind fun _ => trivial

/-- `Register` is mild. -/
theorem register_mild (a : CLN) (method : Int) : Mild (register a method) :=
  register_only a method rfl rfl (fun _ _ => rfl) (fun _ => rfl) updateLocalRegUserAndIotlist_mild

/-- `UserRePwd` is mild. -/
theorem userRePwd_mild (a : CLN) : Mild (userRePwd a) := by
  refine ⟨rfl, fun tag => ⟨rfl, fun known => ?_⟩⟩
  dsimp only [Prog.bind]
  split
  · cases tag with
    | none => trivial
    | some first =>
      dsimp only
      split
      · exact ⟨rfl, fun _ => trivial⟩
      · refine ⟨rfl, fun found => ?_⟩
        cases found with
        | none => trivial
        | some user =>
          refine ⟨rfl, fun node => ?_⟩
          cases node with
          | none => trivial
          | some node =>
            refine ⟨rfl, fun result => ?_⟩
            cases result with
            | failed duplicate => exact ⟨rfl, fun _ => trivial⟩
            | done => exact ⟨rfl, fun _ => ⟨rfl, fun _ => trivial⟩⟩
  · trivial

end UubangIot
