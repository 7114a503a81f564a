import UubangIot.Server.Ops

/-!
# Database operations of the handlers

Most of them take a node, run one statement and give the node back; they differ in the
statement, in what they return without a node and on an error, and in what they do before the
node goes back. The readers send one frame for each row and stop at the first failed send.
-/

namespace UubangIot

open Effect

/-- A NULL dereference. -/
def faulty {α : Type} : Handler α := .call .fault fun response => nomatch response

/-- `len == SOCKET_ERROR || len == 0`. -/
def sendFailed (len : Int) : Bool := len = -1 ∨ len = 0

/-- Take a node, run a statement, do what follows it and give the node back. -/
def storing (statement : Statement) (onNull onError : Int) (after : Handler Unit) :
    Handler Int := do
  match ← perform .getDbConnect with
  | none => return onNull
  | some node =>
    match ← perform (.realQuery node statement) with
    | .failed _ =>
      perform (.releaseNode node)
      return onError
    | .done =>
      after
      perform (.releaseNode node)
      return 1

/-- Rows one after the other, until one of them stops the loop. -/
def eachRow (each : Row → Handler Bool) : List Row → Handler Bool
  | [] => return true
  | row :: rows => do
    if ← each row then eachRow each rows else return false

/-- Take a node, run a query, handle its rows and give the node back. -/
def reading (statement : Statement) (each : Row → Handler Bool) : Handler Int := do
  match ← perform .getDbConnect with
  | none => return 0
  | some node =>
    match ← perform (.realQuery node statement) with
    | .failed _ =>
      perform (.releaseNode node)
      return 0
    | .done =>
      match ← perform (.storeResult node) with
      | none => faulty
      | some rows =>
        let complete ← eachRow each rows
        perform (.releaseNode node)
        return if complete then 1 else 0

/-- Send a frame on the request's socket, closing it when that fails. -/
def sendRow (a : CLN) (frame : Frame) : Handler Bool := do
  let len ← perform (.send a.socket frame)
  if sendFailed len then
    perform (.closeSocket a.socket)
    return false
  return true

/-- `UpdateSqlInfoTimestamp`. -/
def updateSqlInfoTimestamp (userId index flag : Int) : Handler Int :=
  storing (.updateTimestamp index userId flag) 0 (-1) (return ())

/-- The update that follows an insertion, its result ignored. -/
def touching (userId index : Int) : Handler Unit := do
  let _ ← updateSqlInfoTimestamp userId index 0

/-- `NewUserSceneCmdStore`; of the caller it reads the target and the key. -/
def newUserSceneCmdStore (talktoId : Bytes) (userKeyId : Int) (cmd : Bytes)
    (status devclass cmdGroup : Int) (timeStamp exeDate : Bytes) : Handler Int := do
  match ← perform (.findRegister .iot (.name talktoId)) with
  | none => return 0
  | some node =>
    storing (.insertScene node.userKeyId devclass (cstr cmd) status (cstr timeStamp)
      (cstr exeDate) cmdGroup userKeyId) 0 0 (return ())

/-- `UserDeleteSce`. -/
def userDeleteSce (iotid : Int) : Handler Int := storing (.deleteScenes iotid) 0 0 (return ())

/-- `NewUserFriend`; the target is read only for a zero friend. -/
def newUserFriend (userKeyId : Int) (talktoId : Handler Bytes) (friendId : Int) :
    Handler Int := do
  if friendId = 0 then
    match ← perform (.findRegister .user (.name (← talktoId))) with
    | none => return 0
    | some node =>
      storing (.insertFriend userKeyId node.userKeyId) 0 0 (touching userKeyId 1)
  else storing (.insertFriend userKeyId friendId) 0 0 (touching userKeyId 1)

/-- `NewUserIot`. -/
def newUserIot (talktoId : Bytes) (userKeyId iotId : Int) : Handler Int := do
  if iotId = 0 then
    match ← perform (.findRegister .iot (.name talktoId)) with
    | none => return 0
    | some node => storing (.insertUserIot userKeyId node.userKeyId) 0 0 (touching userKeyId 2)
  else storing (.insertUserIot userKeyId iotId) 0 0 (touching userKeyId 2)

/-- `NewUserMsgStorage`. -/
def newUserMsgStorage (a : CLN) (toId : Int) : Handler Int := do
  let day ← perform .today
  storing (.insertMessage day a.userKeyId toId (cstr a.data)) 0 0 (touching a.userKeyId 3)

/-- `NewIotCmdToBeExecute`. -/
def newIotCmdToBeExecute (a : CLN) (cmd : Bytes) (devclass status : Int)
    (timeToBeExe : Bytes) : Handler Int := do
  match ← perform (.findRegister .iot (.name a.talktoId)) with
  | none => faulty
  | some node =>
    storing (.insertCommand node.userKeyId devclass status (cstr cmd) a.userKeyId timeToBeExe)
      0 0 (return ())

/-- `IotReadCmd` — read the first command into `data`, or delete the commands. -/
def iotReadCmd (a : CLN) (devclass : Int) (del : Bool) : Handler (Int × CLN) := do
  if del then
    let result ← storing (.deleteCommands a.userKeyId devclass) 0 0 (return ())
    return (result, a)
  else
    match ← perform .getDbConnect with
    | none => return (0, a)
    | some node =>
      match ← perform (.realQuery node (.selectCommands a.userKeyId devclass)) with
      | .failed _ =>
        perform (.releaseNode node)
        return (0, a)
      | .done =>
        match ← perform (.storeResult node) with
        | none => faulty
        | some [] =>
          perform (.releaseNode node)
          return (0, a)
        | some (row :: _) =>
          perform (.releaseNode node)
          let command := ((List.range 5).map fun i => cstr (column row (i + 1)) ++ [underscore])
          return (1, { a with data := strcpy a.data command.flatten })

/-- The frame of `SEND_OP_BACK` and of the device readers: the next sequence number of the
request's connection, then the send. -/
def iotFrame (a : CLN) (opCode payLoad : Bytes) : Handler Frame := do
  let seqNum ← perform (.nextSeqNum a.conn)
  return .iot ⟨opCode, seqNum, payLoad⟩

/-- `IotGetIotData`. -/
def iotGetIotData (a : CLN) (readIotId : Int) : Handler Int :=
  reading (.selectEvents readIotId) fun row => do
    let payLoad := decimal (atoi (column row 0)) ++ underscore :: decimal (atoi (column row 1)) ++
      underscore :: decimal (atoi (column row 2)) ++ underscore :: cstr (column row 3) ++
      underscore :: cstr (column row 4) ++ [underscore]
    let frame ← iotFrame a (text "07") (encrypt payLoad payLoad.length a.pin)
    sendRow a frame

/-- `IotReadSelfSceneCmd`. -/
def iotReadSelfSceneCmd (a : CLN) (iotKey : Int) : Handler Int :=
  reading (.selectScenes iotKey) fun row => do
    let payLoad :=
      ((List.range 7).map fun i => cstr (column row (i + 2)) ++ [underscore]).flatten
    let frame ← iotFrame a (text "06") (encrypt payLoad payLoad.length a.pin)
    sendRow a frame

/-- `UserGetIotData`. -/
def userGetIotData (a : CLN) : Handler Int := do
  match ← perform (.findRegister .iot (.name a.talktoId)) with
  | none => faulty
  | some device =>
    reading (.selectEvents device.userKeyId) fun row =>
      let data := decimal (atoi (column row 1)) ++ underscore :: decimal (atoi (column row 2)) ++
        underscore :: cstr (column row 3) ++ underscore :: cstr (column row 4) ++ [underscore]
      sendRow a (.user { checkcode := text "IOT", talktoId := cstr a.talktoId
                         userId := cstr a.userId, save := cstr (column row 4), data })

/-- `UserReqFriendRel`. -/
def userReqFriendRel (a : CLN) : Handler Int :=
  reading (.selectFriends a.userKeyId) fun row => do
    match ← perform (.findRegister .user (.key (atoi (column row 1)))) with
    | none => return false
    | some friend =>
      sendRow a (.user { checkcode := text "RCO", talktoId := cstr friend.userId
                         userId := cstr a.userId, save := cstr (column row 2) })

/-- `UserReqIotRel`. -/
def userReqIotRel (a : CLN) : Handler Int :=
  reading (.selectUserIots a.userKeyId) fun row => do
    match ← perform (.findRegister .iot (.key (atoi (column row 1)))) with
    | none => return false
    | some device =>
      sendRow a (.user { checkcode := text "RCI", talktoId := cstr device.userId
                         userId := cstr a.userId, data := cstr device.info
                         save := cstr (column row 2) })

/-- `IotUpdateStatus` — insert the status; over a duplicate, take a second node and update. -/
def iotUpdateStatus (a : CLN) (evtClass status : Int) : Handler Int := do
  match ← perform .getDbConnect with
  | none => return 0
  | some node =>
    match ← perform (.realQuery node
        (.insertEvent a.userKeyId evtClass status (cstr a.data))) with
    | .done =>
      perform (.releaseNode node)
      return 1
    | .failed false =>
      perform (.releaseNode node)
      return 0
    | .failed true =>
      perform (.releaseNode node)
      match ← perform .getDbConnect with
      | none => return 0
      | some node =>
        let _ ← perform (.realQuery node
          (.updateEvent status (cstr a.data) a.userKeyId evtClass))
        let affected : Int ← perform (.affectedRows node)
        perform (.releaseNode node)
        return if affected = 0 then 0 else 1

/-- `Send2OnlineUserViaTopServer`, the fields by their text. -/
def send2OnlineUserViaTopServer (packet : UserPacket) : Handler Int := do
  let len : Int ← perform (.sendTop packet)
  return if len = 0 then 0 else 1

end UubangIot
