import UubangIot.Server.IotTalk

/-!
# User requests

`Talk.c`: the switch over the request codes. A case either leaves the switch, and `talk` then
takes the task off its connection and frees the request, or it has returned. The cases that
return do that themselves, each on its own.
-/

namespace UubangIot

open Effect RsaUtils

/-- What the handlers use of the process: the digest of `Compute_string_md5` as text, and
`app_version`. -/
structure Config where
  /-- `Compute_string_md5`. -/
  md5 : Bytes → Bytes
  /-- `app_version`. -/
  appVersion : Bytes

/-- How a case ends. -/
inductive Flow
  /-- `break`. -/
  | left
  /-- `return 0`. -/
  | returned
  deriving DecidableEq, Repr

/-- The cases of the switch. -/
inductive Opcode
  | hba | rsa | pin | sib | sia | rea | rme | sce | iot | taa | sto | upd | add | ads | icm | dsc
  | ioc | rco | rpa | unknown
  deriving DecidableEq, Repr

/-- `DJBHash(tag, 3)` by the labels of the switch. -/
def opcodeOf (checkcode : Bytes) : Opcode :=
  match djbHash (checkcode.take 3) 3 with
  | 57648 => .hba
  | 69099 => .rsa
  | 66604 => .pin
  | 69859 => .sib
  | 69858 => .sia
  | 68637 => .rea
  | 68905 => .rme
  | 69664 => .sce
  | 59185 => .iot
  | 70683 => .taa
  | 70235 => .sto
  | 72270 => .upd
  | 50094 => .add
  | 50109 => .ads
  | 58782 => .icm
  | 53855 => .dsc
  | 59168 => .ioc
  | 68585 => .rco
  | 69000 => .rpa
  | _ => .unknown

/-- `InterlockedDecrement` and `freeNode`, the end of a task. -/
def finish (a : CLN) : Handler Unit := do
  perform (.decrementTasks a.conn)
  perform .freeNode

/-- `SyncSend` on the request's socket; when it fails the socket is closed and the task ends. -/
def sendReply (a : CLN) (frame : Frame) : Handler Flow := do
  let len : Int ← perform (.send a.socket frame)
  if sendFailed len then
    perform (.closeSocket a.socket)
    finish a
    return .returned
  else return .left

/-- Go on after a reply that was sent. -/
def Flow.andThen (sent : Handler Flow) (next : Handler Flow) : Handler Flow := do
  match ← sent with
  | .returned => return .returned
  | .left => next

/-- `RSA` — a new key, stored before it is announced. -/
def talkRsa (a : CLN) : Handler Flow := do
  let _ ← perform .initRSA
  let key ← perform .initRSA
  perform (.setConnKey a.conn key)
  sendReply a (.user { checkcode := text "RSA", data := announcement key })

/-- `HBA` — a reply of its own, then on into `RSA`. -/
def talkHba (a : CLN) : Handler Flow :=
  Flow.andThen (sendReply a (reply "HBA")) (talkRsa a)

/-- `PIN` — a new PIN, encoded for a signed-in connection and mailed otherwise. Without a key it
returns at once. The arguments of `Compute_string_md5` are exchanged: the 33 bytes of a digest are
written to the request's `Pin[7]`, over `key`, `t` and `conn` behind it, and `conn` is used next. -/
def talkPin [Writers] (a : CLN) : Handler Flow := do
  if a.key.encryptBlockBytes = 0 then return .returned
  else
    let pin : Bytes ← perform .randomPin
    perform (.setConnPin a.conn (pin ++ [0]) 7)
    if a.signedIn then
      Writers.encode a.key pin fun _ => faulty
    else
      perform (.system (text "cmd.exe /c \"PINSend.bat\" " ++ cstr (a.data.take 50) ++
        text " " ++ cstr pin))
      sendReply a (reply "PIN")

/-- `SIA` after the password is decoded. -/
def talkSignIn (a : CLN) : Handler Flow := do
  let result ← signIn a
  if result = 1 then
    perform (.setConnUserId a.conn (a.userId.take 12))
    refreshKeyId a
    perform (.setConnSignedIn a.conn)
    sendReply a (reply "SIA")
  else sendReply a (reply "SiA")

/-- `SIA` and `SIB`. -/
def talkSia [Writers] (a : CLN) : Handler Flow :=
  Writers.decode a.passwordKey a.userPassword a.data 32 fun userPassword =>
    talkSignIn { a with userPassword := userPassword.set 32 0 }

/-- The first `len` bytes of an array shifted down in place. -/
def decryptOver (array : Bytes) (len : Nat) (pinCode : Bytes) : Bytes :=
  decrypt array len pinCode ++ array.drop len

/-- `REA` after the PIN was compared. -/
def talkRegister [Writers] (a : CLN) : Handler Flow :=
  Writers.decode a.passwordKey a.userPassword a.data 32 fun userPassword => do
    let registered ← register
      { a with userPassword := decryptOver (userPassword.set 32 0) 32 a.pin } 0
    sendReply a (reply (if registered = 1 then "REA" else "ReA"))

/-- `REA` — a wrong PIN is reported and the registration goes on. -/
def talkRea [Writers] (config : Config) (a : CLN) : Handler Flow := do
  let _ ← updateLocalRegUserAndIotlist
  if streq (config.md5 (a.pin.take 6)) a.userPassword then talkRegister a
  else Flow.andThen (sendReply a (reply "RPE")) (talkRegister a)

/-- `Cmd` of a scene, with the key of the device it is for. -/
def sceneCmd (first second third : Bytes) (id : Int) : Bytes :=
  let part (field : Bytes) (separator : String) : Bytes := cstr field ++ text separator
  part first "-" ++ part second "-" ++ part third "-" ++ decimal id ++ text "-98-" ++
    part first "+" ++ part second "+" ++ part third "+" ++ text "-"

/-- The stored scene of the device that starts it, replaced when the scene names one. -/
def storeTrigger (a : CLN) (first second cmd timeStamp exeDate : Bytes) : Handler Unit := do
  if atoi first ≠ 0 then
    let _ ← userDeleteSce (atoi first)
    match ← perform (.findRegister .iot (.key (atoi first))) with
    | none => faulty
    | some device =>
      let _ ← newUserSceneCmdStore device.userId a.userKeyId cmd 0 (atoi second) 0 timeStamp
        exeDate
  else return ()

/-- Both stores of `SCE`, for the fields of a scene. -/
def storeScene (a : CLN) (first second third timeStamp exeDate : Bytes) : Handler Unit := do
  match ← perform (.findRegister .iot (.name a.talktoId)) with
  | none => faulty
  | some device =>
    storeTrigger a first second (sceneCmd first second third device.userKeyId) timeStamp exeDate
    let _ ← newUserSceneCmdStore a.talktoId a.userKeyId a.data 0 99 0 timeStamp exeDate

/-- `"00:00:00"`. -/
def noTime : Bytes := text "00:00:00"
/-- `"1111111"`. -/
def everyDay : Bytes := text "1111111"

/-- `SCE` without a schedule. The count of the date's fields goes to the count of the scene's,
which then frees that many. -/
def talkSceneDaily (a : CLN) : Handler Flow := do
  let fields := strSplit a.data 200 dash
  if fields.length < 7 then return .returned
  else
    storeScene a (fields.getD 0 []) (fields.getD 1 []) (fields.getD 2 []) noTime everyDay
    if fields.length < (strSplit a.date (strlen a.date) underscore).length then faulty
    else return .left

/-- `SCE` with a schedule after a `~`. -/
def talkSceneScheduled (a : CLN) : Handler Flow := do
  let fields := strSplit a.data 200 dash
  if fields.length < 7 then return .returned
  else
    match strSplit a.date (strlen a.date) underscore with
    | timeStamp :: exeDate :: _ =>
      storeScene a (fields.getD 0 []) (fields.getD 1 []) (fields.getD 2 []) timeStamp exeDate
      return .left
    | _ =>
      storeScene a (fields.getD 0 []) (fields.getD 1 []) (fields.getD 2 []) noTime everyDay
      return .left

/-- `SCE`. -/
def talkSce [Writers] (a : CLN) : Handler Flow :=
  match strSplit a.data 200 tilde with
  | first :: second :: _ =>
    Writers.print a.data first fun data => Writers.print a.date second fun date =>
      talkSceneScheduled { a with data, date }
  | _ => talkSceneDaily a

/-- `IOT`. -/
def talkIot (a : CLN) : Handler Flow := do
  let _ ← userGetIotData a
  return .left

/-- `TAA`, and `ADD` after its reload: store a message for a registered user. -/
def talkMessage (a : CLN) (code : String) : Handler Flow := do
  match ← perform (.findRegister .user (.name a.talktoId)) with
  | none =>
    finish a
    return .returned
  | some user =>
    let _ ← newUserMsgStorage a user.userKeyId
    sendReply a (reply code)

/-- `STO` — the reply, then the removal; the connection keeps its own flag. -/
def talkSto (a : CLN) : Handler Flow :=
  Flow.andThen (sendReply a (reply "STO")) do
    let _ ← perform (.deleteOutUser a.userId a.socket)
    return .left

/-- `UPD`, whose send may fail unnoticed. -/
def talkUpd (config : Config) (a : CLN) : Handler Flow := do
  let _ ← perform (.send a.socket
    (.user { checkcode := text "UPD", data := cstr config.appVersion }))
  return .left

/-- `ADD`. -/
def talkAdd (a : CLN) : Handler Flow := do
  let _ ← updateLocalRegUserAndIotlist
  talkMessage a "ADN"

/-- `ADS` — friends both ways; the second caller's record is local and only has its id. -/
def talkAds (a : CLN) : Handler Flow := do
  match ← perform (.findRegister .user (.name a.talktoId)) with
  | none => faulty
  | some friend =>
    let stored ← newUserFriend a.userKeyId (return a.talktoId) friend.userKeyId
    if stored = 0 then sendReply a (reply "ADS")
    else
      match ← perform (.findRegister .user (.name a.userId)) with
      | none => faulty
      | some own =>
        let id ← perform .uninitialisedInt
        let stored ← newUserFriend id (perform .uninitialisedText) own.userKeyId
        sendReply a (reply (if stored = 0 then "ADS" else "ADN"))

/-- `ICM` to a device that is online here: its connection's PIN and sequence number. -/
def commandDevice (device : User) (payLoad : Bytes) : Handler Flow := do
  let pin ← perform (.connPin device.connHandle)
  let seqNum ← perform (.nextSeqNum device.connHandle)
  let len : Int ← perform (.send device.userSocket
    (.iot ⟨text "00", seqNum, encrypt payLoad payLoad.length pin⟩))
  if sendFailed len then
    perform (.closeSocket device.userSocket)
    return .left
  else return .left

/-- `ICM` to a device that is not online here, through the top server. The other texts of the
local record are uninitialised. -/
def commandElsewhere (a : CLN) (payLoad : Bytes) : Handler Flow := do
  match ← perform (.findRegister .iot (.name a.talktoId)) with
  | none => return .returned
  | some _ =>
    let reUserPassword ← perform .uninitialisedText
    let info ← perform .uninitialisedText
    let userId ← perform .uninitialisedText
    let userPassword ← perform .uninitialisedText
    let _ ← send2OnlineUserViaTopServer
      { checkcode := text "00", data := payLoad, reUserPassword := cstr reUserPassword
        save := cstr info, talktoId := cstr a.talktoId, userId := cstr userId
        userPassword := cstr userPassword }
    return .left

/-- `ICM`. -/
def talkIcm (a : CLN) : Handler Flow := do
  match strSplit a.data (strlen a.data) underscore with
  | first :: second :: _ =>
    match ← perform (.findOnline .iot (.name a.talktoId)) with
    | none => commandElsewhere a (command first second)
    | some device => commandDevice device (command first second)
  | _ => return .returned

/-- `!UserDeleteSce(…) || !NewUserSceneCmdStore(…)` of `DSC`, the store only after a
deletion. -/
def replaceScene (a : CLN) (iotid devclass : Int) (timeStamp exeDate : Bytes) : Handler Bool := do
  let deleted ← userDeleteSce iotid
  if deleted = 0 then return true
  else
    let stored ← newUserSceneCmdStore a.talktoId a.userKeyId a.data 0 devclass 0 timeStamp exeDate
    return stored = 0

/-- `DSC` without a schedule. -/
def talkDscDaily (a : CLN) : Handler Flow := do
  let fields := strSplit a.data (strlen a.data) dash
  if fields.length < 6 then return .returned
  else
    let iotid := atoi (fields.getD 0 [])
    match ← perform (.findRegister .iot (.key iotid)) with
    | none => return .returned
    | some _ =>
      let failed ← replaceScene a iotid (atoi (fields.getD 1 [])) noTime everyDay
      sendReply a (reply (if failed then "DSC" else "DSc"))

/-- `DSC` with a schedule; its codes are the other way round, and a schedule of fewer than two
fields is read past its end. -/
def talkDscScheduled (a : CLN) (schedule : Bytes) : Handler Flow := do
  let fields := strSplit a.data (strlen a.data) dash
  if fields.length < 3 then return .returned
  else
    let iotid := atoi (fields.getD 0 [])
    match ← perform (.findRegister .iot (.key iotid)) with
    | none => return .returned
    | some _ =>
      match strSplit schedule (strlen schedule) underscore with
      | timeStamp :: exeDate :: _ =>
        let failed ← replaceScene a iotid (atoi (fields.getD 1 [])) timeStamp exeDate
        sendReply a (reply (if failed then "DSc" else "DSC"))
      | _ =>
        let deleted ← userDeleteSce iotid
        if deleted = 0 then sendReply a (reply "DSc") else faulty

/-- `DSC`. -/
def talkDsc (a : CLN) : Handler Flow :=
  match strSplit a.data 200 tilde with
  | data :: schedule :: _ => talkDscScheduled { a with data := strcpy a.data data } schedule
  | _ => talkDscDaily a

/-- `IOC`. -/
def talkIoc (a : CLN) : Handler Flow := do
  let stored ← newUserIot a.talktoId a.userKeyId 0
  sendReply a (reply (if stored ≠ 0 then "IOC" else "ioc"))

/-- `RCO`. -/
def talkRco (a : CLN) : Handler Flow := do
  let _ ← userReqFriendRel a
  let _ ← userReqIotRel a
  return .left

/-- `RPA`. -/
def talkRpa [Writers] (a : CLN) : Handler Flow := do
  let _ ← updateLocalRegUserAndIotlist
  Writers.decode a.passwordKey a.reUserPassword a.data 32 fun reUserPassword => do
    let changed ← userRePwd
      { a with
        reUserPassword := decryptOver reUserPassword 32 a.pin
        userPassword := decryptOver a.userPassword 32 a.pin }
    sendReply a (reply (if changed = 1 then "RPA" else "RPF"))

/-- The switch. -/
def talkCase [Writers] (config : Config) (a : CLN) : Opcode → Handler Flow
  | .hba => talkHba a
  | .rsa => talkRsa a
  | .pin => talkPin a
  | .sib | .sia => talkSia a
  | .rea => talkRea config a
  | .rme => return .left
  | .sce => talkSce a
  | .iot => talkIot a
  | .taa => talkMessage a "TAN"
  | .sto => talkSto a
  | .upd => talkUpd config a
  | .add => talkAdd a
  | .ads => talkAds a
  | .icm => talkIcm a
  | .dsc => talkDsc a
  | .ioc => talkIoc a
  | .rco => talkRco a
  | .rpa => talkRpa a
  | .unknown => sendReply a (reply "ERR")

/-- What `talk` is asked for: a line test, a device request, or a case of the switch. -/
inductive RequestClass
  | test
  | device
  | user (opcode : Opcode)
  deriving DecidableEq, Repr

/-- `a->checkcode[0] == 't'`, `strlen(a->checkcode) < 3`, and the switch. -/
def CLN.requestClass (a : CLN) : RequestClass :=
  if a.checkcode.getD 0 0 = 116 then .test
  else if strlen a.checkcode < 3 then .device
  else .user (opcodeOf a.checkcode)

/-- `talk`. -/
def talk [Writers] (config : Config) (a : CLN) : Handler Unit :=
  match a.requestClass with
  | .test => do
    let _ ← perform (.send a.socket (.raw (text "TEST" ++ [0])))
    finish a
  | .device => do
    iotTalk a
    finish a
  | .user opcode => do
    match ← talkCase config a opcode with
    | .returned => return ()
    | .left => finish a

end UubangIot
