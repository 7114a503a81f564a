import UubangIot.Server.Records

/-!
# The texts of the statements

The `sprintf` calls that put packet fields into a statement, part by part as the source lists them,
and the arrays they print into. Every part is copied as it is: nothing is escaped. A quote at the
end of a long part is written apart from it.
-/

namespace UubangIot

/-- `sprintf` of a format that only strings `%s` and `%d` together. -/
def printed (parts : List Bytes) : Bytes := parts.flatten

/-- `NewUserMsgStorage`. -/
def messageText (day : Bytes) (userId friendId : Int) (content : Bytes) : Bytes :=
  printed [text "INSERT INTO `", day,
    text ("` (`userId`, `friendId`, `Content`, `SendDate`) VALUES (" ++ "'"), decimal userId,
    text "', '", decimal friendId, text "', '", content, text "', ", text "CURRENT_TIMESTAMP)"]

/-- `NewUserSceneCmdStore`. -/
def sceneText (iotid devClass : Int) (cmd : Bytes) (status : Int) (timeStamp exeDate : Bytes)
    (cmdGroup fromUserId : Int) : Bytes :=
  printed [text ("INSERT INTO `userscenecmd` (`iotid`, `devClass`, `cmdContent`, `status`, " ++
      "`CmdTime`, `ExeDate`, `CmdGroup`, `fromUserId`) VALUES (" ++ "'"), decimal iotid,
    text "', '", decimal devClass, text "', '", cmd, text "', '", decimal status, text "', '",
    timeStamp, text "', '", exeDate, text "', '", decimal cmdGroup, text "', '",
    decimal fromUserId, text "')"]

/-- `insert` of `IotUpdateStatus`. -/
def eventText (iotId evtClass status : Int) (content : Bytes) : Bytes :=
  printed [text ("INSERT INTO `iotevtcache` (`iotId`, `evtClass`, `status`, `content`, " ++
      "`updateDate`) VALUES (" ++ "'"), decimal iotId,
    text "', '", decimal evtClass, text "', '", decimal status, text "', '", content,
    text ("'" ++ ", CURRENT_TIMESTAMP)")]

/-- `update` of `IotUpdateStatus`. -/
def eventUpdateText (status : Int) (content : Bytes) (iotId evtClass : Int) : Bytes :=
  printed [text ("UPDATE `iotevtcache` SET `status` = " ++ "'"), decimal status,
    text ("'" ++ ", `content` = " ++ "'"), content,
    text ("'" ++ ", `updateDate` = CURRENT_TIME() WHERE `iotevtcache`.`iotId` = "), decimal iotId,
    text " AND `iotevtcache`.`evtClass` =  ", decimal evtClass]

/-- `UserRegiter`. -/
def userText (userId nickName passWord email : Bytes) : Bytes :=
  printed [text ("INSERT INTO user (id, userId, nickName, passWord, email, registDate) VALUES " ++
      "(NULL, " ++ "'"), userId,
    text "', '", nickName, text "', '", passWord, text "', '", email, text "', ",
    text "CURRENT_TIMESTAMP)"]

/-- `NewIotCmdToBeExecute`. -/
def commandText (iotid devClass status : Int) (cmd : Bytes) (fromid : Int) (cmdDate : Bytes) :
    Bytes :=
  printed [text ("INSERT INTO `iotcmd` (`iotid`, `class`, `status`, `cmd`, `fromid`, `cmdDate`, " ++
      "`cmdStatus`) VALUES (" ++ "'"), decimal iotid,
    text "', '", decimal devClass, text "', '", decimal status, text "', '", cmd, text "', '",
    decimal fromid, text "','", cmdDate, text "', '0')"]

/-- The text of a statement that takes a text of a packet. -/
def Statement.sql : Statement → Option Bytes
  | .insertMessage day userId friendId content =>
    some (messageText day userId friendId content)
  | .insertScene iotid devClass cmdContent status cmdTime exeDate cmdGroup fromUserId =>
    some (sceneText iotid devClass cmdContent status cmdTime exeDate cmdGroup fromUserId)
  | .insertEvent iotId evtClass status content => some (eventText iotId evtClass status content)
  | .updateEvent status content iotId evtClass =>
    some (eventUpdateText status content iotId evtClass)
  | .insertUser userId nickName passWord email => some (userText userId nickName passWord email)
  | .insertCommand iotid devClass status cmd fromid cmdDate =>
    some (commandText iotid devClass status cmd fromid cmdDate)
  | _ => none

/-- The array the text is printed into. -/
def Statement.buffer : Statement → Nat
  | .insertMessage .. => 700
  | .insertScene .. => 300
  | .insertCommand .. => 200
  | _ => 800

/-- `Cmd` of the `SCE` case. -/
def sceneCmdBuffer : Nat := 200

end UubangIot
