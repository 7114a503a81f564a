import UubangIot.Server.RsaUtils
import UubangIot.Server.Text

/-!
# Records of the server

The structures of `SERVER.h` that the handlers read and write, the two packet formats, and the
SQL statements by their template and arguments. `CLN.info` is split where the source addresses
it: the sign-in flag, the handshake flag, the counter of running tasks that lies over bytes 2
to 5, and the rest.
-/

namespace UubangIot

open RsaUtils

/-- `cln` — a connection, or the copy of one that a request works on. The socket mutex is held
only within a send and the address is only logged. -/
structure CLN where
  /-- `SOCKET`. -/
  socket : Nat
  /-- `USERID`. -/
  userId : Bytes
  /-- `USERKEY_ID`. -/
  userKeyId : Int
  /-- `USERPASSWORD`. -/
  userPassword : Bytes
  /-- `checkcode`. -/
  checkcode : Bytes
  /-- `DATE`. -/
  date : Bytes
  /-- `TalktoID`. -/
  talktoId : Bytes
  /-- `REUSERPASSWORD`. -/
  reUserPassword : Bytes
  /-- `data`. -/
  data : Bytes
  /-- `info[0]`, `'Y'` for a connection that is signed in. -/
  info0 : UInt8
  /-- `info[1]`, `'Y'` after the handshake. -/
  info1 : UInt8
  /-- The `LONG` at `info[2]`. -/
  taskNum : Int
  /-- `info[6]` on. -/
  infoRest : Bytes
  /-- `Pin`. -/
  pin : Bytes
  /-- `key`. -/
  key : RSAKey
  /-- `conn`, the connection of a request. -/
  conn : Nat
  /-- `SeqNum`. -/
  seqNum : UInt8
  deriving DecidableEq, Repr

/-- `'Y'`. -/
def yes : UInt8 := 89
/-- `'N'`. -/
def no : UInt8 := 78

/-- `info[2]` as the source compares it: the signed low byte of the counter. -/
def CLN.info2 (a : CLN) : Int := (a.taskNum.toInt8).toInt

/-- The bytes of the counter as they lie in `info`. -/
def taskBytes (taskNum : Int) : Bytes :=
  (List.range 4).map fun i => (taskNum / 256 ^ i % 256).toNat.toUInt8

/-- `info` as an array. -/
def CLN.info (a : CLN) : Bytes := a.info0 :: a.info1 :: taskBytes a.taskNum ++ a.infoRest

/-- `memset(CONNHANDLE, 0, sizeof(CLN))`. -/
def CLN.zero : CLN :=
  ⟨0, zeros 12, 0, zeros 33, zeros 18, zeros 100, zeros 12, zeros 33, zeros 513, 0, 0, 0,
    zeros 94, zeros 7, ⟨0, 0, 0, 0⟩, 0, 0⟩

/-- `struct user` — a node of an online or registered list. -/
structure User where
  /-- `USER_SOCKET`. -/
  userSocket : Nat
  /-- `USERID`. -/
  userId : Bytes
  /-- `USERKEY_ID`. -/
  userKeyId : Int
  /-- `USERPASSWORD`. -/
  userPassword : Bytes
  /-- `info`. -/
  info : Bytes
  /-- `CONNHANDLE`. -/
  connHandle : Nat
  /-- The node's memory is still allocated. -/
  allocated : Bool
  deriving DecidableEq, Repr

/-- The two lists of each registry: users (`n = 0`) and devices (`n = 10`). -/
inductive Kind
  | user
  | iot
  deriving DecidableEq, Repr

/-- The list an id belongs to by its length: devices have fewer than eleven characters. -/
def kindOf (userId : Bytes) : Kind := if strlen userId < 11 then .iot else .user

/-- What a list is searched for: a name, or a key when the name is NULL. -/
inductive Lookup
  | name (userId : Bytes)
  | key (id : Int)
  deriving DecidableEq, Repr

/-- A node answers a search. -/
def Lookup.matches : Lookup → User → Bool
  | .name userId, node => streq userId node.userId
  | .key id, node => id = node.userKeyId

/-- `UserPacketInterface`, without the line feed that ends `save`. -/
structure UserPacket where
  /-- `checkcode`. -/
  checkcode : Bytes
  /-- `USERID`. -/
  userId : Bytes := []
  /-- `USERPASSWORD`. -/
  userPassword : Bytes := []
  /-- `TalktoID`. -/
  talktoId : Bytes := []
  /-- `REUSERPASSWORD`. -/
  reUserPassword : Bytes := []
  /-- `DATA`. -/
  data : Bytes := []
  /-- `save`. -/
  save : Bytes := []
  deriving DecidableEq, Repr

/-- `IotPacketInterface`, with the part of its payload that was written. -/
structure IotPacket where
  /-- `opCode`. -/
  opCode : Bytes
  /-- `SeqNum[0]`. -/
  seqNum : UInt8
  /-- `payLoad`. -/
  payLoad : Bytes
  deriving DecidableEq, Repr

/-- What a send writes to a socket. -/
inductive Frame
  | user (packet : UserPacket)
  | iot (packet : IotPacket)
  | raw (bytes : Bytes)
  deriving DecidableEq, Repr

/-- `"%d_%d_%d_"` of the public half of a key. -/
def announcement (key : RSAKey) : Bytes :=
  decimal key.publicKey ++ underscore :: decimal key.commonKey ++
    underscore :: decimal key.encryptBlockBytes ++ [underscore]

/-- A frame that announces a key, with the text that does. -/
def Frame.announced : Frame → Option Bytes
  | .user packet => if packet.checkcode = text "RSA" then some packet.data else none
  | .iot packet => if packet.opCode = text "01" then some packet.payLoad else none
  | .raw _ => none

/-- The SQL statements, by template, with the values formatted into them. -/
inductive Statement
  /-- `INSERT INTO user`. -/
  | insertUser (userId nickName passWord email : Bytes)
  /-- `INSERT INTO iotserverinfo`. -/
  | insertServerInfo
  /-- `INSERT INTO iotnode`. -/
  | insertIotNode (pinCode : Bytes) (deviceClass : Int) (openId : Bytes)
  /-- `SELECT * FROM user`. -/
  | selectUsers
  /-- `SELECT * FROM iotnode`. -/
  | selectIotNodes
  /-- `SELECT * FROM user WHERE id > … ORDER BY id ASC`. -/
  | selectUsersAbove (id : Int)
  /-- `SELECT * FROM iotnode WHERE id > … ORDER BY id ASC`. -/
  | selectIotNodesAbove (id : Int)
  /-- `UPDATE user SET passWord`. -/
  | updatePassword (passWord : Bytes) (id : Int)
  /-- `INSERT INTO iotevtcache`. -/
  | insertEvent (iotId evtClass status : Int) (content : Bytes)
  /-- `UPDATE iotevtcache`. -/
  | updateEvent (status : Int) (content : Bytes) (iotId evtClass : Int)
  /-- `SELECT * FROM iotevtcache`. -/
  | selectEvents (iotId : Int)
  /-- `INSERT INTO userscenecmd`. -/
  | insertScene (iotid devClass : Int) (cmdContent : Bytes) (status : Int)
      (cmdTime exeDate : Bytes) (cmdGroup fromUserId : Int)
  /-- `DELETE FROM userscenecmd`. -/
  | deleteScenes (iotid : Int)
  /-- `SELECT * FROM userscenecmd`. -/
  | selectScenes (iotid : Int)
  /-- `INSERT INTO userrelationship`. -/
  | insertFriend (userId friendId : Int)
  /-- `SELECT * FROM userrelationship`. -/
  | selectFriends (userId : Int)
  /-- `INSERT INTO iotrelationship`. -/
  | insertUserIot (userId iotId : Int)
  /-- `SELECT * FROM iotrelationship`. -/
  | selectUserIots (userId : Int)
  /-- `INSERT INTO` the message table of a day. -/
  | insertMessage (day : Bytes) (userId friendId : Int) (content : Bytes)
  /-- `UPDATE iotserverinfo`, the column by its index. -/
  | updateTimestamp (index userId flag : Int)
  /-- `INSERT INTO iotcmd`. -/
  | insertCommand (iotid devClass status : Int) (cmd : Bytes) (fromid : Int) (cmdDate : Bytes)
  /-- `SELECT * FROM iotcmd`. -/
  | selectCommands (iotid devClass : Int)
  /-- `DELETE FROM iotcmd`. -/
  | deleteCommands (iotid devClass : Int)
  deriving DecidableEq, Repr

/-- A row as its text columns. -/
abbrev Row := List Bytes

/-- One column of a row. -/
def column (row : Row) (index : Nat) : Bytes := row.getD index []

/-- `mysql_real_query`: done, or an error whose text has "Duplicate" or not. -/
inductive QueryResult
  | done
  | failed (duplicate : Bool)
  deriving DecidableEq, Repr

/-- What `AddtoLocal` reads of its argument. -/
structure Entry where
  /-- `USERID`. -/
  userId : Bytes
  /-- `USERPASSWORD`. -/
  userPassword : Bytes
  /-- `USERKEY_ID`. -/
  userKeyId : Int
  /-- `info`. -/
  info : Bytes
  /-- `checkcode`. -/
  checkcode : Bytes
  deriving DecidableEq, Repr

end UubangIot
