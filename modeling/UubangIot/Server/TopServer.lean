import UubangIot.Lib.CheckedArray
import UubangIot.Server.Worker

/-!
# Packets between servers

`Send2OnlineUserViaAllServer.c`: the packet that is sent to the top server, and what is done with one
that comes from it. The arrays of a packet are written with the size of each array checked, so a
result also says that no write has left its array. A frame or packet is as it lies in a zeroed
structure.
-/

namespace UubangIot

open Effect CheckedArray

/-! ## Writes into arrays -/

/-- `sprintf(target, "%s", source)` and `strcpy`, with every byte checked. -/
def printInto (target source : Bytes) : Option Bytes := storeAll target 0 (cstr source ++ [0])

/-- `memcpy(target, source, count)`, with every byte checked. -/
def copyInto (target source : Bytes) (count : Nat) : Option Bytes :=
  storeAll target 0 (source.take count)

/-- `Stringcut`: the bytes from `m` to `n` and a terminator, with every byte checked. -/
def stringcut (str : Bytes) (m n : Nat) (des : Bytes) : Option Bytes :=
  storeAll des 0 ((str.drop m).take (n + 1 - m) ++ [0])

/-! ## The packet -/

/-- `UserPacketInterface` by its arrays. -/
structure UserPacketInterface where
  /-- `checkcode[18]`. -/
  checkcode : Bytes
  /-- `USERID[12]`. -/
  userId : Bytes
  /-- `USERPASSWORD[33]`. -/
  userPassword : Bytes
  /-- `TalktoID[12]`. -/
  talktoId : Bytes
  /-- `REUSERPASSWORD[33]`. -/
  reUserPassword : Bytes
  /-- `DATA[513]`. -/
  data : Bytes
  /-- `save[100]`. -/
  save : Bytes
  deriving DecidableEq, Repr

/-- `memset(&SendBuf, 0, sizeof(UserPacketInterface))`. -/
def UserPacketInterface.zero : UserPacketInterface :=
  ⟨zeros 18, zeros 12, zeros 33, zeros 12, zeros 33, zeros 513, zeros 100⟩

/-- The packet as it is sent. -/
def UserPacketInterface.bytes (packet : UserPacketInterface) : Bytes :=
  packet.checkcode ++ packet.userId ++ packet.userPassword ++ packet.talktoId ++
    packet.reUserPassword ++ packet.data ++ packet.save

/-- `memcpy(&pack, buf, sizeof(UserPacketInterface))`. -/
def UserPacketInterface.ofBytes (buf : Bytes) : UserPacketInterface where
  checkcode := field buf 0 18
  userId := field buf 18 12
  userPassword := field buf 30 33
  talktoId := field buf 63 12
  reUserPassword := field buf 75 33
  data := field buf 108 513
  save := field buf 621 100

/-- `_HC_`. -/
def lineFeed : UInt8 := 10

/-- The packet that `Send2OnlineUserViaTopServer` builds. -/
def topServerPacket (a : CLN) : Option UserPacketInterface := do
  let sendBuf := UserPacketInterface.zero
  let checkcode ← printInto sendBuf.checkcode a.checkcode
  let data ← printInto sendBuf.data a.data
  let reUserPassword ← printInto sendBuf.reUserPassword a.reUserPassword
  let save ← printInto sendBuf.save a.info
  let save ← store save 99 lineFeed
  let talktoId ← printInto sendBuf.talktoId a.talktoId
  let userId ← printInto sendBuf.userId a.userId
  let userPassword ← printInto sendBuf.userPassword a.userPassword
  return ⟨checkcode, userId, userPassword, talktoId, reUserPassword, data, save⟩

/-- `CopyUserPacketInterface2Cln` with its writes checked: the terminators in the packet, then the
copies into the record. -/
def copyPacketChecked (packet : UserPacketInterface) (a : CLN) : Option CLN := do
  let fromCheckcode ← store packet.checkcode 17 0
  let fromData ← store packet.data 512 0
  let fromUserPassword ← store packet.userPassword 32 0
  let fromUserId ← store packet.userId 11 0
  let fromReUserPassword ← store packet.reUserPassword 32 0
  let fromTalktoId ← store packet.talktoId 11 0
  let fromSave ← store packet.save 99 0
  let checkcode ← copyInto a.checkcode fromCheckcode 17
  let data ← copyInto a.data fromData 512
  let userPassword ← copyInto a.userPassword fromUserPassword 32
  let userId ← copyInto a.userId fromUserId 11
  let reUserPassword ← copyInto a.reUserPassword fromReUserPassword 32
  let talktoId ← copyInto a.talktoId fromTalktoId 11
  let date ← copyInto a.date fromSave 99
  return { a with checkcode, data, userPassword, userId, reUserPassword, talktoId, date }

/-- A text in a zeroed array. -/
def padTo (size : Nat) (source : Bytes) : Bytes := (source ++ zeros size).take size

/-- The arrays of a packet given by its texts. -/
def UserPacket.arrays (packet : UserPacket) : UserPacketInterface where
  checkcode := padTo 18 packet.checkcode
  userId := padTo 12 packet.userId
  userPassword := padTo 33 packet.userPassword
  talktoId := padTo 12 packet.talktoId
  reUserPassword := padTo 33 packet.reUserPassword
  data := padTo 513 packet.data
  save := padTo 99 packet.save ++ [lineFeed]

/-- A packet given by its texts, as it is sent. -/
def UserPacket.wire (packet : UserPacket) : Bytes := packet.arrays.bytes

/-- A frame for a device, as it is sent. -/
def IotPacket.bytes (packet : IotPacket) : Bytes :=
  padTo 3 packet.opCode ++ [packet.seqNum, 0] ++ (padTo 199 packet.payLoad ++ [lineFeed])

/-! ## What comes from the top server -/

/-- The record `ReceiveMsgFromTopServer` makes of a packet. -/
def receiveMsgFromTopServer (buf : Bytes) : CLN := copyUserPacketInterface2Cln buf .zero

/-- `opCode` of `HandleTopServerMsg`: a number for a code of two characters, else the hash. -/
def topOpCode (checkcode : Bytes) : Int :=
  if strlen checkcode = 2 then atoi checkcode else djbHash (checkcode.take 3) 3

/-- `SEND_STO` and the removal that follows it; a failed send returns at once. -/
def handleStop (a : CLN) : Handler Bool := do
  match ← perform (.findOnline .user (.name a.talktoId)) with
  | none => return false
  | some temp =>
    let len : Int ← perform (.send temp.userSocket (.user { checkcode := text "STO" }))
    if sendFailed len then
      perform (.closeSocket temp.userSocket)
      return false
    else
      let _ ← perform (.deleteOutUser (cstr temp.userId) temp.userSocket)
      return true

/-- `Encrypt` of a text in place. -/
def encryptText (payLoad pin : Bytes) : Bytes :=
  encrypt payLoad (strlen payLoad) pin ++ payLoad.drop (strlen payLoad)

/-- `payLoad` of a relayed command: 200 bytes of the data and a terminator behind them, of which the
structure holds the first 200, encrypted up to its end. -/
def relayedPayLoad (data pin : Bytes) : Bytes :=
  encryptText ((data.take 200 ++ [0]).take 200) pin

/-- A command for a device that is online here, without a sequence number. -/
def handleCommand [Writers] (a : CLN) : Handler Bool := do
  match ← perform (.findOnline .iot (.name a.talktoId)) with
  | none => return false
  | some temp =>
    Writers.cut a.data fun payLoad => do
      let pin ← perform (.connPin temp.connHandle)
      let len : Int ← perform (.send temp.userSocket
        (.iot ⟨text "00", 0, encryptText payLoad pin⟩))
      if sendFailed len then
        perform (.closeSocket temp.userSocket)
        return true
      else return true

/-- `HandleTopServerMsg`; the result says whether the message was freed. -/
def handleTopServerMsg [Writers] (a : CLN) : Handler Bool :=
  match topOpCode a.checkcode with
  | 70235 => handleStop a
  | 0 => handleCommand a
  | _ => return true

end UubangIot
