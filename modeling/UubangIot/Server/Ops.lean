import UubangIot.Lib.Program
import UubangIot.Server.Records

/-!
# Operations of the handlers

What a handler does outside its own request copy: the connection record, the sockets, the
lists, the database and the C library. A search, a removal or an insertion in a list is one
operation; so is a send under the connection's mutex. A NULL dereference is `fault`, which has
no response.
-/

namespace UubangIot

open RsaUtils Effect

/-- The operations. -/
inductive Op
  /-- `InterlockedDecrement` of the connection's task counter. -/
  | decrementTasks (conn : Nat)
  /-- `freeNode` of the handler's request. -/
  | freeNode
  /-- A NULL dereference or another undefined access. -/
  | fault
  /-- `conn->key = a->key`. -/
  | setConnKey (conn : Nat) (key : RSAKey)
  /-- `memcpy(conn->Pin, a->Pin, count)`. -/
  | setConnPin (conn : Nat) (pin : Bytes) (count : Nat)
  /-- The write of `conn->USERID`. -/
  | setConnUserId (conn : Nat) (userId : Bytes)
  /-- `conn->USERKEY_ID = …`. -/
  | setConnUserKeyId (conn : Nat) (id : Int)
  /-- `conn->info[0] = 'Y'`. -/
  | setConnSignedIn (conn : Nat)
  /-- `conn->info[0] == 'Y'`. -/
  | connSignedIn (conn : Nat)
  /-- `CONNHANDLE->Pin`. -/
  | connPin (conn : Nat)
  /-- The increment of `SeqNum` with its wrap from 127 to 1; the response is the value sent. -/
  | nextSeqNum (conn : Nat)
  /-- `SyncSend` or `send`. -/
  | send (socket : Nat) (frame : Frame)
  /-- `send` to the top server. -/
  | sendTop (packet : UserPacket)
  /-- `closesocket`. -/
  | closeSocket (socket : Nat)
  /-- `FindOnlineUserOrIot`. -/
  | findOnline (kind : Kind) (lookup : Lookup)
  /-- `delete_out_user`, by id and socket. -/
  | deleteOutUser (userId : Bytes) (socket : Nat)
  /-- `newOnlineUserOrIotDev`. -/
  | newOnlineUserOrIotDev (a : CLN)
  /-- `FindRegisterUserOrIotNode`. -/
  | findRegister (kind : Kind) (lookup : Lookup)
  /-- `Check_Id_Pwd`. -/
  | checkIdPwd (n : Int) (userId userPassword : Bytes)
  /-- `RegistedUserHead->next` or `RegistedIotHead->next`. -/
  | registedHead (kind : Kind)
  /-- `AddtoLocal`. -/
  | addtoLocal (entry : Entry)
  /-- The password of the first registered user of a name. -/
  | setRegisterPassword (userId userPassword : Bytes)
  /-- `pthread_mutex_lock` of a registered list. -/
  | lockMute (kind : Kind)
  /-- `pthread_mutex_unlock` of a registered list. -/
  | unlockMute (kind : Kind)
  /-- `get_db_connect`, NULL or the node's index. -/
  | getDbConnect
  /-- `release_node`. -/
  | releaseNode (node : Nat)
  /-- `mysql_real_query`. -/
  | realQuery (node : Nat) (statement : Statement)
  /-- `mysql_store_result` and its rows, or NULL. -/
  | storeResult (node : Nat)
  /-- `mysql_affected_rows`. -/
  | affectedRows (node : Nat)
  /-- `InitRSA`. -/
  | initRSA
  /-- `generateRandIntStr` of six digits. -/
  | randomPin
  /-- `strftime` of today. -/
  | today
  /-- `system`. -/
  | system (cmd : Bytes)
  /-- An uninitialised `int` of a local record. -/
  | uninitialisedInt
  /-- An uninitialised array of a local record. -/
  | uninitialisedText
  deriving DecidableEq, Repr

/-- The response of each operation. -/
def Op.Res : Op → Type
  | .fault => Empty
  | .connSignedIn _ => Bool
  | .connPin _ | .randomPin | .today | .uninitialisedText => Bytes
  | .nextSeqNum _ => UInt8
  | .send _ _ | .sendTop _ | .deleteOutUser _ _ | .newOnlineUserOrIotDev _ | .checkIdPwd _ _ _
  | .addtoLocal _ | .affectedRows _ | .uninitialisedInt => Int
  | .findOnline _ _ | .findRegister _ _ | .registedHead _ => Option User
  | .getDbConnect => Option Nat
  | .realQuery _ _ => QueryResult
  | .storeResult _ => Option (List Row)
  | .initRSA => RSAKey
  | _ => Unit

/-- A handler. -/
abbrev Handler := Prog Op Op.Res

/-- One operation as a program. -/
def perform (op : Op) : Handler op.Res := .call op .ret

/-- An operation and what continues with its response. -/
@[simp]
theorem perform_bind {α : Type} (op : Op) (next : op.Res → Handler α) :
    (perform op >>= next) = .call op next := rfl

/-- An operation with its response. -/
abbrev Happening := Event Op Op.Res

/-- A response of any operation. -/
inductive Answer
  | unit
  | flag (value : Bool)
  | byte (value : UInt8)
  | int (value : Int)
  | bytes (value : Bytes)
  | found (value : Option User)
  | node (value : Option Nat)
  | query (value : QueryResult)
  | rows (value : Option (List Row))
  | key (value : RSAKey)
  deriving DecidableEq, Repr

/-- An answer at the type of an operation's response. -/
def Op.read : (op : Op) → Answer → Option op.Res
  | .connSignedIn _, .flag value => some value
  | .connPin _, .bytes value | .randomPin, .bytes value | .today, .bytes value
  | .uninitialisedText, .bytes value => some value
  | .nextSeqNum _, .byte value => some value
  | .send _ _, .int value | .sendTop _, .int value | .deleteOutUser _ _, .int value
  | .newOnlineUserOrIotDev _, .int value | .checkIdPwd _ _ _, .int value
  | .addtoLocal _, .int value | .affectedRows _, .int value
  | .uninitialisedInt, .int value => some value
  | .findOnline _ _, .found value | .findRegister _ _, .found value
  | .registedHead _, .found value => some value
  | .getDbConnect, .node value => some value
  | .realQuery _ _, .query value => some value
  | .storeResult _, .rows value => some value
  | .initRSA, .key value => some value
  | .decrementTasks _, .unit | .freeNode, .unit | .setConnKey _ _, .unit
  | .setConnPin _ _ _, .unit | .setConnUserId _ _, .unit | .setConnUserKeyId _ _, .unit
  | .setConnSignedIn _, .unit | .closeSocket _, .unit | .setRegisterPassword _ _, .unit
  | .lockMute _, .unit | .unlockMute _, .unit | .releaseNode _, .unit
  | .system _, .unit => some ()
  | _, _ => none

/-- The happenings and the result of a handler under given answers. -/
def answering {α : Type} (handler : Handler α) (answers : List Answer) :
    Option (List Happening × α) := handler.replay Op.read answers

/-- What happens under given answers is a path. -/
theorem answering_path {α : Type} (handler : Handler α) (answers : List Answer)
    {trace : List Happening} {result : α}
    (answered : answering handler answers = some (trace, result)) :
    handler.Path trace result := Prog.replay_path answered

end UubangIot
