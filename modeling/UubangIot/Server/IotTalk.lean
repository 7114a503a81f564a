import UubangIot.Server.Session

/-!
# Device requests

`IoT_Talk.c`: one handler for each opcode. The handlers return nothing that `talk` uses.
-/

namespace UubangIot

open Effect RsaUtils

/-- One `int` of a byte array, least significant byte first; bytes past the end are zero. -/
def leInt (source : Bytes) (index : Nat) : Int :=
  let byte (offset : Nat) : Nat := (source.getD (4 * index + offset) 0).toNat
  (Int.ofNat (byte 0 + 256 * byte 1 + 65536 * byte 2 + 16777216 * byte 3)).toInt32.toInt

/-- The bytes of an `int`. -/
def intBytes (value : Int) : Bytes :=
  (List.range 4).map fun i => (value / 256 ^ i % 256).toNat.toUInt8

/-- The zeroed `int` array that the first bytes of a field are copied over. -/
def cryptogram (source : Bytes) (copied count : Nat) : List Int :=
  (List.range count).map (leInt (source.take copied))

/-- The key a request's password is decoded with. -/
def CLN.passwordKey (a : CLN) : RSAKey := a.key

/-- Decode `len` blocks of a field over the front of an array. -/
def decodeOver (key : RSAKey) (target source : Bytes) (len : Nat) : Option Bytes :=
  let bytes := key.encryptBlockBytes.toNat
  (decodeMessage len bytes (cryptogram source (4 * len * bytes) 100) key.privateKey
    key.commonKey).map fun characters =>
      memcpy target (characters.map fun c => c.toInt8.toUInt8) characters.length

/-- The array `encodeMessage` fills with a PIN, as bytes: 24 for each character of a block. -/
def encodePin (key : RSAKey) (pin : Bytes) : Option Bytes :=
  let bytes := key.encryptBlockBytes.toNat
  (encodeMessage 6 bytes (pin.map fun c => c.toInt8.toInt) key.privateKey
    key.commonKey).map fun blocks =>
      ((blocks.map intBytes).flatten ++ zeros 100).take (24 * bytes)

/-- Go on with a computed value, or with undefined arithmetic. -/
def defined {α β : Type} (value : Option α) (next : α → Handler β) : Handler β :=
  match value with
  | none => faulty
  | some value => next value

/-- The routines of the handlers that write into the arrays of a request or of a frame. Each goes on
with the array it has written, or with nothing where it is undefined. -/
class Writers where
  /-- `encodeMessage` of a PIN and the copy of its blocks. -/
  encode : {α : Type} → RSAKey → Bytes → (Bytes → Handler α) → Handler α
  /-- `decodeMessage` of `len` blocks of a field over the front of an array. -/
  decode : {α : Type} → RSAKey → Bytes → Bytes → Nat → (Bytes → Handler α) → Handler α
  /-- `sprintf(array, "%s", source)`. -/
  print : {α : Type} → Bytes → Bytes → (Bytes → Handler α) → Handler α
  /-- `Stringcut(source, 0, 199, payLoad)` into `payLoad[200]`. -/
  cut : {α : Type} → Bytes → (Bytes → Handler α) → Handler α

/-- The routines of the source; what they write behind an array is not in it. -/
instance Writers.source : Writers where
  encode key pin next := defined (encodePin key pin) next
  decode key target source len next := defined (decodeOver key target source len) next
  print array source next := next (strcpy array source)
  cut source next := next ((source.take 200 ++ [0]).take 200)

section

variable {α : Type}

/-- Encoding with the source's routine. -/
@[simp]
theorem source_encode (key : RSAKey) (pin : Bytes) (next : Bytes → Handler α) :
    Writers.encode key pin next = defined (encodePin key pin) next := rfl

/-- Decoding with the source's routine. -/
@[simp]
theorem source_decode (key : RSAKey) (target source : Bytes) (len : Nat)
    (next : Bytes → Handler α) : Writers.decode key target source len next =
      defined (decodeOver key target source len) next := rfl

/-- Printing with the source's routine. -/
@[simp]
theorem source_print (array source : Bytes) (next : Bytes → Handler α) :
    Writers.print array source next = next (strcpy array source) := rfl

/-- Cutting with the source's routine. -/
@[simp]
theorem source_cut (source : Bytes) (next : Bytes → Handler α) :
    Writers.cut source next = next ((source.take 200 ++ [0]).take 200) := rfl

end

/-- `SEND_OP_BACK`. -/
def sendOpBack (a : CLN) (opCode : String) (payLoad : Bytes) : Handler Unit := do
  let frame ← iotFrame a (text opCode) payLoad
  let _ ← sendRow a frame

/-- Opcode 1 — a new key, stored before it is announced. -/
def iotRsa (a : CLN) : Handler Unit := do
  let _ ← perform .initRSA
  let key ← perform .initRSA
  perform (.setConnKey a.conn key)
  sendOpBack a "01" (announcement key)

/-- Opcode 2 — a new PIN. -/
def iotPin [Writers] (a : CLN) : Handler Unit := do
  if a.key.encryptBlockBytes = 0 then return ()
  else
    let pin ← perform .randomPin
    perform (.setConnPin a.conn pin 6)
    Writers.encode a.key pin fun payLoad =>
      sendOpBack a "02" (payLoad ++ [underscore])

/-- `a->USERKEY_ID` and `a->conn->USERKEY_ID` from the registered users, searched twice. -/
def refreshKeyId (a : CLN) : Handler Unit := do
  match ← perform (.findRegister .user (.name a.userId)) with
  | none => return ()
  | some _ =>
    match ← perform (.findRegister .user (.name a.userId)) with
    | none => faulty
    | some registered => perform (.setConnUserKeyId a.conn registered.userKeyId)

/-- Opcode 3 after the password is decoded: register, sign in, mark the connection. -/
def iotSignIn (a : CLN) (name : Bytes) : Handler Unit := do
  let _ ← register a 1
  let result ← signIn a
  if result = 1 then
    perform (.setConnSignedIn a.conn)
    perform (.setConnUserId a.conn (cstr name ++ [0]))
    refreshKeyId a
    sendOpBack a "03" []
  else sendOpBack a "23" []

/-- Opcode 3 — register and sign in a device. -/
def iotRegSign [Writers] (a : CLN) : Handler Unit := do
  let signedIn : Bool ← perform (.connSignedIn a.conn)
  if signedIn = false ∧ a.key.encryptBlockBytes ≠ 0 then
    match strSplit a.data 200 underscore with
    | name :: secret :: _ =>
      Writers.decode a.passwordKey a.userPassword secret 7 fun userPassword =>
        Writers.print a.userId name fun userId => iotSignIn { a with userPassword, userId } name
    | _ => return ()
  else sendOpBack a "23" []

/-- `data` decrypted in place. -/
def CLN.decrypted (a : CLN) : CLN :=
  { a with data := decrypt a.data (strlen a.data) a.pin ++ a.data.drop (strlen a.data) }

/-- One pair of opcode 4: class 0 is a status, 1 and 3 carry a text, others are skipped. -/
def iotUpdatePair (a : CLN) (evtClass : Int) (value : Bytes) : Handler Unit := do
  if evtClass = 0 then
    let stored ← iotUpdateStatus { a with data := strcpy a.data (text "status") } 0 (atoi value)
    sendOpBack a (if stored ≠ 0 then "04" else "24") []
  else if evtClass = 1 ∨ evtClass = 3 then
    let stored ← iotUpdateStatus { a with data := strcpy a.data value } evtClass 0
    sendOpBack a (if stored ≠ 0 then "04" else "24") []
  else return ()

/-- `while(i<OutStrSize)` of opcode 4. -/
def iotUpdateLoop (a : CLN) : List Bytes → Handler Unit
  | kind :: value :: rest => do
    iotUpdatePair a (atoi kind) value
    iotUpdateLoop a rest
  | _ => return ()

/-- Opcode 4 — store status values. -/
def iotUpdate (a : CLN) : Handler Unit :=
  let fields := strSplit a.decrypted.data 200 underscore
  if fields.length % 2 ≠ 0 then return () else iotUpdateLoop a.decrypted fields

/-- Opcode 5 — the first stored command of a class, deleted once read. -/
def iotRead (a : CLN) : Handler Unit := do
  match strSplit a.decrypted.data 200 underscore with
  | [] => return ()
  | devclass :: _ =>
    let (found, a) ← iotReadCmd a.decrypted (atoi devclass) false
    if found = 0 then sendOpBack a "25" []
    else
      let _ ← iotReadCmd a (atoi devclass) true
      sendOpBack a "05" (encrypt a.data (strlen a.data) a.pin)

/-- `while(i++<OutStrSize)` of opcode 7. -/
def iotReadLoop (a : CLN) : List Bytes → Handler Unit
  | [] => return ()
  | field :: rest => do
    let _ ← iotGetIotData a (atoi field)
    iotReadLoop a rest

/-- A command text of two fields. -/
def command (first second : Bytes) : Bytes :=
  cstr first ++ underscore :: cstr second ++ [underscore]

/-- Opcode 8 — send a command to another device, through the top server when it is not
online here. -/
def iotSend (a : CLN) : Handler Unit := do
  match strSplit a.decrypted.data 200 underscore with
  | target :: first :: second :: _ =>
    match ← perform (.findOnline .iot (.key (atoi target))) with
    | none =>
      match ← perform (.findRegister .iot (.key (atoi target))) with
      | none => faulty
      | some registered =>
        let _ ← send2OnlineUserViaTopServer
          { checkcode := text "00", data := command first second
            talktoId := cstr registered.userId }
    | some node =>
      let pin ← perform (.connPin node.connHandle)
      let payLoad := command first second
      sendOpBack { a.decrypted with socket := node.userSocket } "00"
        (encrypt payLoad payLoad.length pin)
  | _ => return ()

/-- Opcode 9 — store a command for another device. -/
def iotStore (a : CLN) : Handler Unit := do
  match strSplit a.decrypted.data 200 underscore with
  | [target, devclass, cmd] =>
    match ← perform (.findRegister .iot (.key (atoi target))) with
    | none => sendOpBack a "29" []
    | some registered =>
      let a := { a.decrypted with talktoId := strcpy a.talktoId registered.userId }
      let stored ← newIotCmdToBeExecute a cmd (atoi devclass)
        (if atoi devclass = 0 then atoi cmd else 0) (text "00:00:00")
      sendOpBack a (if stored = 1 then "09" else "29") []
  | _ => return ()

/-- `a->info[0] == 'Y'` of the request's copy. -/
def CLN.signedIn (a : CLN) : Bool := a.info0 = yes

/-- `if(a->info[0] != 'Y') return 0`. -/
def CLN.whenSignedIn (a : CLN) (handler : Handler Unit) : Handler Unit :=
  if a.signedIn then handler else return ()

/-- `IoTtalk`. -/
def iotTalk [Writers] (a : CLN) : Handler Unit :=
  match atoi a.checkcode with
  | 1 => iotRsa a
  | 2 => iotPin a
  | 3 => iotRegSign a
  | 4 => a.whenSignedIn (iotUpdate a)
  | 5 => a.whenSignedIn (iotRead a)
  | 6 => a.whenSignedIn do let _ ← iotReadSelfSceneCmd a a.userKeyId
  | 7 => a.whenSignedIn (iotReadLoop a (strSplit a.data 200 underscore))
  | 8 => a.whenSignedIn (iotSend a)
  | 9 => a.whenSignedIn (iotStore a)
  | _ => return ()

end UubangIot
