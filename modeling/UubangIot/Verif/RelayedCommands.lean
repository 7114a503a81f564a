import Mathlib.Data.List.Find
import UubangIot.Server.Directory
import UubangIot.Verif.TopServerPackets

/-!
# Commands to devices here and on other servers

A device names another by its key. When that one is online here, the command goes to its socket; when
it is not, the command goes through the top server under the id that is registered for the key, and
the server that gets it sends it on. Both ways end in the same frame but for the sequence number: the
command has room in a packet, in a record and in a frame, because its two fields were cut from 200
bytes together with a third.
-/

namespace UubangIot

open Effect Effect.Prog Transition

/-! ## What a handler sends -/

/-- The frames sent on sockets. -/
def deliveries (trace : List Happening) : List (Nat × Frame) :=
  trace.filterMap fun happening =>
    match happening.1 with
    | .send socket frame => some (socket, frame)
    | _ => none

/-- The packets sent to the top server. -/
def relays (trace : List Happening) : List UserPacket :=
  trace.filterMap fun happening =>
    match happening.1 with
    | .sendTop packet => some packet
    | _ => none

/-- A server answers with its lists and the PINs of its connections. -/
structure Serves (directory : Directory) (pins : Nat → Bytes) (trace : List Happening) : Prop where
  /-- The lists answer. -/
  lists : directory.Answers trace
  /-- The connections answer. -/
  pins : ∀ conn pin, ⟨.connPin conn, pin⟩ ∈ trace → pin = pins conn

/-- Two servers know the devices under the same keys and ids, of at most eleven characters. -/
structure Agree (origin other : Directory) : Prop where
  /-- A key and an id name the same device. -/
  names : ∀ registered ∈ origin.registered.iots.nodes, ∀ node ∈ other.online.iots.nodes,
    registered.userKeyId = node.userKeyId ↔ streq registered.userId node.userId = true
  /-- An id fits into its field. -/
  short : ∀ registered ∈ origin.registered.iots.nodes, strlen registered.userId ≤ 11

variable {directory : Directory} {pins : Nat → Bytes} {trace rest : List Happening}

/-- A search for somebody online answers with what the list holds. -/
theorem Serves.findOnline {kind : Kind} {lookup : Lookup} {found : Option User}
    (serves : Serves directory pins (⟨.findOnline kind lookup, found⟩ :: rest)) :
    found = directory.online.find kind lookup ∧ Serves directory pins rest := by
  obtain ⟨same, later⟩ := serves.lists.findOnline
  exact ⟨same, later, fun conn pin member => serves.pins conn pin (.tail _ member)⟩

/-! ## The command -/

/-- The fields and their delimiters are among the bytes that were split. -/
theorem splitLoop_length (delim : UInt8) (field bytes : Bytes) :
    ((splitLoop delim field bytes).map fun cut => cut.length + 1).sum ≤
      field.length + bytes.length := by
  induction bytes generalizing field with
  | nil => exact Nat.zero_le _
  | cons c bytes ih =>
    rw [splitLoop]
    split
    · have later := ih []
      rw [List.length_nil] at later
      rw [List.map_cons, List.sum_cons, List.length_reverse, List.length_cons]
      omega
    · have later := ih (c :: field)
      rw [List.length_cons] at later
      rw [List.length_cons]
      omega

variable {data target first second : Bytes} {others : List Bytes}

/-- A command has room in a frame. -/
theorem command_length (split : strSplit data 200 underscore = target :: first :: second :: others) :
    (command first second).length ≤ 199 := by
  have bound := splitLoop_length underscore [] (data.take 200)
  have size : (data.take 200).length ≤ 200 := List.length_take_le _ _
  rw [← strSplit, split] at bound
  simp only [List.map_cons, List.sum_cons, List.length_nil] at bound
  have firstLength := strlen_le first
  have secondLength := strlen_le second
  rw [strlen] at firstLength secondLength
  simp only [command, List.length_append, List.length_cons, List.length_nil]
  omega

/-- A command is a text. -/
theorem command_plain : 0 ∉ command first second := by
  simp [command, zero_not_mem_cstr, underscore]

/-- A command has no terminator within it. -/
theorem cstr_command : cstr (command first second) = command first second :=
  cstr_of_plain command_plain

/-! ## The two frames -/

/-- A text and the zero bytes of its array take the same place in a larger one. -/
theorem padTo_append_zeros (size count : Nat) (source : Bytes) :
    padTo size (source ++ zeros count) = padTo size source := by
  simp only [padTo, zeros, List.append_assoc, ← List.replicate_add, List.take_append,
    List.take_replicate]
  congr 2
  omega

/-- The payload that is made of a received command. -/
theorem relayedPayLoad_eq {received pin : Bytes} {message : Bytes} (plain : 0 ∉ message)
    (short : message.length ≤ 200) (front : received.take 200 = padTo 200 message) :
    relayedPayLoad received pin =
      encrypt message message.length pin ++ zeros (200 - message.length) := by
  have array : (received.take 200 ++ [0]).take 200 = message ++ zeros (200 - message.length) := by
    rw [front, List.take_left' (padTo_length 200 message), padTo_eq short]
  have size : strlen (message ++ zeros (200 - message.length)) = message.length := by
    rw [strlen, cstr_append_zeros plain]
  rw [relayedPayLoad, array, encryptText, size, List.drop_left, encrypt, encrypt, List.take_left,
    List.take_length]

/-- The frames differ in the sequence number only. -/
theorem frames_agree (opCode payLoad : Bytes) (seqNum : UInt8) (count : Nat) :
    (IotPacket.mk opCode seqNum payLoad).bytes.set 3 0 =
      (IotPacket.mk opCode 0 (payLoad ++ zeros count)).bytes.set 3 0 := by
  have size := padTo_length 3 opCode
  simp only [IotPacket.bytes, padTo_append_zeros, List.append_assoc]
  rw [List.set_append_right 3 0 size.le, List.set_append_right 3 0 size.le, size]
  rfl

/-! ## The record between the servers -/

/-- `tmpw`, the record a command for a device elsewhere is sent from. -/
def commandRecord (target first second : Bytes) (registered : User) : CLN :=
  { CLN.zero with
    checkcode := strcpy (zeros 18) (text "00")
    data := strcpy (zeros 513) (command first second)
    userKeyId := atoi target
    talktoId := strcpy (zeros 12) registered.userId }

/-- The texts that opcode 8 relays. -/
def commandPacket (first second : Bytes) (registered : User) : UserPacket :=
  { checkcode := text "00"
    data := command first second
    talktoId := cstr registered.userId }

variable {registered : User}

/-- The texts of the relayed record are those of its packet. -/
theorem commandRecord_texts (target first second : Bytes) :
    (commandRecord target first second registered).texts = commandPacket first second registered := by
  simp only [CLN.texts, commandRecord, cstr_strcpy, cstr_command]
  rfl

/-- Its texts are terminated within their arrays. -/
theorem commandRecord_sendable (target : Bytes) (fits : (command first second).length ≤ 199)
    (short : strlen registered.userId ≤ 11) :
    (commandRecord target first second registered).Sendable := by
  have zeroed (size : Nat) : (zeros size).length = size := List.length_replicate
  have copied {source : Bytes} {size : Nat} (room : strlen source < size) :
      Terminated (strcpy (zeros size) source) size := by
    have ends := terminated_strcpy (room.trans_eq (zeroed size).symm)
    rwa [zeroed] at ends
  have room : strlen (command first second) < 513 := by
    rw [strlen, cstr_command]
    omega
  constructor
  · exact copied (by decide)
  · exact copied room
  · exact terminated_zeros 11
  · exact terminated_zeros 32
  · exact copied (by omega)
  · exact terminated_zeros 32
  · exact terminated_zeros 99

/-- What the other server makes of the packet. -/
theorem commandPacket_received (fits : (command first second).length ≤ 199)
    (short : strlen registered.userId ≤ 11) {received : CLN}
    (decoded : received = receiveMsgFromTopServer (commandPacket first second registered).wire) :
    topOpCode received.checkcode = 0 ∧ cstr received.talktoId = cstr registered.userId ∧
      received.data.take 200 = padTo 200 (command first second) := by
  have sized := (commandPacket first second registered).arrays_sized
  rw [decoded, UserPacket.wire, receiveMsgFromTopServer_eq sized]
  refine ⟨?_, ?_, ?_⟩
  · exact (by decide +kernel : topOpCode ((padTo 18 (text "00")).take 17 ++ [0]) = 0)
  · change cstr ((padTo 12 (cstr registered.userId)).take 11 ++ [0]) = _
    rw [cstr_snoc_zero, take_padTo, cstr_padTo short]
  · change ((padTo 513 (command first second)).take 512 ++ [0]).take 200 = _
    rw [take_padTo, List.take_append_of_le_length (by rw [padTo_length]; omega), padTo, padTo,
      List.take_take, List.take_append, List.take_append, zeros, zeros, List.take_replicate,
      List.take_replicate]
    congr 2
    omega

/-! ## The two ways -/

variable {a : CLN}

/-- Opcode 8 on a connection that is signed in. -/
theorem iotTalk_signedSend (code : atoi a.checkcode = 8) (signed : a.signedIn = true) :
    iotTalk a = iotSend a := by
  rw [iotTalk, code]
  exact if_pos signed

/-- A reply is one frame on the socket it is for. -/
theorem sendOpBack_deliveries {opCode : String} {payLoad : Bytes}
    (path : (sendOpBack a opCode payLoad).Path trace ()) :
    ∃ seqNum, deliveries trace = [(a.socket, .iot ⟨text opCode, seqNum, payLoad⟩)] := by
  obtain ⟨seqNum, _, rfl, len, _, rfl, path⟩ := path
  refine ⟨seqNum, ?_⟩
  dsimp only [Prog.bind] at path
  split at path
  · obtain ⟨_, _, rfl, rfl, -⟩ := path
    rfl
  · obtain ⟨rfl, -⟩ := path
    rfl

/-- The command for a device that is online here. -/
theorem iotSend_here {near : User}
    (split : strSplit a.decrypted.data 200 underscore = target :: first :: second :: others)
    (online : directory.online.find .iot (.key (atoi target)) = some near)
    (path : (iotSend a).Path trace ()) (serves : Serves directory pins trace) :
    ∃ seqNum, deliveries trace = [(near.userSocket, .iot ⟨text "00", seqNum,
      encrypt (command first second) (command first second).length (pins near.connHandle)⟩)] := by
  rw [iotSend, split] at path
  obtain ⟨found, _, rfl, path⟩ := path
  obtain ⟨same, later⟩ := serves.findOnline
  obtain rfl := same.trans online
  obtain ⟨pin, rest, rfl, path⟩ := path
  have same : pin = pins near.connHandle := later.pins _ pin List.mem_cons_self
  subst same
  exact sendOpBack_deliveries path

/-- The command for one that is not. -/
theorem iotSend_elsewhere
    (split : strSplit a.decrypted.data 200 underscore = target :: first :: second :: others)
    (offline : directory.online.find .iot (.key (atoi target)) = none)
    (known : directory.registered.find .iot (.key (atoi target)) = some registered)
    (path : (iotSend a).Path trace ()) (serves : Serves directory pins trace) :
    deliveries trace = [] ∧ relays trace = [commandPacket first second registered] := by
  rw [iotSend, split] at path
  obtain ⟨found, _, rfl, path⟩ := path
  obtain ⟨same, later⟩ := serves.findOnline
  obtain rfl := same.trans offline
  obtain ⟨found, rest, rfl, path⟩ := path
  obtain ⟨same, -⟩ := later.lists.findRegister
  obtain rfl := same.trans known
  obtain ⟨len, _, rfl, rfl, -⟩ := path
  exact ⟨rfl, rfl⟩

/-- What the other server sends on. -/
theorem handleTopServerMsg_command {there : User} {freed : Bool} (code : topOpCode a.checkcode = 0)
    (online : directory.online.find .iot (.name a.talktoId) = some there)
    (path : (handleTopServerMsg a).Path trace freed) (serves : Serves directory pins trace) :
    deliveries trace = [(there.userSocket,
      .iot ⟨text "00", 0, relayedPayLoad a.data (pins there.connHandle)⟩)] := by
  rw [handleTopServerMsg, code] at path
  obtain ⟨found, _, rfl, path⟩ := path
  obtain ⟨same, later⟩ := serves.findOnline
  obtain rfl := same.trans online
  obtain ⟨pin, _, rfl, len, _, rfl, path⟩ := path
  have same : pin = pins there.connHandle := later.pins _ pin List.mem_cons_self
  subst same
  dsimp only [Prog.bind] at path
  split at path
  · obtain ⟨_, _, rfl, rfl, -⟩ := path
    rfl
  · obtain ⟨rfl, -⟩ := path
    rfl

/-- Servers that agree on the devices find the one by its id that the other knows by its key. -/
theorem Agree.find {origin other : Directory} (agree : Agree origin other) {key : Int}
    {talktoId : Bytes} (known : origin.registered.find .iot (.key key) = some registered)
    (named : cstr talktoId = cstr registered.userId) :
    other.online.find .iot (.name talktoId) = other.online.find .iot (.key key) := by
  have member : registered ∈ origin.registered.iots.nodes := List.mem_of_find?_eq_some known
  have keyed : key = registered.userKeyId := by
    have matching := List.find?_some known
    simpa [Lookup.matches] using matching
  have same (node : User) (present : node ∈ other.online.iots.nodes) :
      (Lookup.name talktoId).matches node = (Lookup.key key).matches node := by
    have names := agree.names registered member node present
    rw [Bool.eq_iff_iff]
    simp only [Lookup.matches, decide_eq_true_eq, keyed, names, streq, named]
  exact List.find?_congr same

/-- A device gets the same frame for a command from its own server and from another, but for the
sequence number. -/
theorem relayed_command_agrees (a : CLN) (code : atoi a.checkcode = 8) (signed : a.signedIn = true)
    (target first second : Bytes) (others : List Bytes)
    (split : strSplit a.decrypted.data 200 underscore = target :: first :: second :: others)
    (here origin other : Directory) (herePins originPins otherPins : Nat → Bytes)
    (agree : Agree origin other) (near registered there : User)
    (online : here.online.find .iot (.key (atoi target)) = some near)
    (offline : origin.online.find .iot (.key (atoi target)) = none)
    (known : origin.registered.find .iot (.key (atoi target)) = some registered)
    (away : other.online.find .iot (.key (atoi target)) = some there)
    (samePin : herePins near.connHandle = otherPins there.connHandle)
    (direct relayed : List Happening)
    (directPath : (iotTalk a).Path direct ()) (directServes : Serves here herePins direct)
    (relayedPath : (iotTalk a).Path relayed ()) (relayedServes : Serves origin originPins relayed) :
    ∃ frame packet, deliveries direct = [(near.userSocket, .iot frame)] ∧
      relays relayed = [packet] ∧
      topServerPacket (commandRecord target first second registered) = some packet.arrays ∧
      ∀ (forwarded : List Happening) (freed : Bool),
        (handleTopServerMsg (receiveMsgFromTopServer packet.wire)).Path forwarded freed →
        Serves other otherPins forwarded →
        ∃ frame', deliveries forwarded = [(there.userSocket, .iot frame')] ∧
          frame.bytes.set 3 0 = frame'.bytes.set 3 0 := by
  rw [iotTalk_signedSend code signed] at directPath relayedPath
  have fits := command_length split
  have short := agree.short registered (List.mem_of_find?_eq_some known)
  obtain ⟨seqNum, delivered⟩ := iotSend_here split online directPath directServes
  obtain ⟨-, sent⟩ := iotSend_elsewhere split offline known relayedPath relayedServes
  refine ⟨⟨text "00", seqNum, encrypt (command first second) (command first second).length
    (herePins near.connHandle)⟩, commandPacket first second registered, delivered, sent, ?_, ?_⟩
  · rw [topServerPacket_eq (commandRecord_sendable target fits short), commandRecord_texts]
  · generalize decoded : receiveMsgFromTopServer _ = received
    intro forwarded freed path serves
    obtain ⟨code, named, data⟩ := commandPacket_received fits short decoded.symm
    have found := (agree.find known named).trans away
    have delivered := handleTopServerMsg_command code found path serves
    rw [relayedPayLoad_eq command_plain (by omega) data, ← samePin] at delivered
    exact ⟨_, delivered, frames_agree _ _ _ _⟩

/-- A request that switches the device with key 5 on. -/
def switchRequest : CLN :=
  { CLN.zero with
    checkcode := text "08" ++ zeros 16
    data := text "5_1_on_" ++ zeros 506
    info0 := yes }

/-- That device. -/
def lamp : User := ⟨3, text "lamp", 5, [], [], 7, true⟩

/-- A server it is online on. -/
def lampOnline : Directory := ⟨⟨⟨0, []⟩, ⟨1, [lamp]⟩⟩, ⟨⟨0, []⟩, ⟨1, [lamp]⟩⟩⟩

/-- A server that only knows it. -/
def lampKnown : Directory := ⟨⟨⟨0, []⟩, ⟨1, [lamp]⟩⟩, .empty⟩

/-- The command sent to the device. -/
def lampCommanded : List Happening :=
  [⟨.findOnline .iot (.key 5), some lamp⟩, ⟨.connPin 7, text "123456"⟩, ⟨.nextSeqNum 0, (1 : UInt8)⟩,
    ⟨.send 3 (.iot ⟨text "00", 1, encrypt (command (text "1") (text "on")) 5 (text "123456")⟩),
      (205 : Int)⟩]

/-- The command sent to the top server. -/
def lampRelayed : List Happening :=
  [⟨.findOnline .iot (.key 5), (none : Option User)⟩, ⟨.findRegister .iot (.key 5), some lamp⟩,
    ⟨.sendTop (commandPacket (text "1") (text "on") lamp), (721 : Int)⟩]

/-- The fields of the request. -/
theorem switchRequest_split : strSplit switchRequest.decrypted.data 200 underscore =
    [text "5", text "1", text "on"] := by
  decide +kernel

/-- The lamp is online here. -/
theorem lampCommanded_path : (iotTalk switchRequest).Path lampCommanded () := by
  rw [iotTalk_signedSend (by decide +kernel) rfl, iotSend, switchRequest_split]
  exact ⟨_, _, rfl, _, _, rfl, _, _, rfl, _, _, rfl, rfl, rfl⟩

/-- The lamp is online on another server. -/
theorem lampRelayed_path : (iotTalk switchRequest).Path lampRelayed () := by
  rw [iotTalk_signedSend (by decide +kernel) rfl, iotSend, switchRequest_split]
  exact ⟨_, _, rfl, _, _, rfl, _, _, rfl, rfl, rfl⟩

/-- The lamp gets its command the same way from both servers. -/
theorem relayed_command_agrees_lamp : ∃ frame packet,
    deliveries lampCommanded = [(3, .iot frame)] ∧ relays lampRelayed = [packet] ∧
      topServerPacket (commandRecord (text "5") (text "1") (text "on") lamp) = some packet.arrays ∧
      ∀ (forwarded : List Happening) (freed : Bool),
        (handleTopServerMsg (receiveMsgFromTopServer packet.wire)).Path forwarded freed →
        Serves lampOnline (fun _ => text "123456") forwarded →
        ∃ frame', deliveries forwarded = [(3, .iot frame')] ∧
          frame.bytes.set 3 0 = frame'.bytes.set 3 0 := by
  have agree : Agree lampKnown lampOnline := by
    constructor
    · intro registered known node present
      cases List.mem_singleton.mp known
      cases List.mem_singleton.mp present
      exact iff_of_true rfl (by decide +kernel)
    · intro registered known
      cases List.mem_singleton.mp known
      decide
  have here : Serves lampOnline (fun _ => text "123456") lampCommanded := by
    refine ⟨(by decide +kernel : Option.isSome _ = true), ?_⟩
    intro conn pin member
    simp only [lampCommanded, List.mem_cons, List.not_mem_nil, or_false] at member
    rcases member with same | same | same | same <;> cases same
    rfl
  have origin : Serves lampKnown (fun _ => text "123456") lampRelayed := by
    refine ⟨(by decide +kernel : Option.isSome _ = true), ?_⟩
    intro conn pin member
    simp only [lampRelayed, List.mem_cons, List.not_mem_nil, or_false] at member
    rcases member with same | same | same <;> cases same
  exact relayed_command_agrees switchRequest (by decide +kernel) rfl (text "5") (text "1")
    (text "on") [] switchRequest_split lampOnline lampKnown lampOnline _ _ _ agree lamp lamp lamp
    (by decide +kernel) (by decide +kernel) (by decide +kernel) (by decide +kernel) rfl
    lampCommanded lampRelayed lampCommanded_path here lampRelayed_path origin

end UubangIot
