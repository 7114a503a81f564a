import UubangIot.Server.TopServer
import UubangIot.Verif.FreshRequests

/-!
# The packet between two servers

A packet that is built from a record with terminated fields and decoded into a zeroed record gives
back its texts. Each field is printed into a zeroed array of the same size, loses at most its last
byte on the way, and that byte was its terminator.
-/

namespace UubangIot

open CheckedArray

/-! ## Checked writes -/

/-- A text with room for its terminator is printed as `strcpy` does. -/
theorem printInto_eq {target source : Bytes} (room : strlen source < target.length) :
    printInto target source = some (strcpy target source) := by
  have fits : (cstr source ++ [0]).length ≤ target.length := by
    rw [List.length_append, List.length_singleton]
    exact room
  rw [printInto, storeAll_front fits, List.length_append, List.length_singleton, List.append_assoc]
  rfl

/-- A text is printed exactly when there is room for it. -/
theorem printInto_isSome (target source : Bytes) :
    (printInto target source).isSome = true ↔ strlen source < target.length := by
  rw [printInto, storeAll_isSome, List.length_append, List.length_singleton]
  rfl

/-- A copy into an array that has room for it. -/
theorem copyInto_eq {target source : Bytes} {count : Nat} (full : count ≤ source.length)
    (room : count ≤ target.length) : copyInto target source count = some (memcpy target source count) := by
  have size : (source.take count).length = count := by
    rw [List.length_take]
    omega
  rw [copyInto, storeAll_front (by omega), size]
  rfl

/-! ## Texts in zeroed arrays -/

/-- A text that has its place in the array. -/
theorem padTo_eq {source : Bytes} {size : Nat} (short : source.length ≤ size) :
    padTo size source = source ++ zeros (size - source.length) := by
  have rest : (zeros size).take (size - source.length) = zeros (size - source.length) := by
    rw [zeros, List.take_replicate, min_eq_left (Nat.sub_le size source.length)]
    rfl
  rw [padTo, List.take_append, List.take_of_length_le short, rest]

/-- A padded array has its size. -/
theorem padTo_length (size : Nat) (source : Bytes) : (padTo size source).length = size := by
  rw [padTo, List.length_take, List.length_append, zeros, List.length_replicate]
  omega

/-- A text printed into a zeroed array. -/
theorem strcpy_zeros {source : Bytes} {size : Nat} (room : strlen source < size) :
    strcpy (zeros size) source = padTo size (cstr source) := by
  have counted : size - strlen source = size - (strlen source + 1) + 1 := by omega
  rw [padTo_eq room.le, strcpy, zeros, List.drop_replicate]
  change _ = cstr source ++ zeros (size - strlen source)
  rw [counted]
  rfl

/-- The front of a zeroed array. -/
theorem take_padTo (size : Nat) (source : Bytes) :
    (padTo (size + 1) source).take size = padTo size source := by
  rw [padTo, padTo, List.take_take, min_eq_left (Nat.le_succ size), List.take_append,
    List.take_append, zeros, zeros, List.take_replicate, List.take_replicate]
  congr 2
  omega

/-- The text of a zeroed array that holds one. -/
theorem cstr_padTo {source : Bytes} {size : Nat} (short : strlen source ≤ size) :
    cstr (padTo size (cstr source)) = cstr source := by
  rw [padTo_eq short]
  exact cstr_append_zeros (zero_not_mem_cstr source) _

/-! ## The arrays of a packet -/

/-- The arrays have the sizes of the structure. -/
structure UserPacketInterface.Sized (packet : UserPacketInterface) : Prop where
  /-- `checkcode[18]`. -/
  checkcode : packet.checkcode.length = 18
  /-- `USERID[12]`. -/
  userId : packet.userId.length = 12
  /-- `USERPASSWORD[33]`. -/
  userPassword : packet.userPassword.length = 33
  /-- `TalktoID[12]`. -/
  talktoId : packet.talktoId.length = 12
  /-- `REUSERPASSWORD[33]`. -/
  reUserPassword : packet.reUserPassword.length = 33
  /-- `DATA[513]`. -/
  data : packet.data.length = 513
  /-- `save[100]`. -/
  save : packet.save.length = 100

/-- A part of joined arrays. -/
theorem field_append {front middle back : Bytes} {offset size : Nat} (starts : front.length = offset)
    (inside : size ≤ middle.length) : field (front ++ (middle ++ back)) offset size =
      middle.take size := by
  rw [field, ← starts, List.drop_left, List.take_append_of_le_length inside]

variable {packet : UserPacketInterface}

/-- Where the arrays lie in the packet. -/
theorem UserPacketInterface.Sized.field (sized : packet.Sized) :
    (∀ size ≤ 18, UubangIot.field packet.bytes 0 size = packet.checkcode.take size) ∧
      (∀ size ≤ 12, UubangIot.field packet.bytes 18 size = packet.userId.take size) ∧
      (∀ size ≤ 33, UubangIot.field packet.bytes 30 size = packet.userPassword.take size) ∧
      (∀ size ≤ 12, UubangIot.field packet.bytes 63 size = packet.talktoId.take size) ∧
      (∀ size ≤ 33, UubangIot.field packet.bytes 75 size = packet.reUserPassword.take size) ∧
      (∀ size ≤ 513, UubangIot.field packet.bytes 108 size = packet.data.take size) ∧
      ∀ size ≤ 100, UubangIot.field packet.bytes 621 size = packet.save.take size := by
  obtain ⟨checkcode, userId, userPassword, talktoId, reUserPassword, data, save⟩ := sized
  have split (front middle back : Bytes) (same : packet.bytes = front ++ (middle ++ back))
      (size : Nat) (inside : size ≤ middle.length) :
      UubangIot.field packet.bytes front.length size = middle.take size := by
    rw [same]
    exact field_append rfl inside
  refine ⟨?_, ?_, ?_, ?_, ?_, ?_, ?_⟩
  · intro size bound
    have part := split [] packet.checkcode (packet.userId ++ packet.userPassword ++
      packet.talktoId ++ packet.reUserPassword ++ packet.data ++ packet.save)
      (by simp [UserPacketInterface.bytes]) size (by omega)
    simpa using part
  · intro size bound
    have part := split packet.checkcode packet.userId (packet.userPassword ++
      packet.talktoId ++ packet.reUserPassword ++ packet.data ++ packet.save)
      (by simp [UserPacketInterface.bytes]) size (by omega)
    simpa [*] using part
  · intro size bound
    have part := split (packet.checkcode ++ packet.userId) packet.userPassword
      (packet.talktoId ++ packet.reUserPassword ++ packet.data ++ packet.save)
      (by simp [UserPacketInterface.bytes]) size (by omega)
    simpa [*] using part
  · intro size bound
    have part := split (packet.checkcode ++ packet.userId ++ packet.userPassword) packet.talktoId
      (packet.reUserPassword ++ packet.data ++ packet.save)
      (by simp [UserPacketInterface.bytes]) size (by omega)
    simpa [*] using part
  · intro size bound
    have part := split (packet.checkcode ++ packet.userId ++ packet.userPassword ++
      packet.talktoId) packet.reUserPassword (packet.data ++ packet.save)
      (by simp [UserPacketInterface.bytes]) size (by omega)
    simpa [*] using part
  · intro size bound
    have part := split (packet.checkcode ++ packet.userId ++ packet.userPassword ++
      packet.talktoId ++ packet.reUserPassword) packet.data packet.save
      (by simp [UserPacketInterface.bytes]) size (by omega)
    simpa [*] using part
  · intro size bound
    have part := split (packet.checkcode ++ packet.userId ++ packet.userPassword ++
      packet.talktoId ++ packet.reUserPassword ++ packet.data) packet.save []
      (by simp [UserPacketInterface.bytes]) size (by omega)
    simpa [*] using part

/-- A packet has 721 bytes. -/
theorem UserPacketInterface.Sized.length (sized : packet.Sized) : packet.bytes.length = 721 := by
  obtain ⟨checkcode, userId, userPassword, talktoId, reUserPassword, data, save⟩ := sized
  simp [UserPacketInterface.bytes, *]

/-- A packet that was sent is received by its arrays. -/
theorem UserPacketInterface.Sized.ofBytes (sized : packet.Sized) :
    UserPacketInterface.ofBytes packet.bytes = packet := by
  obtain ⟨checkcode, userId, userPassword, talktoId, reUserPassword, data, save⟩ := sized.field
  have whole (array : Bytes) (size : Nat) (full : array.length = size) : array.take size = array :=
    List.take_of_length_le full.le
  rw [UserPacketInterface.ofBytes, checkcode 18 (by omega), userId 12 (by omega),
    userPassword 33 (by omega), talktoId 12 (by omega), reUserPassword 33 (by omega),
    data 513 (by omega), save 100 (by omega), whole _ _ sized.checkcode, whole _ _ sized.userId,
    whole _ _ sized.userPassword, whole _ _ sized.talktoId, whole _ _ sized.reUserPassword,
    whole _ _ sized.data, whole _ _ sized.save]

/-! ## From one server to the other -/

/-- The fields that go into a packet are terminated within their arrays. -/
structure CLN.Sendable (a : CLN) : Prop where
  /-- `checkcode`. -/
  checkcode : Terminated a.checkcode 18
  /-- `data`. -/
  data : Terminated a.data 513
  /-- `USERID`. -/
  userId : Terminated a.userId 12
  /-- `USERPASSWORD`. -/
  userPassword : Terminated a.userPassword 33
  /-- `TalktoID`. -/
  talktoId : Terminated a.talktoId 12
  /-- `REUSERPASSWORD`. -/
  reUserPassword : Terminated a.reUserPassword 33
  /-- `info`. -/
  info : Terminated a.info 100

/-- The texts of a record that go into a packet. -/
def CLN.texts (a : CLN) : UserPacket where
  checkcode := cstr a.checkcode
  userId := cstr a.userId
  userPassword := cstr a.userPassword
  talktoId := cstr a.talktoId
  reUserPassword := cstr a.reUserPassword
  data := cstr a.data
  save := cstr a.info

/-- The arrays of a packet have their sizes. -/
theorem UserPacket.arrays_sized (packet : UserPacket) : packet.arrays.Sized where
  checkcode := padTo_length _ _
  userId := padTo_length _ _
  userPassword := padTo_length _ _
  talktoId := padTo_length _ _
  reUserPassword := padTo_length _ _
  data := padTo_length _ _
  save := by
    rw [UserPacket.arrays, List.length_append, padTo_length]
    rfl

/-- A terminated text is printed into a zeroed array of its size. -/
theorem printInto_zeros {array : Bytes} {size : Nat} (ends : Terminated array size) :
    printInto (zeros size) array = some (padTo size (cstr array)) := by
  have room : strlen array < size := strlen_of_terminated ends
  have sized : strlen array < (zeros size).length := by
    rwa [zeros, List.length_replicate]
  rw [printInto_eq sized, strcpy_zeros room]

/-- The line feed takes the place of the last byte. -/
theorem store_lineFeed (source : Bytes) :
    store (padTo 100 source) 99 lineFeed = some (padTo 99 source ++ [lineFeed]) := by
  have size : (padTo 100 source).length = 100 := padTo_length _ _
  have place : 99 < (padTo 100 source).length := by omega
  rw [store_inside place, List.set_eq_take_append_cons_drop, if_pos place, take_padTo 99,
    List.drop_of_length_le size.le]

/-- The packet of a record holds its texts, and no write leaves its array. -/
theorem topServerPacket_eq {a : CLN} (sendable : a.Sendable) :
    topServerPacket a = some a.texts.arrays := by
  simp only [topServerPacket, UserPacketInterface.zero, printInto_zeros sendable.checkcode,
    printInto_zeros sendable.data, printInto_zeros sendable.reUserPassword,
    printInto_zeros sendable.info, printInto_zeros sendable.talktoId,
    printInto_zeros sendable.userId, printInto_zeros sendable.userPassword, store_lineFeed,
    Option.bind_eq_bind, Option.bind_some, Option.pure_def, UserPacket.arrays, CLN.texts]

/-- The terminator takes the place of the last byte. -/
theorem store_terminator {array : Bytes} {size : Nat} (sized : array.length = size + 1) :
    store array size 0 = some (array.take size ++ [0]) := by
  have place : size < array.length := by omega
  rw [store_inside place, List.set_eq_take_append_cons_drop, if_pos place,
    List.drop_of_length_le sized.le]

/-- What stands before the terminator is copied into an array of the same size. -/
theorem copyInto_terminated {target array : Bytes} {size : Nat} (sized : array.length = size + 1)
    (room : target.length = size + 1) : copyInto target (array.take size ++ [0]) size =
      some (memcpy target (array.take size) size) := by
  have front : (array.take size).length = size := by
    rw [List.length_take]
    omega
  have full : size ≤ (array.take size ++ [0]).length := by
    rw [List.length_append]
    omega
  rw [copyInto_eq full (by omega), memcpy, memcpy, List.take_append_of_le_length front.ge]

/-- The decoder stays within the arrays of a record of the declared sizes. -/
theorem copyPacketChecked_eq (sized : packet.Sized) {a : CLN} (checkcode : a.checkcode.length = 18)
    (data : a.data.length = 513) (userPassword : a.userPassword.length = 33)
    (userId : a.userId.length = 12) (reUserPassword : a.reUserPassword.length = 33)
    (talktoId : a.talktoId.length = 12) (date : a.date.length = 100) :
    copyPacketChecked packet a = some (copyUserPacketInterface2Cln packet.bytes a) := by
  have whole : packet.bytes ++ zeros (721 - packet.bytes.length) = packet.bytes := by
    rw [sized.length]
    exact List.append_nil _
  obtain ⟨atCheckcode, atUserId, atUserPassword, atTalktoId, atReUserPassword, atData, atSave⟩ :=
    sized.field
  simp only [copyPacketChecked, copyUserPacketInterface2Cln, whole,
    store_terminator sized.checkcode, store_terminator sized.data,
    store_terminator sized.userPassword, store_terminator sized.userId,
    store_terminator sized.reUserPassword, store_terminator sized.talktoId,
    store_terminator sized.save, copyInto_terminated sized.checkcode checkcode,
    copyInto_terminated sized.data data, copyInto_terminated sized.userPassword userPassword,
    copyInto_terminated sized.userId userId,
    copyInto_terminated sized.reUserPassword reUserPassword,
    copyInto_terminated sized.talktoId talktoId, copyInto_terminated sized.save date,
    Option.bind_eq_bind, Option.bind_some, Option.pure_def, atCheckcode 17 (by omega),
    atUserId 11 (by omega), atUserPassword 32 (by omega), atTalktoId 11 (by omega),
    atReUserPassword 32 (by omega), atData 512 (by omega), atSave 99 (by omega)]

/-- A zeroed record is blank. -/
theorem CLN.zero_blank : Blank .zero := by
  constructor <;> rfl

/-- The record that is made of a packet. -/
theorem receiveMsgFromTopServer_eq (sized : packet.Sized) :
    receiveMsgFromTopServer packet.bytes =
      { CLN.zero with
        checkcode := packet.checkcode.take 17 ++ [0]
        userId := packet.userId.take 11 ++ [0]
        userPassword := packet.userPassword.take 32 ++ [0]
        talktoId := packet.talktoId.take 11 ++ [0]
        reUserPassword := packet.reUserPassword.take 32 ++ [0]
        data := packet.data.take 512 ++ [0]
        date := packet.save.take 99 ++ [0] } := by
  have read : readable packet.bytes = true := by
    rw [readable, sized.length]
    rfl
  have whole : padded packet.bytes = packet.bytes := by
    rw [padded, sized.length]
    exact List.append_nil _
  have copied : receiveMsgFromTopServer packet.bytes = _ := CLN.zero_blank.copied read
  obtain ⟨atCheckcode, atUserId, atUserPassword, atTalktoId, atReUserPassword, atData, atSave⟩ :=
    sized.field
  rw [whole, atCheckcode 17 (by omega), atUserId 11 (by omega), atUserPassword 32 (by omega),
    atTalktoId 11 (by omega), atReUserPassword 32 (by omega), atData 512 (by omega),
    atSave 99 (by omega)] at copied
  exact copied

/-- What is received is what was sent, and no write of either server leaves its array. -/
theorem top_server_round_trip (a : CLN) (sendable : a.Sendable) : ∃ packet b,
    topServerPacket a = some packet ∧ packet.bytes.length = 721 ∧
      copyPacketChecked (.ofBytes packet.bytes) .zero = some b ∧
      receiveMsgFromTopServer packet.bytes = b ∧
      cstr b.checkcode = cstr a.checkcode ∧ cstr b.data = cstr a.data ∧
      cstr b.userId = cstr a.userId ∧ cstr b.userPassword = cstr a.userPassword ∧
      cstr b.talktoId = cstr a.talktoId ∧ cstr b.reUserPassword = cstr a.reUserPassword ∧
      cstr b.date = cstr a.info := by
  have sized := a.texts.arrays_sized
  have text {array : Bytes} {size : Nat} (ends : Terminated array (size + 1)) :
      cstr ((padTo (size + 1) (cstr array)).take size ++ [0]) = cstr array := by
    have room := strlen_of_terminated ends
    rw [cstr_snoc_zero, take_padTo, cstr_padTo (by omega)]
  refine ⟨a.texts.arrays, receiveMsgFromTopServer a.texts.arrays.bytes,
    topServerPacket_eq sendable, sized.length, ?_, rfl, ?_⟩
  · rw [sized.ofBytes]
    have zeroed (size : Nat) : (zeros size).length = size := List.length_replicate
    exact copyPacketChecked_eq sized (zeroed 18) (zeroed 513) (zeroed 33) (zeroed 12) (zeroed 33)
      (zeroed 12) (zeroed 100)
  · rw [receiveMsgFromTopServer_eq sized]
    refine ⟨text sendable.checkcode, text sendable.data, text sendable.userId,
      text sendable.userPassword, text sendable.talktoId, text sendable.reUserPassword, ?_⟩
    have room := strlen_of_terminated sendable.info
    have front : a.texts.arrays.save.take 99 = padTo 99 (cstr a.info) :=
      List.take_left' (padTo_length 99 _)
    change cstr (a.texts.arrays.save.take 99 ++ [0]) = _
    rw [front, cstr_snoc_zero, cstr_padTo (by omega)]

/-- A record whose id, partner and digests fill their arrays. -/
def crowdedRecord : CLN :=
  { CLN.zero with
    checkcode := List.replicate 17 49 ++ [0]
    userId := List.replicate 11 49 ++ [0]
    userPassword := List.replicate 32 97 ++ [0]
    talktoId := List.replicate 11 50 ++ [0]
    reUserPassword := List.replicate 32 98 ++ [0]
    data := List.replicate 512 120 ++ [0]
    info0 := 89
    info1 := 89
    infoRest := List.replicate 93 65 ++ [0] }

/-- It is sent and received with all its texts. -/
theorem top_server_round_trip_crowded : crowdedRecord.Sendable ∧ ∃ packet b,
    topServerPacket crowdedRecord = some packet ∧ packet.bytes.length = 721 ∧
      copyPacketChecked (.ofBytes packet.bytes) .zero = some b ∧
      receiveMsgFromTopServer packet.bytes = b ∧
      cstr b.checkcode = cstr crowdedRecord.checkcode ∧ cstr b.data = cstr crowdedRecord.data ∧
      cstr b.userId = cstr crowdedRecord.userId ∧
      cstr b.userPassword = cstr crowdedRecord.userPassword ∧
      cstr b.talktoId = cstr crowdedRecord.talktoId ∧
      cstr b.reUserPassword = cstr crowdedRecord.reUserPassword ∧
      cstr b.date = cstr crowdedRecord.info := by
  have full (size : Nat) (c : UInt8) : Terminated (List.replicate size c ++ [0]) (size + 1) :=
    terminated_snoc List.length_replicate
  have sendable : crowdedRecord.Sendable :=
    ⟨full 17 49, full 512 120, full 11 49, full 32 97, full 11 50, full 32 98, by
      constructor <;> decide +kernel⟩
  exact ⟨sendable, top_server_round_trip crowdedRecord sendable⟩

end UubangIot
