import UubangIot.Verif.RecordInvariants
import UubangIot.Verif.TaskAccounting
import UubangIot.Verif.TextFacts

/-!
# What a request is decoded from

A request starts as a copy of its connection, and the decoders leave the last byte of every field,
and for a device frame most fields, as the copy has them. The connection's own fields stay zero from
its accept on; only its code and its id are written, and neither write reaches past its last byte.
So a request holds nothing but its own packet.
-/

namespace UubangIot

open Effect Effect.Prog Transition Transition.System

/-! ## The connection record -/

/-- The fields of a connection that a request copies: zero but for the code and the id, which end in
a zero byte. -/
structure Blank (record : CLN) : Prop where
  /-- `data`. -/
  data : record.data = zeros 513
  /-- `DATE`. -/
  date : record.date = zeros 100
  /-- `USERPASSWORD`. -/
  userPassword : record.userPassword = zeros 33
  /-- `REUSERPASSWORD`. -/
  reUserPassword : record.reUserPassword = zeros 33
  /-- `TalktoID`. -/
  talktoId : record.talktoId = zeros 12
  /-- `info` past the counter. -/
  infoRest : record.infoRest = zeros 94
  /-- `checkcode`. -/
  checkcode : record.checkcode.drop 17 = [0]
  /-- `USERID`. -/
  userId : record.userId.drop 11 = [0]

/-- An id that fits into `USERID` with a zero byte after it. -/
def shortName (userId : Bytes) : Prop := userId.drop 11 = [] ∨ userId.drop 11 = [0]

/-- An operation that writes no longer id. -/
def Op.namesFit : Op → Prop
  | .setConnUserId _ userId => shortName userId
  | _ => True

/-- A device that registers under an id of at most eleven characters. -/
def CLN.shortDeviceId (a : CLN) : Bool :=
  decide (a.requestClass = .device ∧ atoi a.checkcode = 3) →
    ((strSplit a.data 200 underscore).head?.all fun name => strlen name ≤ 11)

/-! ## Copies over fields -/

/-- A whole field copied over an array of which one byte is left. -/
theorem memcpy_field {target source : Bytes} {size : Nat} (full : source.length = size)
    (left : target.drop size = [0]) : memcpy target source size = source ++ [0] := by
  rw [memcpy, left, List.take_of_length_le full.le]

/-- A zeroed array has one zero byte after its front. -/
theorem drop_zeros (size : Nat) : (zeros (size + 1)).drop size = [0] := by
  simp [zeros]

/-- The size of a field of a padded packet. -/
theorem field_length {buffer : Bytes} {offset size : Nat} (inside : offset + size ≤ buffer.length) :
    (field buffer offset size).length = size := by
  rw [field, List.length_take, List.length_drop]
  omega

/-- A packet in its zeroed buffer. -/
def padded (packet : Bytes) : Bytes := packet ++ zeros (721 - packet.length)

/-- A packet that is read fills its buffer. -/
theorem padded_length {packet : Bytes} (read : readable packet = true) :
    (padded packet).length = 721 := by
  simp only [readable, decide_eq_true_eq] at read
  rw [padded, List.length_append, zeros, List.length_replicate]
  omega

/-- A packet in the format of a device. -/
def deviceFormat (packet : Bytes) : Bool := 10 < packet.length ∧ packet.length ≤ 205

/-- An array of a size with a terminator in it. -/
def Terminated (array : Bytes) (size : Nat) : Prop := array.length = size ∧ (0 : UInt8) ∈ array

/-- A full text with its terminator is terminated. -/
theorem terminated_snoc {source : Bytes} {size : Nat} (full : source.length = size) :
    Terminated (source ++ [0]) (size + 1) := by
  constructor
  · rw [List.length_append, full]
    rfl
  · exact List.mem_append_right _ List.mem_cons_self

/-- A text copied over an array that has room for it. -/
theorem terminated_strcpy {target source : Bytes} (room : strlen source < target.length) :
    Terminated (strcpy target source) target.length := by
  constructor
  · rw [strcpy, List.length_append, List.length_cons, List.length_drop]
    change strlen source + _ = _
    omega
  · exact List.mem_append_right _ List.mem_cons_self

/-- A zeroed array is terminated. -/
theorem terminated_zeros (size : Nat) : Terminated (zeros (size + 1)) (size + 1) := by
  simp [Terminated, zeros]

/-- An array with a zero byte at a place has a text that ends there at the latest. -/
theorem strlen_le_of_zero {array : Bytes} {place : Nat} (zero : array[place]? = some 0) :
    strlen array ≤ place := by
  induction array generalizing place with
  | nil => simp at zero
  | cons c tail ih =>
    by_cases ends : c = 0
    · subst ends
      exact Nat.zero_le place
    · have longer : strlen (c :: tail) = strlen tail + 1 :=
        congrArg List.length (List.takeWhile_cons_of_pos (by simpa using ends))
      cases place with
      | zero => exact absurd (Option.some.inj zero) ends
      | succ place =>
        rw [longer]
        exact Nat.succ_le_succ (ih zero)

/-- A terminated array has room for its text. -/
theorem strlen_of_terminated {array : Bytes} {size : Nat} (ends : Terminated array size) :
    strlen array + 1 ≤ size := by
  obtain ⟨place, zero⟩ := List.mem_iff_getElem?.mp ends.2
  have inside : place < array.length := (List.getElem?_eq_some_iff.mp zero).1
  have short := strlen_le_of_zero zero
  have sized := ends.1
  omega

/-! ## What a request is -/

/-- The texts of a request of a user are the fields of its packet; the code and the data of a request
of a device are those of its frame. All are terminated within their arrays. -/
structure Decoded (packet : Bytes) (a : CLN) : Prop where
  /-- `checkcode`. -/
  checkcode : Terminated a.checkcode 18
  /-- `data`. -/
  data : Terminated a.data 513
  /-- `USERPASSWORD`. -/
  userPassword : Terminated a.userPassword 33
  /-- `REUSERPASSWORD`. -/
  reUserPassword : Terminated a.reUserPassword 33
  /-- `TalktoID`. -/
  talktoId : Terminated a.talktoId 12
  /-- `DATE`. -/
  date : Terminated a.date 100
  /-- The fields of a user's packet. -/
  user : deviceFormat packet = false →
    cstr a.checkcode = cstr (field (padded packet) 0 17) ∧
      cstr a.userId = cstr (field (padded packet) 18 11) ∧
      cstr a.userPassword = cstr (field (padded packet) 30 32) ∧
      cstr a.talktoId = cstr (field (padded packet) 63 11) ∧
      cstr a.reUserPassword = cstr (field (padded packet) 75 32) ∧
      cstr a.data = cstr (field (padded packet) 108 512) ∧
      cstr a.date = cstr (field (padded packet) 621 99)
  /-- The code and the payload of a device's frame. -/
  device : deviceFormat packet = true →
    cstr a.checkcode = cstr (packet.take 2) ∧
      a.data = packet.drop 5 ++ zeros (513 - (packet.length - 5))

variable {handle : Nat} {record request : CLN} {packet : Bytes}

/-- The request of a packet in the format of a user. -/
theorem snapshot_userFormat (other : deviceFormat packet = false) :
    snapshot handle record packet =
      (copyUserPacketInterface2Cln packet { record with conn := handle },
        { record with
          checkcode := memcpy record.checkcode
            (copyUserPacketInterface2Cln packet { record with conn := handle }).checkcode 18 }) :=
  if_neg (of_decide_eq_false other)

/-- The request of a packet in the format of a device. -/
theorem snapshot_deviceFormat (device : deviceFormat packet = true) :
    snapshot handle record packet =
      ({ copyRecIotData2Cln packet record with conn := handle },
        { record with
          checkcode := memcpy record.checkcode (copyRecIotData2Cln packet record).checkcode 17
          info1 := yes }) :=
  if_pos (of_decide_eq_true device)

/-- The size of a code that ends at its last byte. -/
theorem length_of_drop {array : Bytes} {size : Nat} (last : array.drop size = [0]) :
    array.length = size + 1 := by
  have counted := congrArg List.length last
  rw [List.length_drop, List.length_singleton] at counted
  omega

/-- The code of a device's request. -/
theorem device_checkcode (blank : Blank record) :
    Terminated (copyRecIotData2Cln packet record).checkcode 18 := by
  have size := length_of_drop blank.checkcode
  have short := strlen_le (field packet 0 2)
  have two : (field packet 0 2).length ≤ 2 := List.length_take_le _ _
  have room : strlen (field packet 0 2) < record.checkcode.length := by omega
  have copied := terminated_strcpy room
  rw [size] at copied
  exact copied

/-- The fields of a packet that was read. -/
theorem padded_field (read : readable packet = true) (offset size : Nat)
    (inside : offset + size ≤ 721) : (field (padded packet) offset size).length = size := by
  apply field_length
  rw [padded_length read]
  exact inside

/-- A user's packet over a blank connection. -/
theorem Blank.copied (blank : Blank record) (read : readable packet = true) :
    copyUserPacketInterface2Cln packet { record with conn := handle } =
      { record with
        conn := handle
        checkcode := field (padded packet) 0 17 ++ [0]
        userId := field (padded packet) 18 11 ++ [0]
        userPassword := field (padded packet) 30 32 ++ [0]
        talktoId := field (padded packet) 63 11 ++ [0]
        reUserPassword := field (padded packet) 75 32 ++ [0]
        data := field (padded packet) 108 512 ++ [0]
        date := field (padded packet) 621 99 ++ [0] } := by
  have full := padded_field read
  rw [← memcpy_field (full 0 17 (by omega)) blank.checkcode,
    ← memcpy_field (full 18 11 (by omega)) blank.userId,
    ← memcpy_field (full 30 32 (by omega)) (blank.userPassword ▸ drop_zeros 32),
    ← memcpy_field (full 63 11 (by omega)) (blank.talktoId ▸ drop_zeros 11),
    ← memcpy_field (full 75 32 (by omega)) (blank.reUserPassword ▸ drop_zeros 32),
    ← memcpy_field (full 108 512 (by omega)) (blank.data ▸ drop_zeros 512),
    ← memcpy_field (full 621 99 (by omega)) (blank.date ▸ drop_zeros 99)]
  rfl

/-- A snapshot of a blank connection is decoded from its packet alone. -/
theorem Blank.decoded (blank : Blank record) (read : readable packet = true) :
    Decoded packet (snapshot handle record packet).1 := by
  cases format : deviceFormat packet with
  | false =>
    have full := padded_field read
    rw [snapshot_userFormat format, blank.copied read]
    constructor
    · exact terminated_snoc (full 0 17 (by omega))
    · exact terminated_snoc (full 108 512 (by omega))
    · exact terminated_snoc (full 30 32 (by omega))
    · exact terminated_snoc (full 75 32 (by omega))
    · exact terminated_snoc (full 63 11 (by omega))
    · exact terminated_snoc (full 621 99 (by omega))
    · intro _
      simp only [cstr_snoc_zero, and_self]
    · intro device
      rw [format] at device
      contradiction
  | true =>
    have lengths : 10 < packet.length ∧ packet.length ≤ 205 := of_decide_eq_true format
    rw [snapshot_deviceFormat format]
    have data : (copyRecIotData2Cln packet record).data =
        packet.drop 5 ++ zeros (513 - (packet.length - 5)) := by
      have whole : (packet.drop 5).length ≤ packet.length - 5 := (List.length_drop).le
      rw [copyRecIotData2Cln, memcpy, blank.data, List.take_of_length_le whole, zeros,
        List.drop_replicate]
      rfl
    constructor
    · exact device_checkcode blank
    · change Terminated (copyRecIotData2Cln packet record).data 513
      rw [data]
      constructor
      · rw [List.length_append, List.length_drop, zeros, List.length_replicate]
        omega
      · have left : 513 - (packet.length - 5) ≠ 0 := by omega
        exact List.mem_append_right _ (List.mem_replicate.mpr ⟨left, rfl⟩)
    · exact blank.userPassword ▸ terminated_zeros 32
    · exact blank.reUserPassword ▸ terminated_zeros 32
    · exact blank.talktoId ▸ terminated_zeros 11
    · have short := strlen_le (field packet 3 1)
      have one : (field packet 3 1).length ≤ 1 := List.length_take_le _ _
      have size : record.date.length = 100 := by rw [blank.date, zeros, List.length_replicate]
      have room : strlen (field packet 3 1) < record.date.length := by omega
      have copied := terminated_strcpy room
      rw [size] at copied
      exact copied
    · intro user
      rw [format] at user
      contradiction
    · exact fun _ => ⟨cstr_strcpy _ _, data⟩

/-! ## Over whole runs -/

/-- The id of a request ends in a zero byte. -/
theorem Blank.request_userId (blank : Blank record) (read : readable packet = true)
    (copied : Copied handle record packet request) : request.userId.drop 11 = [0] := by
  obtain ⟨info1, rfl⟩ := copied
  cases format : deviceFormat packet with
  | false =>
    rw [snapshot_userFormat format, blank.copied read]
    have full := padded_field read 18 11 (by omega)
    change (field (padded packet) 18 11 ++ [0]).drop 11 = [0]
    rw [List.drop_append_of_le_length full.ge, List.drop_of_length_le full.le]
    rfl
  | true =>
    rw [snapshot_deviceFormat format]
    exact blank.userId

/-- What a packet leaves of a blank connection is blank. -/
theorem Blank.stored (blank : Blank record) (read : readable packet = true) :
    Blank (snapshot handle record packet).2 := by
  have size := length_of_drop blank.checkcode
  cases format : deviceFormat packet with
  | false =>
    rw [snapshot_userFormat format, blank.copied read]
    refine ⟨blank.data, blank.date, blank.userPassword, blank.reUserPassword, blank.talktoId,
      blank.infoRest, ?_, blank.userId⟩
    have full := padded_field read 0 17 (by omega)
    have none_left : record.checkcode.drop 18 = [] := List.drop_of_length_le (by omega)
    change (memcpy record.checkcode (field (padded packet) 0 17 ++ [0]) 18).drop 17 = [0]
    rw [memcpy, none_left, List.append_nil, List.take_of_length_le (by simp [full]),
      List.drop_append_of_le_length full.ge, List.drop_of_length_le full.le]
    rfl
  | true =>
    rw [snapshot_deviceFormat format]
    refine ⟨blank.data, blank.date, blank.userPassword, blank.reUserPassword, blank.talktoId,
      blank.infoRest, ?_, blank.userId⟩
    have code : (copyRecIotData2Cln packet record).checkcode.length = 18 :=
      (device_checkcode blank).1
    have front : ((copyRecIotData2Cln packet record).checkcode.take 17).length = 17 := by
      rw [List.length_take, code]
      rfl
    change (memcpy record.checkcode (copyRecIotData2Cln packet record).checkcode 17).drop 17 = [0]
    rw [memcpy, List.drop_append_of_le_length front.ge, List.drop_of_length_le front.le]
    exact blank.checkcode

/-- The names a sign-in may write are short. -/
theorem shortName_of_writesId {a : CLN} (ends : a.userId.drop 11 = [0])
    (short : a.shortDeviceId = true) (signing : a.signing = true) {userId : Bytes}
    (named : a.writesId userId) : shortName userId := by
  unfold CLN.writesId at named
  split at named
  · rename_i device
    obtain ⟨name, rest, fields, rfl⟩ := named
    have registers : atoi a.checkcode = 3 := by
      simpa only [CLN.signing, device, decide_eq_true_eq] using signing
    have bound : strlen name ≤ 11 := by
      simpa [CLN.shortDeviceId, device, registers, fields] using short
    have size : (cstr name).length ≤ 11 := bound
    rcases Nat.lt_or_eq_of_le size with shorter | full
    · refine .inl (List.drop_of_length_le ?_)
      rw [List.length_append, List.length_singleton]
      omega
    · refine .inr ?_
      rw [List.drop_append_of_le_length full.ge, List.drop_of_length_le full.le]
      rfl
  · rw [named]
    refine .inr ?_
    rw [List.drop_take, ends]
    rfl

/-- A request writes no id longer than the record has room for. -/
theorem talk_namesFit (config : Config) {a : CLN} (ends : a.userId.drop 11 = [0])
    (short : a.shortDeviceId = true) : (talk config a).Only Op.namesFit := by
  have leads : (talk config a).Leads Op.namesFit (fun _ => True)
      fun rest => rest = finish a ∨ (True ∧ rest = .ret ()) := by
    refine naming_leads (fun op routine => ?_) config a (fun signing op signs => ?_)
      (fun _ op key => ?_) (fun _ => trivial) fun _ _ _ => trivial
    · cases op <;> trivial
    · cases op with
      | setConnUserId conn userId => exact shortName_of_writesId ends short signing signs.2
      | _ => trivial
    · cases op <;> trivial
  refine leads.only (fun _ => trivial) (fun _ allowed => allowed) fun rest last => ?_
  rcases last with rfl | ⟨-, rfl⟩
  · exact ⟨trivial, fun _ => ⟨trivial, fun _ => trivial⟩⟩
  · trivial

/-- A short name over the id of a blank connection. -/
theorem drop_memcpy_shortName {array userId : Bytes} (ends : array.drop 11 = [0])
    (short : shortName userId) : (memcpy array userId userId.length).drop 11 = [0] := by
  have size := length_of_drop ends
  rw [memcpy, List.take_length]
  rcases short with empty | full
  · have bound : userId.length ≤ 11 := List.drop_eq_nil_iff.mp empty
    rw [List.drop_append, empty, List.nil_append, List.drop_drop]
    rw [Nat.add_sub_cancel' bound]
    exact ends
  · have bound := length_of_drop full
    rw [List.drop_append_of_le_length (by omega), full,
      List.drop_of_length_le (by omega : array.length ≤ userId.length)]
    rfl

/-- Blank records, and requests that write short ids. -/
theorem blank_discipline (config : Config) : Discipline config Blank
    (fun _ program => program.Only Op.namesFit) (fun a => a.shortDeviceId = true)
    (fun _ => True) where
  fresh socket := ⟨rfl, rfl, rfl, rfl, rfl, rfl, rfl, rfl⟩
  flags _ _ blank := ⟨blank.data, blank.date, blank.userPassword, blank.reUserPassword,
    blank.talktoId, blank.infoRest, blank.checkcode, blank.userId⟩
  stored read blank := blank.stored read
  starts read blank copied short := talk_namesFit config (blank.request_userId read copied) short
  goes tame _ := tame.2 _
  writes := by
    intro request record op next conn change tame written blank
    have fits : op.namesFit := tame.1
    cases op with
    | setConnUserId target userId =>
      obtain ⟨rfl, rfl⟩ := Prod.mk.inj (Option.some.inj written)
      exact { blank with userId := drop_memcpy_shortName blank.userId fits }
    | decrementTasks | setConnKey | setConnPin | setConnUserKeyId | setConnSignedIn | nextSeqNum =>
      obtain ⟨rfl, rfl⟩ := Prod.mk.inj (Option.some.inj written)
      exact { blank with }
    | _ => cases written

/-- The packets of a run: a device that registers has an id of at most eleven characters. -/
def shortIds (server : ServerState) : Turn → Bool
  | .event (.receive conn packet _) =>
    (server.memory.conns conn).all fun record => (snapshot conn record packet).1.shortDeviceId
  | _ => true

/-- What the packets of a run are is what the requests of it are. -/
theorem heeds_of_shortIds {server : ServerState} {turn : Turn} (short : shortIds server turn = true) :
    Heeds (fun a => a.shortDeviceId = true) (fun _ => True) server turn := by
  cases turn with
  | event event =>
    cases event with
    | receive conn packet allocated =>
      rintro record known request ⟨info1, rfl⟩
      rw [shortIds, known] at short
      exact short
    | _ => trivial
  | step index answer => exact fun _ _ _ _ _ _ _ => trivial
  | leave index => trivial

/-- In every run, each packet that is read gives a request decoded from it alone. -/
theorem requests_decoded_fresh (config : Config) (turns : List Turn) (server : ServerState)
    (short : (interleaved config).Meets (fun server turn => shortIds server turn = true) .initial turns)
    (reached : (interleaved config).run .initial turns = some server) (conn : Nat) (record : CLN)
    (known : server.memory.conns conn = some record) (packet : Bytes)
    (read : readable packet = true) (request : CLN)
    (copied : Copied conn record packet request) : Decoded packet request := by
  have orderly := Orderly.run (blank_discipline config)
    (short.mono fun _ _ => heeds_of_shortIds) reached
  have blank := orderly.records conn record known
  obtain ⟨info1, rfl⟩ := copied
  have decoded : Decoded packet (snapshot conn record packet).1 := blank.decoded read
  exact { decoded with }

/-- A connection that was greeted, and one more packet. -/
theorem requests_decoded_fresh_greeted : ∃ server record,
    (interleaved bareConfig).run .initial greeting = some server ∧
      server.memory.conns 0 = some record ∧
      Decoded (text "PIN") (snapshot 0 record (text "PIN")).1 := by
  refine ⟨_, _, rfl, rfl, ?_⟩
  exact requests_decoded_fresh bareConfig greeting _ (by decide) rfl 0 _ rfl (text "PIN")
    (by decide) _ ⟨_, rfl⟩

end UubangIot
