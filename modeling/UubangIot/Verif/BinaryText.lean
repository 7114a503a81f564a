import UubangIot.Verif.Handlers
import UubangIot.Verif.RsaKeys
import UubangIot.Verif.TextFacts

/-!
# Binary data in text fields

Cipher blocks travel as the bytes of their numbers. A device's sign-in is split at `_`, which a block
may contain; a device's PIN reply copies them, and a signed-in user's is never sent. The results say
for which blocks the bytes survive.
-/

namespace UubangIot

open Effect Effect.Prog RsaUtils

/-- The bytes of an array of blocks, each least significant byte first. -/
def blockImage (blocks : List Int) : Bytes := (blocks.map intBytes).flatten

/-- A block has four bytes. -/
theorem blockImage_length (blocks : List Int) : (blockImage blocks).length = 4 * blocks.length := by
  induction blocks with
  | nil => rfl
  | cons block blocks ih =>
    rw [blockImage, List.map_cons, List.flatten_cons, List.length_append]
    rw [blockImage] at ih
    rw [ih, List.length_cons]
    simp only [intBytes, List.length_map, List.length_range]
    omega

/-! ## Device sign-in -/

/-- The payload of a device's sign-in. -/
def signInPayload (id : Bytes) (blocks : List Int) : Bytes :=
  id ++ underscore :: (blockImage blocks ++ [underscore])

/-- The data of a device's request is its payload, over whatever the connection had there. -/
theorem snapshot_data (handle : Nat) (record : CLN) (header payload : Bytes)
    (five : header.length = 5) (long : 5 < payload.length) (fits : payload.length ≤ 200) :
    (snapshot handle record (header ++ payload)).1.data =
      payload ++ record.data.drop payload.length := by
  have length : (header ++ payload).length = 5 + payload.length := by
    rw [List.length_append, five]
  have device : 10 < (header ++ payload).length ∧ (header ++ payload).length ≤ 205 := by omega
  have tail : (header ++ payload).drop 5 = payload := by
    rw [← five, List.drop_left]
  have size : (header ++ payload).length - 5 = payload.length := by omega
  rw [snapshot, if_pos device]
  dsimp only [copyRecIotData2Cln]
  rw [tail, size, memcpy, List.take_length]

/-- `StrSplit` gives the id and the block bytes of a device's sign-in back exactly when no byte of
the blocks is `_`. -/
theorem sign_in_splits_iff {rand : Nat → Nat} {rounds start next : Nat} {key : RSAKey}
    (generated : initRSA rand rounds start = some (key, next)) {id : Bytes}
    (plain : underscore ∉ id) {blocks : List Int}
    (count : blocks.length = 7 * key.encryptBlockBytes.toNat)
    (fits : (signInPayload id blocks).length ≤ 200) (handle : Nat) (record : CLN) {header : Bytes}
    (five : header.length = 5) :
    (∃ others, strSplit (snapshot handle record (header ++ signInPayload id blocks)).1.data 200
        underscore = id :: blockImage blocks :: others) ↔
      underscore ∉ blockImage blocks := by
  obtain ⟨e, d, n, rfl, -, -, -⟩ := initRSA_spec generated
  have bytes := (blockBytes_range n).1
  have image := blockImage_length blocks
  have length : (signInPayload id blocks).length =
      id.length + 1 + ((blockImage blocks).length + 1) := by
    simp only [signInPayload, List.length_append, List.length_cons, List.length_nil]
    omega
  have long : 5 < (signInPayload id blocks).length := by
    rw [Int.toNat_natCast] at count
    omega
  have front : (signInPayload id blocks ++ record.data.drop (signInPayload id blocks).length).take
      200 = id ++ underscore :: (blockImage blocks ++ underscore ::
        (record.data.drop (signInPayload id blocks).length).take
          (200 - (signInPayload id blocks).length)) := by
    rw [List.take_append, List.take_of_length_le fits]
    simp [signInPayload]
  rw [snapshot_data handle record header _ five long fits, strSplit, front, splitLoop_cut plain]
  constructor
  · rintro ⟨others, split⟩ member
    have fields := (List.cons.inj split).2
    have listed : blockImage blocks ∈ blockImage blocks :: others := List.mem_cons_self
    rw [← fields] at listed
    exact splitLoop_plain List.not_mem_nil _ listed member
  · intro clear
    rw [splitLoop_cut clear]
    exact ⟨_, rfl⟩

/-- The header of a device's sign-in. -/
def signInHeader : Bytes := text "03" ++ [0, 1, 0]

/-- Seven blocks of a key of one character a block, none of which has the byte of `_`. -/
theorem sign_in_splits_iff_ones :
    ∃ others, strSplit (snapshot 0 CLN.zero
      (signInHeader ++ signInPayload (text "dev001") (List.replicate 7 1))).1.data 200 underscore =
        text "dev001" :: blockImage (List.replicate 7 1) :: others :=
  (sign_in_splits_iff (show initRSA (fun _ => 13) 1 0 = some (⟨13, 133, 169, 1⟩, 23) by
    decide +kernel) (by decide) rfl (by decide) 0 CLN.zero rfl).mpr (by decide)

/-- The block 95 is the byte of `_`: the field after the id is empty. -/
theorem sign_in_block_cut :
    initRSA (fun _ => 13) 1 0 = some (⟨13, 133, 169, 1⟩, 23) ∧
      (∀ c ∈ List.replicate 7 (95 : Int), 0 ≤ c ∧ c < 169) ∧
      ¬∃ others, strSplit (snapshot 0 CLN.zero
        (signInHeader ++ signInPayload (text "dev001") (List.replicate 7 95))).1.data 200 underscore =
          text "dev001" :: blockImage (List.replicate 7 95) :: others := by
  have second : (strSplit (snapshot 0 CLN.zero
      (signInHeader ++ signInPayload (text "dev001") (List.replicate 7 95))).1.data 200
        underscore)[1]? = some [] := by
    decide +kernel
  refine ⟨by decide +kernel, by decide, ?_⟩
  rintro ⟨others, split⟩
  rw [split] at second
  have empty : blockImage (List.replicate 7 95) = [] := Option.some.inj second
  revert empty
  decide +kernel

/-! ## PIN replies -/

/-- The frames a handler sends. -/
def replies (trace : List Happening) : List Frame :=
  trace.filterMap fun happening =>
    match happening.1 with
    | .send _ frame => some frame
    | _ => none

variable {config : Config} {a : CLN} {pin encoded : Bytes} {trace : List Happening}

/-- A reply to a device is one frame. -/
theorem sendOpBack_replies {opCode : String} {payLoad : Bytes}
    (path : (sendOpBack a opCode payLoad).Path trace ()) :
    ∃ seqNum, replies trace = [.iot ⟨text opCode, seqNum, payLoad⟩] := by
  obtain ⟨seqNum, _, rfl, len, _, rfl, path⟩ := path
  refine ⟨seqNum, ?_⟩
  dsimp only [Prog.bind] at path
  split at path
  · obtain ⟨_, _, rfl, rfl, -⟩ := path
    rfl
  · obtain ⟨rfl, -⟩ := path
    rfl

/-- The reply to a device's PIN request copies the encoded PIN. -/
theorem device_pin_reply (asked : a.requestClass = .device) (two : atoi a.checkcode = 2)
    (keyed : a.key.encryptBlockBytes ≠ 0) (coded : encodePin a.key pin = some encoded)
    (path : (talk config a).Path (⟨.randomPin, pin⟩ :: trace) ()) :
    ∃ seqNum, replies trace = [.iot ⟨text "02", seqNum, encoded ++ [underscore]⟩] := by
  rw [talk_device asked, iotTalk_pin two] at path
  obtain ⟨before, _, after, split, first, second⟩ := (Prog.path_bind _ _ _ _).mp path
  rw [iotPin, if_neg keyed] at first
  obtain ⟨drew, _, rfl, _, rest, rfl, first⟩ := first
  rw [List.cons_append] at split
  obtain ⟨same, rfl⟩ := List.cons.inj split
  obtain rfl : pin = drew := eq_of_heq (Sigma.mk.inj same).2
  dsimp only [Prog.bind] at first
  rw [source_encode, coded] at first
  obtain ⟨seqNum, sent⟩ := sendOpBack_replies first
  have ended : replies after = [] := by
    obtain ⟨_, _, rfl, _, _, rfl, rfl, -⟩ := second
    rfl
  refine ⟨seqNum, ?_⟩
  rw [replies] at sent ended ⊢
  rw [List.cons_append, List.filterMap_cons_none rfl, List.filterMap_append, sent, ended]
  rfl

/-- What a frame carries besides its code. -/
def Frame.body : Frame → Bytes
  | .user packet => packet.data
  | .iot packet => packet.payLoad
  | .raw bytes => bytes

/-- Nothing is left to do, or an undefined access is next. -/
def Over (rest : Handler Unit) : Prop := ∀ op next, rest = .call op next → op = .fault

/-- Whenever a PIN request that has drawn the PIN is over, it has sent one frame, which starts with the
bytes of the blocks. -/
def RepliesWhole (config : Config) (a : CLN) (pin : Bytes) (blocks : List Int) : Prop :=
  ∀ trace rest, Comes (talk config a) (⟨.randomPin, pin⟩ :: trace) rest → Over rest →
    ∃ frame, replies trace = [frame] ∧ blockImage blocks <+: frame.body

/-- The PIN of any key of `InitRSA` is encoded in whole blocks. -/
theorem encodePin_blocks {rand : Nat → Nat} {rounds start next : Nat} {key : RSAKey}
    (generated : initRSA rand rounds start = some (key, next)) (six : pin.length = 6)
    (digits : ∀ c ∈ pin, c ≤ 57) :
    ∃ blocks, encodeMessage 6 key.encryptBlockBytes.toNat (pin.map fun c => c.toInt8.toInt)
        key.privateKey key.commonKey = some blocks ∧
      blocks.length = 6 / key.encryptBlockBytes.toNat ∧ 0 < key.encryptBlockBytes := by
  obtain ⟨e, d, n, rfl, large, bounded, dBound⟩ := initRSA_spec generated
  have range := blockBytes_range n
  have characters : pin.map (fun c => c.toInt8.toInt) = (pin.map UInt8.toNat).map Int.ofNat := by
    rw [List.map_map]
    exact List.map_congr_left fun c member => digit_toInt (digits c member)
  have small : ∀ character ∈ pin.map UInt8.toNat, character < 128 := by
    intro character member
    obtain ⟨c, present, rfl⟩ := List.mem_map.mp member
    have := UInt8.le_iff_toNat_le.mp (digits c present)
    change c.toNat ≤ 57 at this
    omega
  have length : (pin.map UInt8.toNat).length = 6 := by rw [List.length_map, six]
  have whole : 0 + 6 / blockBytes n * blockBytes n = (pin.map UInt8.toNat).length := by
    rw [length]
    obtain one | two | three : blockBytes (n : Int) = 1 ∨ blockBytes (n : Int) = 2 ∨
        blockBytes (n : Int) = 3 := by omega
    · rw [one]
    · rw [two]
    · rw [three]
  have few : 6 / blockBytes n ≤ 6 := Nat.div_le_self _ _
  have modulus : n < 2 ^ 31 := by omega
  have exponent : d < 2 ^ 31 := by omega
  obtain ⟨blocks, encoded, count, -⟩ := encodeLoop_blocks (show 2 ≤ n by omega) modulus exponent
    range.1 range.2 (blockBytes_fits n large) _ small (6 / blockBytes n) 0 7 whole (by omega)
  have positive : (0 : Int) < (blockBytes n : Nat) := by omega
  refine ⟨blocks, ?_, count, positive⟩
  rw [length] at encoded
  rw [characters]
  exact encoded

/-- The array of an encoded PIN is the image of its blocks and zeros. -/
theorem encodePin_image {key : RSAKey} {blocks : List Int}
    (coded : encodeMessage 6 key.encryptBlockBytes.toNat (pin.map fun c => c.toInt8.toInt)
      key.privateKey key.commonKey = some blocks)
    (count : blocks.length = 6 / key.encryptBlockBytes.toNat)
    (positive : 0 < key.encryptBlockBytes) :
    ∃ size, encodePin key pin = some (blockImage blocks ++ zeros size) := by
  have image := blockImage_length blocks
  have few : 6 / key.encryptBlockBytes.toNat ≤ 6 := Nat.div_le_self _ _
  have length : (blockImage blocks).length ≤ 24 * key.encryptBlockBytes.toNat := by omega
  refine ⟨min (24 * key.encryptBlockBytes.toNat - (blockImage blocks).length) 100, ?_⟩
  rw [encodePin, coded, Option.map_some]
  change some ((blockImage blocks ++ zeros 100).take (24 * key.encryptBlockBytes.toNat)) = _
  rw [List.take_append, List.take_of_length_le length, zeros, List.take_replicate]
  rfl

/-- A device's reply is never undefined. -/
theorem device_pin_defined (config : Config) (asked : a.requestClass = .device) (two : atoi a.checkcode = 2)
    (keyed : a.key.encryptBlockBytes ≠ 0) (coded : encodePin a.key pin = some encoded) :
    ∃ next, talk config a = Prog.call .randomPin next ∧ (next pin).Only (· ≠ .fault) := by
  refine ⟨fun pin => .call (.setConnPin a.conn pin 6) fun _ =>
    (defined (encodePin a.key pin) fun payLoad => sendOpBack a "02" (payLoad ++ [underscore])) >>=
      fun _ => finish a, ?_, ?_⟩
  · rw [talk_device asked, iotTalk_pin two, iotPin, if_neg keyed]
    rfl
  · refine ⟨Op.noConfusion, fun _ => ?_⟩
    rw [coded]
    refine ⟨Op.noConfusion, fun seqNum => ⟨Op.noConfusion, fun len => ?_⟩⟩
    have ends : (finish a).Only (· ≠ .fault) :=
      ⟨Op.noConfusion, fun _ => ⟨Op.noConfusion, fun _ => trivial⟩⟩
    dsimp only [Prog.bind]
    split
    · exact ⟨Op.noConfusion, fun _ => ends⟩
    · exact ends

/-- A device's reply is whole. -/
theorem device_replies_whole (asked : a.requestClass = .device) (two : atoi a.checkcode = 2)
    (keyed : a.key.encryptBlockBytes ≠ 0) {blocks : List Int} {size : Nat}
    (coded : encodePin a.key pin = some (blockImage blocks ++ zeros size)) :
    RepliesWhole config a pin blocks := by
  intro trace rest comes last
  obtain ⟨next, same, safe⟩ := device_pin_defined config asked two keyed coded
  have ended : rest = .ret () := by
    rw [same] at comes
    cases comes with
    | call _ _ _ _ _ later =>
      have left := (safe.comes later).2
      cases rest with
      | ret value => rfl
      | call op next => exact absurd (last op next rfl) left.1
  rw [ended] at comes
  obtain ⟨seqNum, sent⟩ := device_pin_reply asked two keyed coded (comes_ret.mp comes)
  refine ⟨_, sent, ?_⟩
  rw [Frame.body, List.append_assoc]
  exact List.prefix_append _ _

/-- A signed-in user's request comes to the digest, which is written behind its array, before
anything is sent. -/
theorem user_pin_faults (config : Config) (asked : a.requestClass = .user .pin)
    (keyed : a.key.encryptBlockBytes ≠ 0) (signed : a.signedIn = true)
    (coded : encodePin a.key pin = some encoded) :
    ∃ next, Comes (talk config a)
      [⟨.randomPin, pin⟩, ⟨.setConnPin a.conn (pin ++ [0]) 7, ()⟩] (.call .fault next) := by
  rw [talk_user asked]
  change ∃ next, Comes (talkPin a >>= _) _ (.call .fault next)
  rw [talkPin, if_neg keyed]
  apply Exists.intro
  apply Comes.call
  apply Comes.call
  dsimp only [Prog.bind]
  rw [if_pos signed, source_encode, coded]
  exact .here _

/-- The reply to a PIN request carries the whole ciphertext exactly when a device asks; the request of
a signed-in user sends nothing before its digest is written behind the array. -/
theorem pin_replies_whole_iff (config : Config) {rand : Nat → Nat} {rounds start next : Nat}
    {key : RSAKey} (generated : initRSA rand rounds start = some (key, next))
    (six : pin.length = 6) (digits : ∀ c ∈ pin, 48 ≤ c ∧ c ≤ 57) (keyed : a.key = key)
    (asks : a.requestClass = .user .pin ∧ a.signedIn = true ∨
      a.requestClass = .device ∧ atoi a.checkcode = 2) :
    ∃ blocks, encodeMessage 6 key.encryptBlockBytes.toNat (pin.map fun c => c.toInt8.toInt)
        key.privateKey key.commonKey = some blocks ∧
      blocks.length = 6 / key.encryptBlockBytes.toNat ∧
      (RepliesWhole config a pin blocks ↔ a.requestClass = .device) := by
  obtain ⟨blocks, coded, count, positive⟩ :=
    encodePin_blocks generated six fun c member => (digits c member).2
  obtain ⟨size, image⟩ := encodePin_image coded count positive
  rw [← keyed] at image positive
  refine ⟨blocks, coded, count, ?_⟩
  obtain ⟨asked, signed⟩ | ⟨asked, two⟩ := asks
  · obtain ⟨rest, comes⟩ := user_pin_faults config asked positive.ne' signed image
    refine ⟨fun whole => ?_, fun device => absurd (asked.symm.trans device) (by decide)⟩
    have ended : Over (.call .fault rest) := by
      intro op next same
      exact (Prog.call.inj same).1.symm
    obtain ⟨frame, sent, -⟩ := whole _ _ comes ended
    cases sent
  · exact ⟨fun _ => asked, fun _ => device_replies_whole asked two positive.ne' image⟩

/-- The key of `InitRSA` over a stream that repeats 13. -/
def smallKey : RSAKey := ⟨13, 133, 169, 1⟩

/-- A request for a PIN on a signed-in connection with that key. -/
def pinRequest (checkcode : String) : CLN :=
  { CLN.zero with key := smallKey, info0 := yes, checkcode := strcpy (zeros 18) (text checkcode) }

/-- A handler configuration. -/
def plainConfig : Config := ⟨fun _ => [], []⟩

/-- A device's reply with that key. -/
theorem pin_replies_whole_iff_device :
    ∃ blocks, encodeMessage 6 1 ((text "123456").map fun c => c.toInt8.toInt) 133 169 =
        some blocks ∧ blocks.length = 6 / 1 ∧
      (RepliesWhole plainConfig (pinRequest "02") (text "123456") blocks ↔
        (pinRequest "02").requestClass = .device) :=
  pin_replies_whole_iff plainConfig (show initRSA (fun _ => 13) 1 0 = some (smallKey, 23) by
    decide +kernel) (by decide) (by decide +kernel) rfl (.inr (by decide))

/-- A signed-in user's request with that key sends nothing. -/
theorem user_pin_unanswered :
    initRSA (fun _ => 13) 1 0 = some (smallKey, 23) ∧
      (pinRequest "PIN").requestClass = .user .pin ∧ (pinRequest "PIN").signedIn = true ∧
      ∃ blocks, encodeMessage 6 1 ((text "123456").map fun c => c.toInt8.toInt) 133 169 =
          some blocks ∧ ¬RepliesWhole plainConfig (pinRequest "PIN") (text "123456") blocks := by
  have coded : encodeMessage 6 1 ((text "123456").map fun c => c.toInt8.toInt) 133 169 =
      some [101, 141, 155, 0, 157, 2] := by
    decide +kernel
  refine ⟨by decide +kernel, by decide, by decide, _, coded, fun whole => ?_⟩
  obtain ⟨size, image⟩ := @encodePin_image (text "123456") smallKey _ coded rfl (by decide)
  obtain ⟨rest, comes⟩ := @user_pin_faults (pinRequest "PIN") _ _ plainConfig (by decide)
    (by decide) (by decide) image
  obtain ⟨frame, sent, -⟩ := whole _ _ comes fun op next same => (Prog.call.inj same).1.symm
  cases sent

end UubangIot
