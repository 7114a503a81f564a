import UubangIot.Server.FieldWrites
import UubangIot.Verif.Handlers
import UubangIot.Verif.RelayedCommands
import UubangIot.Verif.RsaTotality
import UubangIot.Verif.TaskAccounting
import UubangIot.Verif.WriterCalls

/-!
# Which writes stay in their arrays

A password is decoded into as many bytes for each block as the key packs, so 32 blocks fit into 33
bytes only when that is one. An id and a date are copied up to their terminator, however long they
are. The frame of a relayed command gets its terminator behind its payload.
-/

namespace UubangIot

open CheckedArray Effect Effect.Prog RsaUtils

/-! ## What fits -/

/-- The write of a call stays in its array. -/
def WriterCall.fits : WriterCall → Prop
  | .encode _ _ => True
  | .decode key target source len => (decodeInto key target source len).isSome = true
  | .print array source => (printInto array source).isSome = true
  | .cut source => (cutInto source).isSome = true

/-- A request on a connection that is signed in or not, which it may ask first. -/
def onConnection {α : Type} (signedIn : Bool) : Handler α → Handler α
  | .call (.connSignedIn _) next => next signedIn
  | handler => handler

/-- The date of a scheduled scene fits. -/
def sceneFits (a : CLN) : Bool :=
  match strSplit a.data 200 tilde with
  | _ :: date :: _ => strlen date ≤ 99
  | _ => true

/-- The id of a device that registers fits. -/
def registrationFits (a : CLN) : Bool :=
  if a.key.encryptBlockBytes = 0 then true
  else
    match strSplit a.data 200 underscore with
    | name :: _ :: _ => strlen name ≤ 11
    | _ => true

/-- A password comes with a modulus below `2^14`, a date has at most 99 characters and the id of a
device that is not signed in at most eleven. -/
def CLN.fieldsFit (a : CLN) (signedIn : Bool) : Bool :=
  match a.requestClass with
  | .user .sia | .user .sib | .user .rea | .user .rpa => a.key.commonKey < 2 ^ 14
  | .user .sce => sceneFits a
  | .device => if atoi a.checkcode = 3 ∧ signedIn = false then registrationFits a else true
  | _ => true

/-- The fields that are written to have the sizes of the structure. -/
structure CLN.Sized (a : CLN) : Prop where
  /-- `USERID[12]`. -/
  userId : a.userId.length = 12
  /-- `USERPASSWORD[33]`. -/
  userPassword : a.userPassword.length = 33
  /-- `DATE[100]`. -/
  date : a.date.length = 100
  /-- `REUSERPASSWORD[33]`. -/
  reUserPassword : a.reUserPassword.length = 33
  /-- `data[513]`. -/
  data : a.data.length = 513

variable {a : CLN} {key : RSAKey} {target source : Bytes}

/-! ## Decoding -/

/-- A key packs one character into a block exactly when its modulus is below `2^14`. -/
theorem StoredKey.bytes_le_one_iff (stored : StoredKey key) :
    key.encryptBlockBytes.toNat ≤ 1 ↔ key.commonKey < 2 ^ 14 := by
  rcases stored.registers with rfl | ⟨e, d, n, rfl, large, small, exponent⟩
  · decide
  · change (blockBytes n : Int).toNat ≤ 1 ↔ (n : Int) < 2 ^ 14
    rw [Int.toNat_natCast, blockBytes]
    split
    · omega
    · split <;> omega

/-- Decoded characters fit exactly when the array is as long as they are. -/
theorem StoredKey.decodeInto_isSome (stored : StoredKey key) {len : Nat} (blocks : len ≤ 100) :
    (decodeInto key target source len).isSome = true ↔
      len * key.encryptBlockBytes.toNat ≤ target.length := by
  obtain ⟨characters, decoded, size⟩ := stored.decodeMessage_defined source blocks
  rw [decodeInto, decoded, Option.bind_some, storeAll_isSome, List.length_map, size]

/-- Where they fit, the handler goes on with what was written. -/
theorem decodeOver_of_decodeInto {len : Nat} {written : Bytes}
    (fits : decodeInto key target source len = some written) :
    decodeOver key target source len = some written := by
  rw [decodeInto, Option.bind_eq_some_iff] at fits
  obtain ⟨characters, decoded, stored⟩ := fits
  have room : (characters.map fun c => c.toInt8.toUInt8).length ≤ target.length := by
    rw [← storeAll_isSome, stored]
    rfl
  rw [storeAll_front room, List.length_map] at stored
  have whole : (characters.map fun c => c.toInt8.toUInt8).take characters.length =
      characters.map fun c => c.toInt8.toUInt8 :=
    List.take_of_length_le (List.length_map _).le
  rw [decodeOver, decoded, Option.map_some, memcpy, whole]
  exact stored

/-- A password is decoded into 33 bytes. -/
theorem password_isSome (source : Bytes) (stored : StoredKey a.key) (sized : target.length = 33) :
    (decodeInto a.passwordKey target source 32).isSome = true ↔ a.key.commonKey < 2 ^ 14 := by
  rw [← stored.bytes_le_one_iff, CLN.passwordKey, stored.decodeInto_isSome (by omega), sized]
  omega

/-! ## Copied texts -/

/-- A field that was split from 200 bytes. -/
theorem field_of_split {data first : Bytes} {delim : UInt8} {others : List Bytes}
    (split : strSplit data 200 delim = first :: others) : strlen first ≤ 199 := by
  have bound := splitLoop_length delim [] (data.take 200)
  have size : (data.take 200).length ≤ 200 := List.length_take_le _ _
  rw [← strSplit, split, List.map_cons, List.sum_cons, List.length_nil] at bound
  have length := strlen_le first
  omega

/-- A text that fits is copied as the handler copies it. -/
theorem strcpy_of_printInto {written : Bytes} (fits : printInto target source = some written) :
    strcpy target source = written := by
  have room : (cstr source ++ [0]).length ≤ target.length := by
    rw [← storeAll_isSome, ← printInto, fits]
    rfl
  rw [printInto, storeAll_front room, Option.some.injEq, List.length_append] at fits
  rw [← fits, strcpy, List.append_assoc]
  rfl

/-- A cut never fits: 200 bytes and a terminator are written. -/
theorem cutInto_eq_none (sized : source.length = 513) : cutInto source = none := by
  have size : ((source.drop 0).take (199 + 1 - 0)).length = 200 := by
    rw [List.drop_zero, List.length_take, sized]
    rfl
  apply storeAll_outside
  · exact List.append_ne_nil_of_right_ne_nil _ (List.cons_ne_nil _ _)
  · rw [List.length_append, size, zeros, List.length_replicate]
    exact Nat.lt_succ_self 200

/-- The checked routines are those of the source where a write fits. -/
theorem checked_follows : Writers.checked.Follows WriterCall.fits where
  encode _ _ _ _ := rfl
  decode key target source len next fits := by
    obtain ⟨written, inside⟩ := Option.isSome_iff_exists.mp fits
    change defined (decodeInto key target source len) next =
      defined (decodeOver key target source len) next
    rw [inside, decodeOver_of_decodeInto inside]
  print array source next fits := by
    obtain ⟨written, inside⟩ := Option.isSome_iff_exists.mp fits
    change defined (printInto array source) next = next (strcpy array source)
    rw [inside, strcpy_of_printInto inside]
    rfl
  cut source next fits := by
    obtain ⟨written, inside⟩ := Option.isSome_iff_exists.mp fits
    change defined (cutInto source) _ = _
    rw [inside]
    rfl

/-! ## Requests whose fields fit -/

/-- The password of a device takes at most 21 bytes. -/
theorem secret_fits (stored : StoredKey a.key) (sized : target.length = 33) (source : Bytes) :
    (decodeInto a.passwordKey target source 7).isSome = true := by
  have bytes : a.key.encryptBlockBytes.toNat ≤ 3 := by
    rcases stored.registers with zero | ⟨e, d, n, registers, -⟩
    · rw [zero]
      decide
    · rw [registers]
      exact (blockBytes_range n).2
  rw [CLN.passwordKey, stored.decodeInto_isSome (by omega), sized]
  omega

/-- The calls of a request whose fields fit. -/
theorem calls_fit (sized : a.Sized) (stored : StoredKey a.key) (fit : a.fieldsFit false = true)
    {call : WriterCall} (calls : a.Calls call) : call.fits := by
  unfold CLN.fieldsFit at fit
  cases calls with
  | pin => trivial
  | password asks =>
    refine (password_isSome _ stored sized.userPassword).mpr ?_
    rcases asks with asks | asks | asks <;> rw [asks] at fit <;> exact of_decide_eq_true fit
  | renewal asks =>
    refine (password_isSome _ stored sized.reUserPassword).mpr ?_
    rw [asks] at fit
    exact of_decide_eq_true fit
  | scene asks parts =>
    refine (printInto_isSome _ _).mpr ?_
    have length := field_of_split parts
    rw [sized.data]
    omega
  | schedule asks parts =>
    refine (printInto_isSome _ _).mpr ?_
    rw [asks] at fit
    dsimp only at fit
    rw [sceneFits, parts] at fit
    have short := of_decide_eq_true fit
    rw [sized.date]
    omega
  | secret _ _ _ parts => exact secret_fits stored sized.userPassword _
  | id asks three keyed parts =>
    refine (printInto_isSome _ _).mpr ?_
    rw [asks] at fit
    dsimp only at fit
    rw [if_pos ⟨three, rfl⟩, registrationFits, if_neg keyed, parts] at fit
    have short := of_decide_eq_true fit
    rw [sized.userId]
    omega

/-! ## Requests whose fields do not -/

section

variable {α β : Type} {config : Config} {signedIn : Bool} {op : Op}

/-- The first operation of a handler. -/
def firstOp : Handler α → Option Op
  | .ret _ => none
  | .call op _ => some op

/-- A sequence begins with what its first part begins with. -/
theorem firstOp_bind {handler : Handler α} {f : α → Handler β} (first : firstOp handler = some op) :
    firstOp (handler >>= f) = some op := by
  cases handler with
  | ret value => contradiction
  | call other next => exact first

/-- An operation that is neither undefined nor a question for the flag of a connection. -/
def Op.proceeds : Op → Prop
  | .fault | .connSignedIn _ => False
  | _ => True

/-- Handlers of which one is undefined at once and the other proceeds or is over. -/
theorem onConnection_ne {stuck goes : Handler α} (stops : firstOp stuck = some .fault)
    (begins : ∀ op, firstOp goes = some op → op.proceeds) :
    onConnection signedIn stuck ≠ onConnection signedIn goes := by
  intro same
  have left : onConnection signedIn stuck = stuck := by
    unfold onConnection
    split
    · exact nomatch stops
    · rfl
  have right : onConnection signedIn goes = goes := by
    unfold onConnection
    split
    · exact (begins _ rfl).elim
    · rfl
  rw [left, right] at same
  rw [same] at stops
  exact begins _ stops

/-- A password of 32 blocks that does not fit stops the checked routine. -/
theorem password_stops {next : Bytes → Handler α} {f : α → Handler β}
    (long : decodeInto a.passwordKey target a.data 32 = none) :
    firstOp (Writers.checked.decode a.passwordKey target a.data 32 next >>= f) = some .fault := by
  change firstOp (defined (decodeInto a.passwordKey target a.data 32) next >>= f) = _
  rw [long]
  rfl

/-- The routine of the source goes on. -/
theorem password_goes {next : Bytes → Handler α} {f : α → Handler β} (stored : StoredKey a.key)
    (starts : ∀ written, ∃ op, firstOp (next written) = some op ∧ op.proceeds) (op : Op)
    (first : firstOp (Writers.source.decode a.passwordKey target a.data 32 next >>= f) = some op) :
    op.proceeds := by
  obtain ⟨characters, decoded, -⟩ := stored.decodeMessage_defined a.data (show 32 ≤ 100 by omega)
  have goes : Writers.source.decode a.passwordKey target a.data 32 next =
      next (memcpy target (characters.map fun c => c.toInt8.toUInt8) characters.length) := by
    change defined (decodeOver a.passwordKey target a.data 32) next = _
    rw [decodeOver, CLN.passwordKey, decoded]
    rfl
  rw [goes] at first
  obtain ⟨begun, starts, proceeds⟩ := starts _
  obtain rfl := Option.some.inj ((firstOp_bind starts).symm.trans first)
  exact proceeds

/-- `SIA` and `SIB` with a longer password overrun the field. -/
theorem signIn_overruns (stored : StoredKey a.key) {opcode : Opcode}
    (asks : a.requestClass = .user opcode) (sign : opcode = .sia ∨ opcode = .sib)
    (long : decodeInto a.passwordKey a.userPassword a.data 32 = none) :
    onConnection signedIn (@talk .checked config a) ≠ onConnection signedIn (talk config a) := by
  have handler (writers : Writers) :
      @talk writers config a = @talkSia writers a >>= endCase a := by
    rw [talk_user asks]
    rcases sign with rfl | rfl <;> rfl
  rw [handler, handler]
  exact onConnection_ne (password_stops long)
    (password_goes stored fun _ => ⟨_, rfl, trivial⟩)

/-- A reload can come to its end. -/
theorem reload_path : ∃ trace value, updateLocalRegUserAndIotlist.Path trace value :=
  ⟨_, _, answering_path updateLocalRegUserAndIotlist
    [.unit, .bytes [], .found (some CLN.zero.node), .node none] rfl⟩

/-- A reply can be sent. -/
theorem reply_path (a : CLN) (frame : Frame) : ∃ trace, (sendReply a frame).Path trace .left :=
  ⟨_, answering_path (sendReply a frame) [.int 1] rfl⟩

/-- A request that reloads the lists first. -/
theorem reload_overruns (reloads : ∀ writers : Writers, ∃ rest : Int → Handler Unit,
      @talk writers config a = updateLocalRegUserAndIotlist >>= rest)
    (differ : @talk .checked config a ≠ talk config a) :
    onConnection signedIn (@talk .checked config a) ≠ onConnection signedIn (talk config a) := by
  have still (writers : Writers) :
      onConnection signedIn (@talk writers config a) = @talk writers config a := by
    obtain ⟨rest, same⟩ := reloads writers
    rw [same]
    rfl
  rwa [still, still]

/-- `REA`, when the PIN is right and when the reply to a wrong one was sent. -/
theorem register_overruns (stored : StoredKey a.key) (asks : a.requestClass = .user .rea)
    (long : decodeInto a.passwordKey a.userPassword a.data 32 = none) :
    onConnection signedIn (@talk .checked config a) ≠ onConnection signedIn (talk config a) := by
  have handler (writers : Writers) : @talk writers config a = updateLocalRegUserAndIotlist >>=
      fun _ => (if streq (config.md5 (a.pin.take 6)) a.userPassword then @talkRegister writers a
        else Flow.andThen (sendReply a (reply "RPE")) (@talkRegister writers a)) >>= endCase a := by
    rw [talk_user asks]
    exact bind_bind _ _ _
  have differ : @talkRegister .checked a >>= endCase a ≠ talkRegister a >>= endCase a := by
    intro same
    refine password_goes stored ?_ .fault ((congrArg firstOp same).symm.trans (password_stops long))
    exact fun _ => ⟨_, rfl, trivial⟩
  refine reload_overruns (fun writers => ⟨_, handler writers⟩) fun same => ?_
  rw [handler, handler] at same
  obtain ⟨trace, value, path⟩ := reload_path
  have later := path.continues same
  by_cases right : streq (config.md5 (a.pin.take 6)) a.userPassword = true
  · rw [if_pos right, if_pos right] at later
    exact differ later
  · rw [if_neg right, if_neg right, Flow.andThen, Flow.andThen, bind_bind, bind_bind] at later
    obtain ⟨sent, path⟩ := reply_path a (reply "RPE")
    exact differ (path.continues later)

/-- `RPA` with a longer new password overruns the field. -/
theorem renewal_overruns (stored : StoredKey a.key) (asks : a.requestClass = .user .rpa)
    (long : decodeInto a.passwordKey a.reUserPassword a.data 32 = none) :
    onConnection signedIn (@talk .checked config a) ≠ onConnection signedIn (talk config a) := by
  have handler (writers : Writers) : @talk writers config a = @talkRpa writers a >>= endCase a :=
    talk_user asks
  refine reload_overruns (fun writers => ?_) fun same => ?_
  · rw [handler, talkRpa]
    exact ⟨_, bind_bind _ _ _⟩
  · rw [handler, handler] at same
    unfold talkRpa at same
    rw [bind_bind, bind_bind] at same
    obtain ⟨trace, value, path⟩ := reload_path
    have later := congrArg firstOp (path.continues same)
    refine password_goes stored ?_ .fault (later.symm.trans (password_stops long))
    exact fun _ => ⟨_, rfl, trivial⟩

/-- `SCE` with a longer date overruns the field. -/
theorem schedule_overruns (asks : a.requestClass = .user .sce) {first second : Bytes}
    {others : List Bytes} (parts : strSplit a.data 200 tilde = first :: second :: others)
    (inside : (printInto a.data first).isSome = true) (long : printInto a.date second = none) :
    onConnection signedIn (@talk .checked config a) ≠ onConnection signedIn (talk config a) := by
  have handler (writers : Writers) : @talk writers config a =
      (writers.print a.data first fun data => writers.print a.date second fun date =>
        talkSceneScheduled { a with data, date }) >>= endCase a := by
    rw [talk_user asks]
    change @talkSce writers a >>= _ = _
    rw [talkSce, parts]
  obtain ⟨data, inside⟩ := Option.isSome_iff_exists.mp inside
  rw [handler, handler]
  refine onConnection_ne ?_ fun op begins => ?_
  · change firstOp (defined (printInto a.data first) (fun data =>
      defined (printInto a.date second) _) >>= _) = _
    rw [inside]
    change firstOp (defined (printInto a.date second) _ >>= _) = _
    rw [long]
    rfl
  · -- a scene with all its fields begins with a lookup, one with too few is over
    change firstOp (talkSceneScheduled _ >>= endCase a) = some op at begins
    unfold talkSceneScheduled at begins
    dsimp only at begins
    split at begins
    · cases begins
    · split at begins
      all_goals
        obtain rfl := Option.some.inj begins
        trivial

/-- Opcode 3 on a connection that is not signed in. -/
theorem id_overruns (asks : a.requestClass = .device) (three : atoi a.checkcode = 3)
    (keyed : a.key.encryptBlockBytes ≠ 0) {name secret : Bytes} {others : List Bytes}
    (parts : strSplit a.data 200 underscore = name :: secret :: others)
    (stored : StoredKey a.key) (sized : a.userPassword.length = 33)
    (long : printInto a.userId name = none) :
    onConnection false (@talk .checked config a) ≠ onConnection false (talk config a) := by
  have handler (writers : Writers) : onConnection false (@talk writers config a) =
      (writers.decode a.passwordKey a.userPassword secret 7 fun userPassword =>
        writers.print a.userId name fun userId =>
          iotSignIn { a with userPassword, userId } name) >>= fun _ => finish a := by
    have fresh : false = false ∧ a.key.encryptBlockBytes ≠ 0 := ⟨rfl, keyed⟩
    rw [talk_device asks, iotTalk_regSign three, iotRegSign, parts]
    change ((ite (false = false ∧ a.key.encryptBlockBytes ≠ 0) _ _ : Handler Unit) >>= fun _ =>
      finish a) = _
    rw [if_pos fresh]
  obtain ⟨written, fits⟩ := Option.isSome_iff_exists.mp (secret_fits stored sized secret)
  intro same
  have first := congrArg firstOp same
  rw [handler, handler] at first
  change firstOp (defined (decodeInto a.passwordKey a.userPassword secret 7) (fun userPassword =>
    defined (printInto a.userId name) _) >>= _) =
      firstOp (defined (decodeOver a.passwordKey a.userPassword secret 7) _ >>= _) at first
  rw [fits, decodeOver_of_decodeInto fits] at first
  change firstOp (defined (printInto a.userId name) _ >>= _) = some (.checkIdPwd 1 _ _) at first
  rw [long] at first
  exact Op.noConfusion (Option.some.inj first)

end

/-! ## Exactly the requests whose fields fit -/

/-- A device that is signed in does not register. -/
theorem signed_in_same (config : Config) (asks : a.requestClass = .device)
    (three : atoi a.checkcode = 3) {good : WriterCall → Prop} :
    MakesOnly good fun writers => onConnection true (@talk writers config a) := by
  intro writers _
  have handler (writers : Writers) : onConnection true (@talk writers config a) =
      sendOpBack a "23" [] >>= fun _ => finish a := by
    rw [talk_device asks, iotTalk_regSign three]
    rfl
  exact (handler writers).trans (handler .source).symm

/-- A request whose fields fit makes calls that do. -/
theorem fits_of_fieldsFit (config : Config) {signedIn : Bool} (sized : a.Sized)
    (stored : StoredKey a.key) (fit : a.fieldsFit signedIn = true) :
    MakesOnly WriterCall.fits fun writers => onConnection signedIn (@talk writers config a) := by
  by_cases registered : a.requestClass = .device ∧ atoi a.checkcode = 3 ∧ signedIn = true
  · obtain ⟨asks, three, rfl⟩ := registered
    exact signed_in_same config asks three
  · have fresh : a.fieldsFit false = true := by
      unfold CLN.fieldsFit at fit ⊢
      cases signedIn with
      | false => exact fit
      | true =>
        cases asks : a.requestClass with
        | device =>
          have other : ¬atoi a.checkcode = 3 := fun three => registered ⟨asks, three, rfl⟩
          dsimp only
          rw [if_neg fun both => other both.1]
        | test => rfl
        | user opcode =>
          rw [asks] at fit
          cases opcode <;> exact fit
    have makes := (talk_calls config a).mono fun _ => calls_fit sized stored fresh
    exact makes.map (onConnection signedIn)

/-- A password that does not fit has no result. -/
theorem password_eq_none (source : Bytes) (stored : StoredKey a.key) (sized : target.length = 33)
    (large : ¬a.key.commonKey < 2 ^ 14) : decodeInto a.passwordKey target source 32 = none :=
  Option.not_isSome_iff_eq_none.mp ((password_isSome source stored sized).not.mpr large)

/-- A text that does not fit has none. -/
theorem printInto_eq_none {bound : Nat} (sized : target.length = bound + 1)
    (long : ¬strlen source ≤ bound) : printInto target source = none := by
  refine Option.not_isSome_iff_eq_none.mp ((printInto_isSome target source).not.mpr ?_)
  omega

/-- A request whose fields do not fit makes a call that does not. -/
theorem fieldsFit_of_fits {config : Config} {signedIn : Bool} (sized : a.Sized)
    (stored : StoredKey a.key) (makes : MakesOnly WriterCall.fits fun writers =>
      onConnection signedIn (@talk writers config a)) : a.fieldsFit signedIn = true := by
  have same := makes .checked checked_follows
  by_contra unfit
  unfold CLN.fieldsFit at unfit
  cases asks : a.requestClass with
  | test => simp [asks] at unfit
  | device =>
    rw [asks] at unfit
    dsimp only at unfit
    split at unfit
    · rename_i registers
      obtain ⟨three, rfl⟩ := registers
      unfold registrationFits at unfit
      split at unfit
      · exact unfit rfl
      · rename_i keyed
        split at unfit
        · rename_i parts
          have long := printInto_eq_none sized.userId (fun short => unfit (decide_eq_true short))
          exact id_overruns asks three keyed parts stored sized.userPassword long same
        · exact unfit rfl
    · exact unfit rfl
  | user opcode =>
    rw [asks] at unfit
    cases opcode
    case sia =>
      have long := password_eq_none a.data stored sized.userPassword (mt decide_eq_true unfit)
      exact signIn_overruns stored asks (.inl rfl) long same
    case sib =>
      have long := password_eq_none a.data stored sized.userPassword (mt decide_eq_true unfit)
      exact signIn_overruns stored asks (.inr rfl) long same
    case rea =>
      have long := password_eq_none a.data stored sized.userPassword (mt decide_eq_true unfit)
      exact register_overruns stored asks long same
    case rpa =>
      have long := password_eq_none a.data stored sized.reUserPassword (mt decide_eq_true unfit)
      exact renewal_overruns stored asks long same
    case sce =>
      dsimp only at unfit
      unfold sceneFits at unfit
      split at unfit
      · rename_i first date others parts
        have length := field_of_split parts
        have inside : (printInto a.data first).isSome = true := by
          rw [printInto_isSome, sized.data]
          omega
        have long := printInto_eq_none sized.date (fun short => unfit (decide_eq_true short))
        exact schedule_overruns asks parts inside long same
      · exact unfit rfl
    all_goals exact unfit rfl

/-- What follows the search for the device of a relayed command. -/
def relayed (message : CLN) (writers : Writers) : Option User → Handler Bool
  | none => .ret false
  | some device => writers.cut message.data fun payLoad =>
    .call (.connPin device.connHandle) fun (pin : Bytes) =>
      .call (.send device.userSocket (.iot ⟨text "00", 0, encryptText payLoad pin⟩)) fun (len : Int) =>
        if sendFailed len then .call (.closeSocket device.userSocket) fun _ => .ret true
        else .ret true

/-- A relayed command leaves its array exactly when its device is online. -/
theorem relayed_fits_iff (message : CLN) (sized : message.data.length = 513)
    (device : Option User) :
    (MakesOnly WriterCall.fits fun writers => relayed message writers device) ↔ device = none := by
  cases device with
  | none => exact iff_of_true (makesOnly_const _) rfl
  | some device =>
    refine iff_of_false (fun makes => ?_) (Option.some_ne_none _)
    have same := makes .checked checked_follows
    change defined (cutInto message.data) _ = _ at same
    rw [cutInto_eq_none sized] at same
    have first : some Op.fault = some (Op.connPin _) := congrArg firstOp same
    exact Op.noConfusion (Option.some.inj first)

/-- The writes of a request stay in their arrays exactly when its fields fit, and that of a relayed
command exactly when its device is not online. -/
theorem field_writes_fit_iff (config : Config) (signedIn : Bool) (a : CLN) (sized : a.Sized)
    (stored : StoredKey a.key) :
    ((MakesOnly WriterCall.fits fun writers => onConnection signedIn (@talk writers config a)) ↔
      a.fieldsFit signedIn = true) ∧
    ∀ message : CLN, message.data.length = 513 → topOpCode message.checkcode = 0 →
      (∀ writers : Writers, @handleTopServerMsg writers message =
        .call (.findOnline .iot (.name message.talktoId)) (relayed message writers)) ∧
      ∀ device, (MakesOnly WriterCall.fits fun writers => relayed message writers device) ↔
        device = none := by
  refine ⟨⟨fieldsFit_of_fits sized stored, fits_of_fieldsFit config sized stored⟩, ?_⟩
  intro message size code
  refine ⟨fun writers => ?_, relayed_fits_iff message size⟩
  rw [handleTopServerMsg, code]
  change @handleCommand writers message = _
  refine congrArg (Prog.call _) (funext fun device => ?_)
  cases device <;> rfl

/-- A device that registers with a key of the primes 13 and 17. -/
def registeringDevice (name : String) : CLN :=
  { CLN.zero with
    checkcode := text "03" ++ zeros 16
    data := padTo 513 (text name ++ text "_secret_")
    key := ⟨17, 113, 221, 1⟩ }

/-- The arrays of a zeroed record. -/
theorem zero_sized : CLN.zero.Sized := by
  constructor <;> exact List.length_replicate

/-- The arrays of the registering device. -/
theorem registeringDevice_sized (name : String) : (registeringDevice name).Sized :=
  { zero_sized with data := padTo_length _ _ }

/-- The key of the registering device is one that the handshake stores. -/
theorem registeringDevice_stored (name : String) : StoredKey (registeringDevice name).key := by
  have made : initRSA (fun draw => if draw < 11 then 13 else 17) 1 0 =
      some (⟨17, 113, 221, 1⟩, 23) := by
    decide +kernel
  exact .inr ⟨_, _, _, _, made⟩

/-- An id of eleven characters fits, and one of twelve does on a connection that is signed in. -/
theorem field_writes_fit_registering :
    (MakesOnly WriterCall.fits fun writers =>
      onConnection false (@talk writers bareConfig (registeringDevice "abcdefghijk"))) ∧
    MakesOnly WriterCall.fits fun writers =>
      onConnection true (@talk writers bareConfig (registeringDevice "abcdefghijkl")) :=
  ⟨(field_writes_fit_iff bareConfig false (registeringDevice "abcdefghijk")
      (registeringDevice_sized _) (registeringDevice_stored _)).1.mpr (by decide +kernel),
    (field_writes_fit_iff bareConfig true (registeringDevice "abcdefghijkl")
      (registeringDevice_sized _) (registeringDevice_stored _)).1.mpr (by decide +kernel)⟩

/-- A sign-in with a key of the primes 131 and 137, which packs two characters into a block. -/
def widePasswordSignIn : CLN :=
  { CLN.zero with
    checkcode := text "SIA" ++ zeros 15
    key := ⟨137, 5033, 17947, 2⟩ }

/-- The password of this sign-in, an id of twelve characters and a relayed command leave their
arrays. -/
theorem fields_overrun :
    (initRSA (fun draw => if draw < 11 then 131 else 137) 1 0 = some (widePasswordSignIn.key, 23) ∧
      ¬MakesOnly WriterCall.fits fun writers =>
        onConnection false (@talk writers bareConfig widePasswordSignIn)) ∧
    (¬MakesOnly WriterCall.fits fun writers =>
      onConnection false (@talk writers bareConfig (registeringDevice "abcdefghijkl"))) ∧
    ∀ device, ¬MakesOnly WriterCall.fits fun writers => relayed .zero writers (some device) := by
  have made : initRSA (fun draw => if draw < 11 then 131 else 137) 1 0 =
      some (widePasswordSignIn.key, 23) := by
    decide +kernel
  have sized : widePasswordSignIn.Sized := { zero_sized with }
  refine ⟨⟨made, fun makes => ?_⟩, fun makes => ?_, fun device makes => ?_⟩
  · have fit := fieldsFit_of_fits sized (.inr ⟨_, _, _, _, made⟩) makes
    exact absurd fit (by decide +kernel)
  · have fit := fieldsFit_of_fits (registeringDevice_sized _) (registeringDevice_stored _) makes
    exact absurd fit (by decide +kernel)
  · exact Option.some_ne_none device ((relayed_fits_iff .zero zero_sized.data _).mp makes)

end UubangIot
