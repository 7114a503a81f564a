import UubangIot.Server.SqlText
import UubangIot.Verif.FreshRequests
import Mathlib.Tactic.Ring

/-!
# Statements and the arrays they are printed into

The length of each text is that of its template and of what is printed into it. The texts of scenes
and commands outgrow their arrays for packets of admissible size; the text of a registration does
not, since all its parts are fields of one request.
-/

namespace UubangIot

open Effect Transition Transition.System

/-- A text with its terminator fits into an array. -/
def printsWithin (printed : Bytes) (size : Nat) : Prop := printed.length + 1 ≤ size

/-- The text of a statement fits into its array. -/
def Statement.fits (statement : Statement) : Prop :=
  ∀ sql ∈ statement.sql, printsWithin sql statement.buffer

/-- The characters `%d` prints. -/
def width (value : Int) : Nat := (decimal value).length

/-- The text of a scene. -/
theorem sceneText_length (iotid devClass : Int) (cmd : Bytes) (status : Int)
    (timeStamp exeDate : Bytes) (cmdGroup fromUserId : Int) :
    (sceneText iotid devClass cmd status timeStamp exeDate cmdGroup fromUserId).length =
      160 + (cmd.length + timeStamp.length + exeDate.length) +
        (width iotid + width devClass + width status + width cmdGroup + width fromUserId) := by
  have opens : (text ("INSERT INTO `userscenecmd` (`iotid`, `devClass`, `cmdContent`, `status`, " ++
      "`CmdTime`, `ExeDate`, `CmdGroup`, `fromUserId`) VALUES (" ++ "'")).length = 130 := by
    decide +kernel
  have between : (text "', '").length = 4 := by decide
  have closes : (text "')").length = 2 := by decide
  simp only [sceneText, printed, List.flatten_cons, List.flatten_nil, List.length_append,
    List.length_nil, opens, between, closes, width]
  ring

/-- The text of a command. -/
theorem commandText_length (iotid devClass status : Int) (cmd : Bytes) (fromid : Int)
    (cmdDate : Bytes) :
    (commandText iotid devClass status cmd fromid cmdDate).length =
      126 + (cmd.length + cmdDate.length) +
        (width iotid + width devClass + width status + width fromid) := by
  have opens : (text ("INSERT INTO `iotcmd` (`iotid`, `class`, `status`, `cmd`, `fromid`, `cmdDate`, " ++
      "`cmdStatus`) VALUES (" ++ "'")).length = 100 := by
    decide +kernel
  have between : (text "', '").length = 4 := by decide
  have tight : (text "','").length = 3 := by decide
  have closes : (text "', '0')").length = 7 := by decide
  simp only [commandText, printed, List.flatten_cons, List.flatten_nil, List.length_append,
    List.length_nil, opens, between, tight, closes, width]
  ring

/-- The text of a registration. -/
theorem userText_length (userId nickName passWord email : Bytes) :
    (userText userId nickName passWord email).length =
      117 + (userId.length + nickName.length + passWord.length + email.length) := by
  have opens : (text ("INSERT INTO user (id, userId, nickName, passWord, email, registDate) VALUES " ++
      "(NULL, " ++ "'")).length = 84 := by
    decide +kernel
  have between : (text "', '").length = 4 := by decide
  have after : (text "', ").length = 3 := by decide
  have closes : (text "CURRENT_TIMESTAMP)").length = 18 := by decide
  simp only [userText, printed, List.flatten_cons, List.flatten_nil, List.length_append,
    List.length_nil, opens, between, after, closes]
  omega

/-- The text of a scene's command. -/
theorem sceneCmd_length (first second third : Bytes) (id : Int) :
    (sceneCmd first second third id).length =
      11 + 2 * (strlen first + strlen second + strlen third) + width id := by
  have dash : (text "-").length = 1 := by decide
  have plus : (text "+").length = 1 := by decide
  have middle : (text "-98-").length = 4 := by decide
  simp only [sceneCmd, List.length_append, dash, plus, middle, width, strlen]
  omega

/-- A text that is printed whole. -/
theorem fits_iff {statement : Statement} {sql : Bytes} (formatted : statement.sql = some sql) :
    statement.fits ↔ sql.length + 1 ≤ statement.buffer := by
  simp [Statement.fits, printsWithin, formatted]

/-! ## Registrations -/

/-- The statement of `UserRegiter`. -/
def CLN.registration (a : CLN) : Statement :=
  .insertUser (cstr a.userId) (cstr a.info) (cstr a.userPassword) (cstr a.data)

/-- A decoded array is no shorter than it was. -/
theorem decodeOver_length {key : RsaUtils.RSAKey} {target source decoded : Bytes} {len : Nat}
    (found : decodeOver key target source len = some decoded) :
    target.length ≤ decoded.length := by
  simp only [decodeOver, Option.map_eq_some_iff] at found
  obtain ⟨characters, -, rfl⟩ := found
  simp only [memcpy, List.length_append, List.length_take, List.length_map, List.length_drop]
  omega

/-- The password of a registration ends at its 33rd byte. -/
theorem registered_password_length {key : RsaUtils.RSAKey} {target source decoded pin : Bytes}
    (size : target.length = 33) (found : decodeOver key target source 32 = some decoded) :
    strlen (decryptOver (decoded.set 32 0) 32 pin) ≤ 32 := by
  have bound := decodeOver_length found
  apply strlen_le_of_zero
  have front : (decrypt (decoded.set 32 0) 32 pin).length = 32 := by
    simp only [decrypt, List.length_mapIdx, List.length_take, List.length_set]
    omega
  rw [decryptOver, List.getElem?_append_right front.le, front, List.getElem?_drop]
  exact List.getElem?_set_self (by omega)

/-- `info` of a request has no more text than its flags and its counter. -/
theorem info_length {a : CLN} (rest : a.infoRest = zeros 94) : strlen a.info ≤ 6 := by
  apply strlen_le_of_zero
  have front : (a.info0 :: a.info1 :: taskBytes a.taskNum).length = 6 := rfl
  rw [CLN.info, rest, List.getElem?_append_right front.le, front]
  rfl

/-- A request of a blank connection has its `info`. -/
theorem Copied.infoRest {handle : Nat} {record request : CLN} {packet : Bytes}
    (copied : Copied handle record packet request) : request.infoRest = record.infoRest := by
  obtain ⟨_, rfl⟩ := copied
  unfold snapshot
  split <;> rfl

/-- The text of a registration fits. -/
theorem registration_fits {handle : Nat} {record request : CLN} {packet : Bytes}
    (blank : Blank record) (read : readable packet = true)
    (copied : Copied handle record packet request) {userPassword : Bytes}
    (found : decodeOver request.passwordKey request.userPassword request.data 32 =
      some userPassword) :
    { request with
      userPassword := decryptOver (userPassword.set 32 0) 32 request.pin : CLN }.registration.fits := by
  have decoded : Decoded packet request := by
    obtain ⟨info1, rfl⟩ := copied
    have plain : Decoded packet (snapshot handle record packet).1 := blank.decoded read
    exact { plain with }
  have userId : strlen request.userId ≤ 11 := by
    have ends := blank.request_userId read copied
    apply strlen_le_of_zero
    have last := congrArg (fun array : Bytes => array[0]?) ends
    simpa using last
  have info : strlen request.info ≤ 6 := info_length (copied.infoRest.trans blank.infoRest)
  have passWord : strlen (decryptOver (userPassword.set 32 0) 32 request.pin) ≤ 32 :=
    registered_password_length decoded.userPassword.1 found
  have data := strlen_of_terminated decoded.data
  rw [fits_iff rfl]
  change (userText _ _ _ _).length + 1 ≤ 800
  rw [userText_length]
  change 117 + (strlen request.userId + strlen request.info +
    strlen (decryptOver (userPassword.set 32 0) 32 request.pin) + strlen request.data) + 1 ≤ 800
  omega

/-- The texts of scenes, commands and scene commands fit exactly when what is printed into them is
short enough; the text of a registration fits for every request of every run. -/
theorem sql_texts_fit_iff (config : Config) (turns : List Turn) (server : ServerState)
    (short : (interleaved config).Meets (fun server turn => shortIds server turn = true) .initial
      turns)
    (reached : (interleaved config).run .initial turns = some server) (conn : Nat) (record : CLN)
    (known : server.memory.conns conn = some record) (packet : Bytes)
    (read : readable packet = true) (request : CLN)
    (copied : Copied conn record packet request) :
    (∀ iotid devClass cmd status timeStamp exeDate cmdGroup fromUserId,
      (Statement.insertScene iotid devClass cmd status timeStamp exeDate cmdGroup fromUserId).fits ↔
        cmd.length + timeStamp.length + exeDate.length + (width iotid + width devClass +
          width status + width cmdGroup + width fromUserId) ≤ 139) ∧
    (∀ iotid devClass status cmd fromid cmdDate,
      (Statement.insertCommand iotid devClass status cmd fromid cmdDate).fits ↔
        cmd.length + cmdDate.length + (width iotid + width devClass + width status +
          width fromid) ≤ 73) ∧
    (∀ first second third id,
      printsWithin (sceneCmd first second third id) sceneCmdBuffer ↔
        2 * (strlen first + strlen second + strlen third) + width id ≤ 188) ∧
    ∀ userPassword,
      decodeOver request.passwordKey request.userPassword request.data 32 = some userPassword →
      { request with
        userPassword := decryptOver (userPassword.set 32 0) 32 request.pin : CLN }.registration.fits := by
  refine ⟨?_, ?_, ?_, ?_⟩
  · intro iotid devClass cmd status timeStamp exeDate cmdGroup fromUserId
    rw [fits_iff rfl, sceneText_length]
    change _ ≤ 300 ↔ _
    omega
  · intro iotid devClass status cmd fromid cmdDate
    rw [fits_iff rfl, commandText_length]
    change _ ≤ 200 ↔ _
    omega
  · intro first second third id
    rw [printsWithin, sceneCmd_length]
    change _ ≤ 200 ↔ _
    omega
  · intro userPassword found
    have orderly := Orderly.run (blank_discipline config)
      (short.mono fun _ _ => heeds_of_shortIds) reached
    exact registration_fits (orderly.records conn record known) read copied found

/-- A greeted connection and a registration packet. -/
theorem sql_texts_fit_registration : ∃ server record,
    (interleaved bareConfig).run .initial greeting = some server ∧
      server.memory.conns 0 = some record ∧
      ∀ userPassword, decodeOver (snapshot 0 record (text "REA")).1.passwordKey
          (snapshot 0 record (text "REA")).1.userPassword (snapshot 0 record (text "REA")).1.data 32 =
          some userPassword →
        { (snapshot 0 record (text "REA")).1 with
          userPassword := decryptOver (userPassword.set 32 0) 32
            (snapshot 0 record (text "REA")).1.pin : CLN }.registration.fits := by
  refine ⟨_, _, rfl, rfl, ?_⟩
  exact (sql_texts_fit_iff bareConfig greeting _ (by decide) rfl 0 _ rfl (text "REA") (by decide) _
    ⟨_, rfl⟩).2.2.2

/-- A scene packet of 242 bytes for the device `dev0000001`. -/
def longScene : Bytes :=
  text "SCE" ++ zeros 60 ++ text "dev0000001" ++ zeros 35 ++ text "1-2-3-4-5-6-7-" ++
    List.replicate 120 120

/-- Its scene does not fit into the array of its statement. -/
theorem long_scene_overflows :
    readable longScene = true ∧
      ¬(Statement.insertScene 1 99 (cstr (snapshot 0 (.fresh 5) longScene).1.data) 0 noTime everyDay 0
        7).fits := by
  refine ⟨by decide +kernel, ?_⟩
  rw [fits_iff rfl]
  decide +kernel

end UubangIot
