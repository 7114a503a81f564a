import UubangIot.Verif.Handlers

/-!
# Frames with a sequence number

A handler advances the counter of a connection only to send the value in its next operation, as a
frame for a device on the socket of that connection. For `SEND_OP_BACK` of opcode 8 this needs that
the search has found the sender itself: the frame goes to the socket of the node it found, and the
counter is the sender's.
-/

namespace UubangIot

open Effect Effect.Prog

variable {α β : Type} {sockets : Nat → Nat} {heard : Happening → Prop}

/-- An operation that takes no sequence number and sends no frame to a device; a node it makes is on
the socket of its connection. -/
def Op.leavesNumbers (sockets : Nat → Nat) : Op → Prop
  | .nextSeqNum _ => False
  | .send _ frame => frame.toDevice = false
  | .newOnlineUserOrIotDev a => a.socket = sockets a.conn
  | _ => True

/-- A mild operation takes no number. -/
theorem Op.mild_leavesNumbers {op : Op} (mild : op.mild = true) : op.leavesNumbers sockets := by
  have unstamped := Op.mild_unstamped mild
  cases op with
  | nextSeqNum conn => exact Bool.noConfusion unstamped
  | send socket frame => exact (of_decide_eq_true unstamped).2
  | newOnlineUserOrIotDev a => exact Bool.noConfusion unstamped
  | _ => trivial

/-- Every sequence number that is taken goes out at once, on the socket of its connection. -/
inductive Stamps (sockets : Nat → Nat) (heard : Happening → Prop) : Handler α → Prop
  /-- Nothing is left. -/
  | ret (value : α) : Stamps sockets heard (.ret value)
  /-- An operation without a number. -/
  | call {op : Op} {next : op.Res → Handler α} (first : op.leavesNumbers sockets)
      (later : ∀ response, heard ⟨op, response⟩ → Stamps sockets heard (next response)) :
      Stamps sockets heard (.call op next)
  /-- A number and its frame. -/
  | stamp {conn socket : Nat} {opCode payLoad : Bytes} {next : UInt8 → Int → Handler α}
      (own : socket = sockets conn)
      (later : ∀ seqNum len, Stamps sockets heard (next seqNum len)) :
      Stamps sockets heard (.call (.nextSeqNum conn) fun seqNum =>
        .call (.send socket (.iot ⟨opCode, seqNum, payLoad⟩)) (next seqNum))

/-- A program that takes no number. -/
theorem Stamps.of_only {program : Handler α} (bounded : program.Only (Op.leavesNumbers sockets)) :
    Stamps sockets heard program := by
  induction program with
  | ret value => exact .ret value
  | call op next ih => exact .call bounded.1 fun response _ => ih response (bounded.2 response)

/-- A mild program takes no number. -/
theorem Mild.stamps {program : Handler α} (still : Mild program) :
    Stamps sockets heard program := .of_only (still.mono fun _ => Op.mild_leavesNumbers)

/-- A sequence, with what its first part may return. -/
theorem Stamps.bind {program : Handler α} {f : α → Handler β} (first : Stamps sockets heard program)
    (second : ∀ trace value, program.Path trace value → Stamps sockets heard (f value)) :
    Stamps sockets heard (program >>= f) := by
  induction first with
  | ret value => exact second [] value ⟨rfl, rfl⟩
  | call first later ih =>
    refine .call first fun response answer => ih response answer fun trace value path => ?_
    exact second (⟨_, response⟩ :: trace) value ⟨response, trace, rfl, path⟩
  | @stamp conn socket opCode payLoad next own later ih =>
    refine .stamp own fun seqNum len => ih seqNum len fun trace value path => ?_
    exact second (⟨.nextSeqNum conn, seqNum⟩ ::
      ⟨.send socket (.iot ⟨opCode, seqNum, payLoad⟩), len⟩ :: trace) value
      ⟨seqNum, _, rfl, len, trace, rfl, path⟩

/-- A sequence whatever its first part returns. -/
theorem Stamps.andThen {program : Handler α} {f : α → Handler β}
    (first : Stamps sockets heard program) (second : ∀ value, Stamps sockets heard (f value)) :
    Stamps sockets heard (program >>= f) := first.bind fun _ value _ => second value

/-- A program that leads to a stamped rest without a number. -/
theorem Stamps.of_leads {goal : Handler α → Prop} {program : Handler α}
    (leads : program.Leads (Op.leavesNumbers sockets) heard goal)
    (last : ∀ rest, goal rest → Stamps sockets heard rest) : Stamps sockets heard program := by
  induction leads with
  | here reached => exact last _ reached
  | call first later ih => exact .call first ih

/-- Undefined arithmetic is a fault. -/
theorem defined_stamps {value : Option α} {next : α → Handler β}
    (later : ∀ found, Stamps sockets heard (next found)) :
    Stamps sockets heard (defined value next) := by
  cases value with
  | none => exact faulty_mild.stamps
  | some found => exact later found

/-- A query whose rows are stamped. -/
theorem reading_stamps {statement : Statement} {each : Row → Handler Bool}
    (row : ∀ row, Stamps sockets heard (each row)) :
    Stamps sockets heard (reading statement each) := by
  have rows (rows : List Row) : Stamps sockets heard (eachRow each rows) := by
    induction rows with
    | nil => exact .ret _
    | cons first rest ih =>
      refine (row first).andThen fun more => ?_
      cases more with
      | true => exact ih
      | false => exact .ret _
  refine .call trivial fun node _ => ?_
  cases node with
  | none => exact .ret _
  | some node =>
    refine .call trivial fun answer _ => ?_
    cases answer with
    | failed duplicate => exact .call trivial fun _ _ => .ret _
    | done =>
      refine .call trivial fun stored _ => ?_
      cases stored with
      | none => exact faulty_mild.stamps
      | some found => exact (rows found).andThen fun _ => .call trivial fun _ _ => .ret _

/-! ## Device requests -/

section

variable {a : CLN} (own : a.socket = sockets a.conn)

include own

/-- A frame with the next number of the request's connection. -/
theorem sendIotRow_stamps (opCode payLoad : Bytes) :
    Stamps sockets heard (iotFrame a opCode payLoad >>= sendRow a) := by
  refine .stamp own fun seqNum len => ?_
  dsimp only [Prog.bind]
  split
  · exact .call trivial fun _ _ => .ret _
  · exact .ret _

/-- A reply to a device sends each number that it takes at once. -/
theorem sendOpBack_stamps (opCode : String) (payLoad : Bytes) :
    Stamps sockets heard (sendOpBack a opCode payLoad) :=
  (sendIotRow_stamps own (text opCode) payLoad).andThen fun _ => .ret _

/-- Opcode 1 sends each number that it takes at once. -/
theorem iotRsa_stamps : Stamps sockets heard (iotRsa a) :=
  .call trivial fun _ _ => .call trivial fun _ _ => .call trivial fun _ _ =>
    sendOpBack_stamps own _ _

/-- Opcode 2 sends each number that it takes at once. -/
theorem iotPin_stamps : Stamps sockets heard (iotPin a) := by
  unfold iotPin
  split
  · exact .ret _
  · refine .call trivial fun pin _ => .call trivial fun _ _ => ?_
    exact defined_stamps fun payLoad => sendOpBack_stamps own _ _

/-- What a sign-in does to the lists and its connection takes no number. -/
theorem signsBy_leavesNumbers {n : Bytes → Prop} {op : Op}
    (signs : op.signsBy a.conn a.socket n) : op.leavesNumbers sockets := by
  cases op with
  | newOnlineUserOrIotDev b =>
    obtain ⟨handle, line⟩ := signs
    rw [← handle, ← line] at own
    exact own
  | nextSeqNum conn => exact signs.elim
  | send socket frame => exact signs.elim
  | _ => trivial

/-- A sign-in of the request under another name. -/
theorem signIn_stamps {b : CLN} (handle : b.conn = a.conn) (line : b.socket = a.socket) :
    Stamps sockets heard (signIn b) :=
  .of_only (signIn_only (fun _ => Op.mild_leavesNumbers) b handle line fun _ =>
    signsBy_leavesNumbers (n := fun _ => True) own)

/-- The copy of a key id after a sign-in sends each number that it takes at once. -/
theorem refreshKeyId_stamps {b : CLN} (handle : b.conn = a.conn) :
    Stamps sockets heard (refreshKeyId b) :=
  .of_only (refreshKeyId_only (fun _ => Op.mild_leavesNumbers) b handle fun _ =>
    signsBy_leavesNumbers (n := fun _ => True) own)

/-- Opcode 3 after the password is decoded. -/
theorem iotSignIn_stamps (name : Bytes) : Stamps sockets heard (iotSignIn a name) := by
  refine (register_mild _ _).stamps.andThen fun _ => ?_
  refine (signIn_stamps own rfl rfl).andThen fun result => ?_
  split
  · refine .call trivial fun _ _ => .call trivial fun _ _ => ?_
    exact (refreshKeyId_stamps own rfl).andThen fun _ => sendOpBack_stamps own _ _
  · exact sendOpBack_stamps own _ _

/-- Opcode 3 sends each number that it takes at once. -/
theorem iotRegSign_stamps : Stamps sockets heard (iotRegSign a) := by
  refine .call trivial fun signedIn _ => ?_
  dsimp only [Prog.bind]
  split
  · split
    · rename_i name secret rest fields
      refine defined_stamps fun userPassword => ?_
      have renamed : { a with userPassword, userId := strcpy a.userId name }.socket =
          sockets a.conn := own
      exact iotSignIn_stamps renamed name
    · exact .ret _
  · exact sendOpBack_stamps own _ _

/-- One pair of opcode 4 sends each number that it takes at once. -/
theorem iotUpdatePair_stamps (evtClass : Int) (value : Bytes) :
    Stamps sockets heard (iotUpdatePair a evtClass value) := by
  unfold iotUpdatePair
  split
  · exact (iotUpdateStatus_mild _ _ _).stamps.andThen fun _ => sendOpBack_stamps own _ _
  · split
    · exact (iotUpdateStatus_mild _ _ _).stamps.andThen fun _ => sendOpBack_stamps own _ _
    · exact .ret _

/-- The pairs of opcode 4 send each number that they take at once. -/
theorem iotUpdateLoop_stamps (fields : List Bytes) :
    Stamps sockets heard (iotUpdateLoop a fields) := by
  induction fields using iotUpdateLoop.induct with
  | case1 kind value rest ih => exact (iotUpdatePair_stamps own _ _).andThen fun _ => ih
  | case2 fields short =>
    unfold iotUpdateLoop
    split
    · exact absurd rfl (short _ _ _)
    · exact .ret _

/-- Opcode 5 sends each number that it takes at once. -/
theorem iotRead_stamps : Stamps sockets heard (iotRead a) := by
  unfold iotRead
  split
  · exact .ret _
  · refine (iotReadCmd_mild _ _ _).stamps.bind fun trace found path => ?_
    obtain ⟨data, read⟩ := iotReadCmd_request a.decrypted _ _ trace found path
    obtain ⟨found, b⟩ := found
    obtain rfl : b = { a.decrypted with data } := read
    have same : { a.decrypted with data }.socket = sockets { a.decrypted with data }.conn := own
    dsimp only
    split
    · exact sendOpBack_stamps same _ _
    · exact (iotReadCmd_mild _ _ _).stamps.andThen fun _ => sendOpBack_stamps same _ _

/-- The fields of opcode 7 send each number that they take at once. -/
theorem iotReadLoop_stamps (fields : List Bytes) : Stamps sockets heard (iotReadLoop a fields) := by
  induction fields with
  | nil => exact .ret _
  | cons field rest ih =>
    exact (reading_stamps fun _ => sendIotRow_stamps own _ _).andThen fun _ => ih

/-- Opcode 8 sends each number that it takes at once. -/
theorem iotSend_stamps
    (self : ∀ id node, heard ⟨.findOnline .iot (.key id), some node⟩ → node.userSocket = a.socket) :
    Stamps sockets heard (iotSend a) := by
  unfold iotSend
  split
  · refine .call trivial fun online answer => ?_
    cases online with
    | none =>
      refine .call trivial fun found _ => ?_
      cases found with
      | none => exact faulty_mild.stamps
      | some device =>
        exact (send2OnlineUserViaTopServer_mild _).stamps.andThen fun _ => .ret _
    | some node =>
      have line : node.userSocket = sockets a.conn := (self _ node answer).trans own
      have addressed : { a.decrypted with socket := node.userSocket }.socket = sockets a.conn := line
      exact .call trivial fun pin _ => sendOpBack_stamps addressed _ _
  · exact .ret _

/-- Opcode 9 sends each number that it takes at once. -/
theorem iotStore_stamps : Stamps sockets heard (iotStore a) := by
  unfold iotStore
  split
  · refine .call trivial fun found _ => ?_
    cases found with
    | none => exact sendOpBack_stamps own _ _
    | some device =>
      exact (newIotCmdToBeExecute_mild _ _ _ _ _).stamps.andThen fun stored =>
        sendOpBack_stamps own _ _
  · exact .ret _

/-- `IoTtalk` sends each number that it takes at once. -/
theorem iotTalk_stamps
    (self : ∀ id node, heard ⟨.findOnline .iot (.key id), some node⟩ → node.userSocket = a.socket) :
    Stamps sockets heard (iotTalk a) := by
  have signedIn {handler : Handler Unit} (stamps : Stamps sockets heard handler) :
      Stamps sockets heard (a.whenSignedIn handler) := by
    unfold CLN.whenSignedIn
    split
    · exact stamps
    · exact .ret _
  unfold iotTalk
  split
  · exact iotRsa_stamps own
  · exact iotPin_stamps own
  · exact iotRegSign_stamps own
  · refine signedIn ?_
    unfold iotUpdate
    dsimp only
    split
    · exact .ret _
    · have decrypted : a.decrypted.socket = sockets a.decrypted.conn := own
      exact iotUpdateLoop_stamps decrypted _
  · exact signedIn (iotRead_stamps own)
  · exact signedIn ((reading_stamps fun _ => sendIotRow_stamps own _ _).andThen fun _ => .ret _)
  · exact signedIn (iotReadLoop_stamps own _)
  · exact signedIn (iotSend_stamps own self)
  · exact signedIn (iotStore_stamps own)
  · exact .ret _

end

/-! ## User requests -/

/-- `ICM` to a device that is online here. -/
theorem commandDevice_stamps {device : User} (own : device.userSocket = sockets device.connHandle)
    (payLoad : Bytes) : Stamps sockets heard (commandDevice device payLoad) := by
  refine .call trivial fun pin _ => .stamp own fun seqNum len => ?_
  dsimp only [Prog.bind]
  split
  · exact .call trivial fun _ _ => .ret _
  · exact .ret _

/-- The end of a task sends each number that it takes at once. -/
theorem finish_stamps (a : CLN) : Stamps sockets heard (finish a) :=
  .call trivial fun _ _ => .call trivial fun _ _ => .ret _

/-- A case that takes no number. -/
theorem Stamps.of_case {a : CLN} {handler : Handler Flow}
    (leads : handler.Leads (Op.leavesNumbers sockets) heard (Ends True a)) :
    Stamps sockets heard handler := by
  refine .of_leads leads fun rest ends => ?_
  obtain rfl | rfl | ⟨-, rfl⟩ := ends
  · exact .ret _
  · exact (finish_stamps a).andThen fun _ => .ret _
  · exact .ret _

/-- A frame for a user. -/
theorem sendReply_stamps (a : CLN) {frame : Frame} (user : frame.toDevice = false) :
    Stamps sockets heard (sendReply a frame) :=
  .of_case (sendReply_leads a user trivial)

/-- `RSA` sends each number that it takes at once. -/
theorem talkRsa_stamps (a : CLN) : Stamps sockets heard (talkRsa a) :=
  .call trivial fun _ _ => .call trivial fun _ _ => .call trivial fun _ _ => sendReply_stamps a rfl

/-- `HBA` sends each number that it takes at once. -/
theorem talkHba_stamps (a : CLN) : Stamps sockets heard (talkHba a) := by
  refine (sendReply_stamps a rfl).andThen fun flow => ?_
  cases flow with
  | left => exact talkRsa_stamps a
  | returned => exact .ret _

/-- `ICM` sends each number that it takes at once. -/
theorem talkIcm_stamps (a : CLN)
    (paired : ∀ userId node, heard ⟨.findOnline .iot (.name userId), some node⟩ →
      node.userSocket = sockets node.connHandle) : Stamps sockets heard (talkIcm a) := by
  unfold talkIcm
  split
  · refine .call trivial fun found answer => ?_
    cases found with
    | none =>
      exact .of_case (commandElsewhere_leads (fun _ => Op.mild_leavesNumbers) a _
        fun _ => trivial)
    | some device => exact commandDevice_stamps (paired _ device answer) _
  · exact .ret _

/-- Every case of the switch. -/
theorem talkCase_stamps (config : Config) (a : CLN) (opcode : Opcode)
    (requested : a.requestClass = .user opcode) (own : a.socket = sockets a.conn)
    (paired : ∀ userId node, heard ⟨.findOnline .iot (.name userId), some node⟩ →
      node.userSocket = sockets node.connHandle) :
    Stamps sockets heard (talkCase config a opcode) := by
  have other (command : opcode ≠ .icm) (keeps : a.rekeying = false) :
      Stamps sockets heard (talkCase config a opcode) :=
    .of_case (talkCase_leads (fun _ => Op.mild_leavesNumbers) config a opcode requested trivial
      (fun icm => absurd icm command) (fun _ _ signs => signsBy_leavesNumbers own signs)
      (fun rekeys => Bool.noConfusion (keeps.symm.trans rekeys)) (fun _ => trivial)
      fun _ _ _ => trivial)
  cases opcode with
  | icm => exact talkIcm_stamps a paired
  | hba => exact talkHba_stamps a
  | rsa => exact talkRsa_stamps a
  | _ =>
    refine other (by decide) ?_
    rw [CLN.rekeying, requested]

/-- Every request of a connection on its own socket. -/
theorem talk_stamps (config : Config) (a : CLN) (own : a.socket = sockets a.conn)
    (paired : ∀ userId node, heard ⟨.findOnline .iot (.name userId), some node⟩ →
      node.userSocket = sockets node.connHandle)
    (self : ∀ id node, heard ⟨.findOnline .iot (.key id), some node⟩ → node.userSocket = a.socket) :
    Stamps sockets heard (talk config a) := by
  cases asks : a.requestClass with
  | test =>
    rw [talk, asks]
    exact .call rfl fun _ _ => finish_stamps a
  | device =>
    rw [talk_device asks]
    exact (iotTalk_stamps own self).andThen fun _ => finish_stamps a
  | user opcode =>
    rw [talk_user asks]
    refine (talkCase_stamps config a opcode asks own paired).andThen fun flow => ?_
    cases flow with
    | left => exact finish_stamps a
    | returned => exact .ret _

end UubangIot
