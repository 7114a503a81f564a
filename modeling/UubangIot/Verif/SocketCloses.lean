import UubangIot.Verif.StampedFrames

/-!
# The sockets that a request closes

A handler closes a socket after a failed send: the socket of its request, or that of a device's node
which it has found online. `Closes` says so of a program, with the handles it holds when it begins;
every node that a search finds adds its own.
-/

namespace UubangIot

open Effect Effect.Prog

variable {α β : Type} {a b : CLN} {held : Nat → Prop}

/-- An operation with the handles that are held: it closes one of them, and a node it makes is on the
socket of the request. -/
def Op.handles (a : CLN) (held : Nat → Prop) : Op → Prop
  | .closeSocket socket => held socket
  | .newOnlineUserOrIotDev b => b.conn = a.conn ∧ b.socket = a.socket
  | _ => True

/-- The node that a search of the online lists has answered with. -/
def foundNode : Happening → Option User
  | ⟨.findOnline _ _, found⟩ => found
  | _ => none

/-- The handles that are held after an operation. -/
def alsoHeld (held : Nat → Prop) (happening : Happening) (socket : Nat) : Prop :=
  held socket ∨ ∃ node ∈ foundNode happening, node.userSocket = socket

/-- The program of a request closes no socket but those it holds. -/
def Closes (a : CLN) : (held : Nat → Prop) → Handler α → Prop
  | _, .ret _ => True
  | held, .call op next =>
    op.handles a held ∧ ∀ response, Closes a (alsoHeld held ⟨op, response⟩) (next response)

/-- A mild operation closes nothing. -/
theorem Op.mild_handles {op : Op} (mild : op.mild = true) : op.handles a held := by
  cases op with
  | closeSocket socket => exact Bool.noConfusion mild
  | newOnlineUserOrIotDev b => exact Bool.noConfusion mild
  | _ => trivial

/-- More handles may be held. -/
theorem Op.handles_mono {more : Nat → Prop} {op : Op} (handles : op.handles a held)
    (grows : ∀ socket, held socket → more socket) : op.handles a more := by
  cases op with
  | closeSocket socket => exact grows socket handles
  | newOnlineUserOrIotDev b => exact handles
  | _ => trivial

/-- A request that holds more comes to hold more. -/
theorem alsoHeld_mono {more : Nat → Prop} (grows : ∀ socket, held socket → more socket)
    {happening : Happening} {socket : Nat} (known : alsoHeld held happening socket) :
    alsoHeld more happening socket := known.imp_left (grows socket)

/-- A request that holds more may close as much. -/
theorem Closes.mono {more : Nat → Prop} {program : Handler α} (closes : Closes a held program)
    (grows : ∀ socket, held socket → more socket) : Closes a more program := by
  induction program generalizing held more with
  | ret value => trivial
  | call op next ih =>
    have now := Op.handles_mono closes.1 grows
    exact ⟨now, fun response => ih response (closes.2 response) fun _ => alsoHeld_mono grows⟩

/-- What is held stays held. -/
theorem Closes.later {program : Handler α} (closes : Closes a held program)
    (happening : Happening) : Closes a (alsoHeld held happening) program :=
  closes.mono fun _ => .inl

/-- A program of operations on the handles held at its beginning. -/
theorem Closes.of_only {program : Handler α} (bounded : program.Only (Op.handles a held)) :
    Closes a held program := by
  induction program generalizing held with
  | ret value => trivial
  | call op next ih =>
    refine ⟨bounded.1, fun response => ih response ?_⟩
    exact (bounded.2 response).mono fun _ handles => Op.handles_mono handles fun _ => .inl

/-- A mild program closes nothing. -/
theorem Mild.closes {program : Handler α} (still : Mild program) : Closes a held program :=
  .of_only (still.mono fun _ => Op.mild_handles)

/-- A sequence closes no socket but those it holds, when its parts close no other. -/
theorem Closes.bind {program : Handler α} {f : α → Handler β} (first : Closes a held program)
    (second : ∀ trace value, program.Path trace value → Closes a held (f value)) :
    Closes a held (program >>= f) := by
  induction program generalizing held with
  | ret value => exact second [] value ⟨rfl, rfl⟩
  | call op next ih =>
    refine ⟨first.1, fun response => ih response (first.2 response) fun trace value path => ?_⟩
    exact (second (⟨op, response⟩ :: trace) value ⟨response, trace, rfl, path⟩).later _

/-- A sequence whatever its first part returns. -/
theorem Closes.andThen {program : Handler α} {f : α → Handler β} (first : Closes a held program)
    (second : ∀ value, Closes a held (f value)) : Closes a held (program >>= f) :=
  first.bind fun _ value _ => second value

/-- A program that leads to such a rest. -/
theorem Closes.of_leads {goal : Handler α → Prop} {program : Handler α}
    (leads : program.Leads (Op.handles a held) (fun _ => True) goal)
    (last : ∀ rest, goal rest → Closes a held rest) : Closes a held program := by
  induction leads with
  | here reached => exact last _ reached
  | call first later ih => exact ⟨first, fun response => (ih response trivial).later _⟩

/-- What is left of a program, with what it has found on the way. -/
theorem Closes.comes {program rest : Handler α} {trace : List Happening}
    (closes : Closes a held program) (comes : Comes program trace rest) :
    Closes a (fun socket => held socket ∨
      ∃ happening ∈ trace, ∃ node ∈ foundNode happening, node.userSocket = socket) rest := by
  induction comes generalizing held with
  | here program => exact closes.mono fun _ => .inl
  | call op next response trace rest later ih =>
    refine (ih (closes.2 response)).mono fun socket known => ?_
    rcases known with (before | now) | ⟨happening, member, found⟩
    · exact .inl before
    · exact .inr ⟨_, List.mem_cons_self, now⟩
    · exact .inr ⟨happening, List.mem_cons_of_mem _ member, found⟩

/-- Undefined arithmetic is a fault. -/
theorem defined_closes {value : Option α} {next : α → Handler β}
    (later : ∀ found, Closes a held (next found)) : Closes a held (defined value next) := by
  cases value with
  | none => exact faulty_mild.closes
  | some found => exact later found

/-! ## Device requests -/

section

variable (own : held a.socket)

/-- A frame on a socket that is held. -/
theorem sendIotRow_closes (line : held b.socket) (opCode payLoad : Bytes) :
    Closes a held (iotFrame b opCode payLoad >>= sendRow b) :=
  .of_only ⟨trivial, fun _ => sendRow_only b trivial line⟩

/-- A reply to a device closes only sockets it holds. -/
theorem sendOpBack_closes (line : held b.socket) (opCode : String) (payLoad : Bytes) :
    Closes a held (sendOpBack b opCode payLoad) :=
  (sendIotRow_closes line (text opCode) payLoad).andThen fun _ => trivial

/-- Rows on a socket that is held. -/
theorem listing_closes (line : held b.socket) (statement : Statement) (opCode : Bytes)
    (payLoad : Row → Bytes) :
    Closes a held (reading statement fun row => iotFrame b opCode (payLoad row) >>= sendRow b) :=
  .of_only (listing_only (fun _ => Op.mild_handles) _ fun _ =>
    ⟨trivial, fun _ => sendRow_only b trivial line⟩)

include own

/-- Opcode 1 closes only sockets it holds. -/
theorem iotRsa_closes : Closes a held (iotRsa a) := by
  have answer (key : RsaUtils.RSAKey) := sendOpBack_closes (a := a) own "01" (announcement key)
  refine ⟨trivial, fun _ => ⟨trivial, fun key => ⟨trivial, fun _ => ?_⟩⟩⟩
  exact (((answer key).later _).later _).later _

/-- Opcode 2 closes only sockets it holds. -/
theorem iotPin_closes : Closes a held (iotPin a) := by
  unfold iotPin
  split
  · trivial
  · refine ⟨trivial, fun pin => ⟨trivial, fun _ => ?_⟩⟩
    exact defined_closes fun payLoad => ((sendOpBack_closes own _ _).later _).later _

omit own in
/-- What a sign-in does to the lists and its connection is on the socket of the request. -/
theorem signsBy_handles {n : Bytes → Prop} {op : Op} (signs : op.signsBy a.conn a.socket n) :
    op.handles a held := by
  cases op with
  | newOnlineUserOrIotDev b => exact signs
  | closeSocket socket => exact signs.elim
  | _ => trivial

/-- Opcode 3 after the password is decoded. -/
theorem iotSignIn_closes (name : Bytes) (handle : b.conn = a.conn) (line : b.socket = a.socket) :
    Closes a held (iotSignIn b name) := by
  have quiet (op : Op) (mild : op.mild = true) : op.handles a held := Op.mild_handles mild
  have session (op : Op) (signs : op.signsBy a.conn a.socket fun _ => True) :
      op.handles a held := signsBy_handles signs
  have answer (opCode : String) : Closes a held (sendOpBack b opCode []) :=
    sendOpBack_closes (line ▸ own) opCode []
  refine (register_mild b 1).closes.andThen fun _ => ?_
  refine (Closes.of_only (signIn_only quiet b handle line session)).andThen fun result => ?_
  split
  · refine ⟨trivial, fun _ => ⟨trivial, fun _ => ?_⟩⟩
    refine Closes.later (Closes.later ?_ _) _
    refine (Closes.of_only (refreshKeyId_only quiet b handle session)).andThen fun _ => ?_
    exact answer "03"
  · exact answer "23"

/-- Opcode 3 closes only sockets it holds. -/
theorem iotRegSign_closes : Closes a held (iotRegSign a) := by
  refine ⟨trivial, fun signedIn => ?_⟩
  refine Closes.later ?_ _
  dsimp only [Prog.bind]
  split
  · split
    · exact defined_closes fun userPassword => iotSignIn_closes own _ rfl rfl
    · trivial
  · exact sendOpBack_closes own _ _

/-- One pair of opcode 4 closes only sockets it holds. -/
theorem iotUpdatePair_closes (line : b.socket = a.socket) (evtClass : Int) (value : Bytes) :
    Closes a held (iotUpdatePair b evtClass value) := by
  have held : held b.socket := line ▸ own
  unfold iotUpdatePair
  split
  · exact (iotUpdateStatus_mild _ _ _).closes.andThen fun _ => sendOpBack_closes held _ _
  · split
    · exact (iotUpdateStatus_mild _ _ _).closes.andThen fun _ => sendOpBack_closes held _ _
    · trivial

/-- The pairs of opcode 4 close only sockets they hold. -/
theorem iotUpdateLoop_closes (line : b.socket = a.socket) (fields : List Bytes) :
    Closes a held (iotUpdateLoop b fields) := by
  induction fields using iotUpdateLoop.induct with
  | case1 kind value rest ih => exact (iotUpdatePair_closes own line _ _).andThen fun _ => ih
  | case2 fields short =>
    unfold iotUpdateLoop
    split
    · exact absurd rfl (short _ _ _)
    · trivial

/-- Opcode 5 closes only sockets it holds. -/
theorem iotRead_closes : Closes a held (iotRead a) := by
  unfold iotRead
  split
  · trivial
  · refine (iotReadCmd_mild _ _ _).closes.bind fun trace found path => ?_
    obtain ⟨data, read⟩ := iotReadCmd_request a.decrypted _ _ trace found path
    obtain ⟨found, b⟩ := found
    obtain rfl : b = { a.decrypted with data } := read
    have held : held { a.decrypted with data }.socket := own
    dsimp only
    split
    · exact sendOpBack_closes held _ _
    · exact (iotReadCmd_mild _ _ _).closes.andThen fun _ => sendOpBack_closes held _ _

/-- The fields of opcode 7 close only sockets they hold. -/
theorem iotReadLoop_closes (fields : List Bytes) : Closes a held (iotReadLoop a fields) := by
  induction fields with
  | nil => trivial
  | cons field rest ih => exact (listing_closes own _ _ _).andThen fun _ => ih

omit own in
/-- Opcode 8 answers on the socket of the node it has found. -/
theorem iotSend_closes : Closes a held (iotSend a) := by
  unfold iotSend
  split
  · refine ⟨trivial, fun online => ?_⟩
    cases online with
    | none =>
      refine ⟨trivial, fun found => ?_⟩
      cases found with
      | none => exact faulty_mild.closes
      | some device => exact (send2OnlineUserViaTopServer_mild _).closes.andThen fun _ => trivial
    | some node =>
      refine ⟨trivial, fun pin => Closes.later ?_ _⟩
      exact sendOpBack_closes (.inr ⟨node, rfl, rfl⟩) _ _
  · trivial

/-- Opcode 9 closes only sockets it holds. -/
theorem iotStore_closes : Closes a held (iotStore a) := by
  unfold iotStore
  split
  · refine ⟨trivial, fun found => Closes.later ?_ _⟩
    cases found with
    | none => exact sendOpBack_closes own _ _
    | some device =>
      exact (newIotCmdToBeExecute_mild _ _ _ _ _).closes.andThen fun stored =>
        sendOpBack_closes own _ _
  · trivial

/-- `IoTtalk` closes only sockets it holds. -/
theorem iotTalk_closes : Closes a held (iotTalk a) := by
  have signedIn {handler : Handler Unit} (closes : Closes a held handler) :
      Closes a held (a.whenSignedIn handler) := by
    unfold CLN.whenSignedIn
    split
    · exact closes
    · trivial
  unfold iotTalk
  split
  · exact iotRsa_closes own
  · exact iotPin_closes own
  · exact iotRegSign_closes own
  · refine signedIn ?_
    unfold iotUpdate
    dsimp only
    split
    · trivial
    · have line : a.decrypted.socket = a.socket := rfl
      exact iotUpdateLoop_closes own line _
  · exact signedIn (iotRead_closes own)
  · exact signedIn ((listing_closes own _ _ _).andThen fun _ => trivial)
  · exact signedIn (iotReadLoop_closes own _)
  · exact signedIn iotSend_closes
  · exact signedIn (iotStore_closes own)
  · trivial

end

/-! ## User requests -/

/-- The end of a task closes only sockets it holds. -/
theorem finish_closes (b : CLN) : Closes a held (finish b) :=
  ⟨trivial, fun _ => ⟨trivial, fun _ => trivial⟩⟩

/-- A case whose closes are on the socket of the request. -/
theorem Closes.of_case {handler : Handler Flow}
    (leads : handler.Leads (Op.handles a held) (fun _ => True) (Ends True a)) :
    Closes a held handler := by
  refine .of_leads leads fun rest ends => ?_
  obtain rfl | rfl | ⟨-, rfl⟩ := ends
  · trivial
  · exact (finish_closes a).andThen fun _ => trivial
  · trivial

/-- `ICM` to a device that is online here. -/
theorem commandDevice_closes {device : User} (line : held device.userSocket) (payLoad : Bytes) :
    Closes a held (commandDevice device payLoad) := by
  refine .of_only ⟨trivial, fun pin => ⟨trivial, fun seqNum => ⟨trivial, fun len => ?_⟩⟩⟩
  dsimp only [Prog.bind]
  split
  · exact ⟨line, fun _ => trivial⟩
  · trivial

/-- `ICM` closes only sockets it holds. -/
theorem talkIcm_closes : Closes a held (talkIcm a) := by
  unfold talkIcm
  split
  · refine ⟨trivial, fun found => ?_⟩
    cases found with
    | none =>
      exact .of_case (commandElsewhere_leads (fun _ => Op.mild_handles) a _ fun _ => trivial)
    | some device => exact commandDevice_closes (.inr ⟨device, rfl, rfl⟩) _
  · trivial

/-- Every case of the switch. -/
theorem talkCase_closes (config : Config) (opcode : Opcode)
    (requested : a.requestClass = .user opcode) (own : held a.socket) :
    Closes a held (talkCase config a opcode) := by
  by_cases command : opcode = .icm
  · rw [command]
    exact talkIcm_closes
  · have announces (op : Op) (key : op.role = .key) : op.handles a held := by
      cases op <;> trivial
    exact .of_case (talkCase_leads (fun _ => Op.mild_handles) config a opcode requested own
      (fun icm => absurd icm command) (fun _ _ signs => signsBy_handles signs)
      (fun _ => announces) (fun _ => trivial) fun _ _ _ => trivial)

/-- A request closes its own socket, or that of a node it has found online. -/
theorem talk_closes (config : Config) (a : CLN) (own : held a.socket) :
    Closes a held (talk config a) := by
  cases asks : a.requestClass with
  | test =>
    rw [talk, asks]
    exact ⟨trivial, fun _ => finish_closes a⟩
  | device =>
    rw [talk_device asks]
    exact (iotTalk_closes own).andThen fun _ => finish_closes a
  | user opcode =>
    rw [talk_user asks]
    refine (talkCase_closes config opcode asks own).andThen fun flow => ?_
    cases flow with
    | left => exact finish_closes a
    | returned => trivial

end UubangIot
