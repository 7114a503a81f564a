import UubangIot.Verif.Handlers

/-!
# Parts that search nothing

What the handlers do between two searches of the registered lists.
-/

namespace UubangIot

open Effect Effect.Prog

variable {α : Type}

/-- A search of a registered list. -/
def Op.looksUp : Op → Bool
  | .findRegister _ _ => true
  | _ => false

/-- A change of a list. -/
def Op.relists : Op → Bool
  | .addtoLocal _ | .setRegisterPassword _ _ | .deleteOutUser _ _ | .newOnlineUserOrIotDev _ => true
  | _ => false

/-- A program that searches no registered list. -/
abbrev Unsearched (handler : Handler α) : Prop := handler.Only (Op.looksUp · = false)

/-- A program that neither searches the registered lists nor changes a list. -/
abbrev Still (handler : Handler α) : Prop :=
  handler.Only fun op => op.looksUp = false ∧ op.relists = false

/-- An operation that neither searches, acts nor fails. -/
def Op.inert (op : Op) : Prop :=
  op.looksUp = false ∧ op ≠ .fault ∧ ∀ response, acts ⟨op, response⟩ = false

/-- What is still searches nothing. -/
theorem still_unsearched {handler : Handler α} (still : Still handler) : Unsearched handler :=
  still.mono fun _ allowed => allowed.1

/-- The end of a task neither searches nor changes a list. -/
theorem finish_still (a : CLN) : Still (finish a) :=
  ⟨⟨rfl, rfl⟩, fun _ => ⟨⟨rfl, rfl⟩, fun _ => trivial⟩⟩

/-- The end of a task neither searches, acts nor fails. -/
theorem finish_inert (a : CLN) : (finish a).Only Op.inert :=
  ⟨⟨rfl, Op.noConfusion, fun _ => rfl⟩, fun _ =>
    ⟨⟨rfl, Op.noConfusion, fun _ => rfl⟩, fun _ => trivial⟩⟩

/-- A reply neither searches nor changes a list. -/
theorem sendReply_still (a : CLN) (frame : Frame) : Still (sendReply a frame) := by
  refine ⟨⟨rfl, rfl⟩, fun len => ?_⟩
  dsimp only [Prog.bind]
  split
  · exact ⟨⟨rfl, rfl⟩, fun _ => (finish_still a).bind fun _ => trivial⟩
  · trivial

/-- A reply to a user commands no device. -/
theorem sendReply_inert (a : CLN) (packet : UserPacket) :
    (sendReply a (.user packet)).Only Op.inert := by
  refine ⟨⟨rfl, Op.noConfusion, fun _ => rfl⟩, fun len => ?_⟩
  dsimp only [Prog.bind]
  split
  · exact ⟨⟨rfl, Op.noConfusion, fun _ => rfl⟩, fun _ => (finish_inert a).bind fun _ => trivial⟩
  · trivial

/-- A row that is sent neither searches nor changes a list. -/
theorem sendRow_still (a : CLN) (frame : Frame) : Still (sendRow a frame) :=
  sendRow_only a ⟨rfl, rfl⟩ ⟨rfl, rfl⟩

/-- A reply to a device neither searches nor changes a list. -/
theorem sendOpBack_still (a : CLN) (opCode : String) (payLoad : Bytes) :
    Still (sendOpBack a opCode payLoad) :=
  ⟨⟨rfl, rfl⟩, fun _ => (sendRow_still a _).bind fun _ => trivial⟩

/-- A statement that stores neither searches nor changes a list. -/
theorem storing_still (statement : Statement) (onNull onError : Int) {after : Handler Unit}
    (follows : Still after) : Still (storing statement onNull onError after) :=
  storing_only onNull onError ⟨rfl, rfl⟩ (fun _ => ⟨rfl, rfl⟩) (fun _ => ⟨rfl, rfl⟩) follows

/-- `UpdateSqlInfoTimestamp` neither searches nor changes a list. -/
theorem touching_still (userId index : Int) : Still (touching userId index) :=
  (storing_still _ _ _ (only_ret ())).bind fun _ => trivial

/-- A statement that reads searches no registered list. -/
theorem reading_unsearched (statement : Statement) {each : Row → Handler Bool}
    (row : ∀ row, Unsearched (each row)) : Unsearched (reading statement each) :=
  reading_only rfl (fun _ => rfl) (fun _ => rfl) rfl (fun _ => rfl) row

/-- `UserDeleteSce` neither searches nor changes a list. -/
theorem userDeleteSce_still (iotid : Int) : Still (userDeleteSce iotid) :=
  storing_still _ _ _ trivial

/-- What follows a reply that was sent searches no registered list. -/
theorem andThen_unsearched {sent next : Handler Flow} (first : Unsearched sent)
    (second : Unsearched next) : Unsearched (Flow.andThen sent next) := by
  refine first.bind fun flow => ?_
  cases flow with
  | returned => trivial
  | left => exact second

/-- `RSA` searches no registered list. -/
theorem talkRsa_unsearched (a : CLN) : Unsearched (talkRsa a) :=
  ⟨rfl, fun _ => ⟨rfl, fun _ => ⟨rfl, fun _ => still_unsearched (sendReply_still a _)⟩⟩⟩

/-- `PIN` searches no registered list. -/
theorem talkPin_unsearched (a : CLN) : Unsearched (talkPin a) := by
  unfold talkPin
  split
  · trivial
  · refine ⟨rfl, fun pin => ⟨rfl, fun _ => ?_⟩⟩
    dsimp only [Prog.bind]
    split
    · exact defined_only rfl fun _ _ => ⟨rfl, fun response => response.elim⟩
    · exact ⟨rfl, fun _ => still_unsearched (sendReply_still a _)⟩

/-- `UpdateLocalRegUserAndIotlist` searches no registered list. -/
theorem updateLocal_unsearched : Unsearched updateLocalRegUserAndIotlist :=
  updateLocalRegUserAndIotlist_reloading.mono fun op reloads => by
    cases op <;> first | rfl | cases reloads

/-- `Register` searches no registered list. -/
theorem register_unsearched (a : CLN) (method : Int) : Unsearched (register a method) :=
  register_only a method rfl rfl (fun _ _ => rfl) (fun _ => rfl) updateLocal_unsearched

/-- `REA` after the PIN was compared searches no registered list. -/
theorem talkRegister_unsearched (a : CLN) : Unsearched (talkRegister a) :=
  defined_only rfl fun _ _ => (register_unsearched _ _).bind fun _ =>
    still_unsearched (sendReply_still a _)

/-- `REA` searches no registered list. -/
theorem talkRea_unsearched (config : Config) (a : CLN) : Unsearched (talkRea config a) := by
  refine updateLocal_unsearched.bind fun _ => ?_
  split
  · exact talkRegister_unsearched a
  · exact andThen_unsearched (still_unsearched (sendReply_still a _)) (talkRegister_unsearched a)

/-- The pairs of opcode 4 search no registered list. -/
theorem iotUpdateLoop_unsearched (a : CLN) (fields : List Bytes) :
    Unsearched (iotUpdateLoop a fields) :=
  iotUpdateLoop_only a fields
    (fun _ _ _ => iotUpdateStatus_only _ _ _ rfl (fun _ => rfl) (fun _ => rfl) (fun _ => rfl)
      fun _ => rfl)
    fun _ _ => still_unsearched (sendOpBack_still a _ _)

/-- Opcode 5 searches no registered list. -/
theorem iotRead_unsearched (a : CLN) : Unsearched (iotRead a) :=
  iotRead_only a
    (fun _ _ _ => iotReadCmd_only _ _ _ rfl (fun _ => rfl) (fun _ => rfl) (fun _ => rfl)
      (fun _ => rfl) rfl)
    fun _ _ _ _ => still_unsearched (sendOpBack_still _ _ _)

/-- The rows that are sent to a device. -/
theorem iotRows_unsearched (a : CLN) (statement : Statement) (opCode : Bytes)
    (payLoad : Row → Bytes) :
    Unsearched (reading statement fun row => iotFrame a opCode (payLoad row) >>= sendRow a) :=
  reading_unsearched _ fun _ => ⟨rfl, fun _ => still_unsearched (sendRow_still a _)⟩

/-- The fields of opcode 7 search no registered list. -/
theorem iotReadLoop_unsearched (a : CLN) (fields : List Bytes) :
    Unsearched (iotReadLoop a fields) :=
  iotReadLoop_only a fields fun _ => iotRows_unsearched a _ _ _

end UubangIot
