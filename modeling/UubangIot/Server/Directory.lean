import UubangIot.Lib.Transition
import UubangIot.Server.Session

/-!
# The lists and their operations

The registered and the online lists as one state, with what each operation of a handler on them
answers and changes. What the database and the sockets answer is left open.
-/

namespace UubangIot

open Effect Transition

/-- The registered lists and the online lists. -/
structure Directory where
  /-- `RegistedUserHead` and `RegistedIotHead`. -/
  registered : Lists
  /-- `onlineUserHead` and `onlineIotHead`. -/
  online : Lists
  deriving DecidableEq, Repr

/-- One operation on the lists: a search answers with what it finds, an insertion may lack
memory. -/
def Directory.after (directory : Directory) : Happening → Option Directory
  | ⟨.findRegister kind lookup, found⟩ =>
    if (show Option User from found) = directory.registered.find kind lookup then some directory
    else none
  | ⟨.checkIdPwd n userId userPassword, answer⟩ =>
    if (show Int from answer) = directory.registered.checkIdPwd n userId userPassword then
      some directory
    else none
  | ⟨.registedHead kind, top⟩ =>
    if (show Option User from top) = (directory.registered.head kind).nodes.head? then
      some directory
    else none
  | ⟨.addtoLocal entry, answer⟩ =>
    if (show Int from answer) = 1 then
      some { directory with registered := directory.registered.addtoLocal entry }
    else if (show Int from answer) = -1 then some directory
    else none
  | ⟨.setRegisterPassword userId userPassword, _⟩ =>
    some { directory with registered := directory.registered.setPassword userId userPassword }
  | ⟨.findOnline kind lookup, found⟩ =>
    if (show Option User from found) = directory.online.find kind lookup then some directory
    else none
  | ⟨.deleteOutUser userId socket, result⟩ =>
    if (show Int from result) = (directory.online.deleteOutUser userId socket).1 then
      some { directory with online := (directory.online.deleteOutUser userId socket).2 }
    else none
  | ⟨.newOnlineUserOrIotDev a, result⟩ =>
    if (show Int from result) = 1 then
      some { directory with online := directory.online.newOnlineUserOrIotDev a }
    else if (show Int from result) = -1 then some directory
    else none
  | _ => some directory

/-- The lists under the operations on them. -/
def Directory.system : System Directory Happening := ⟨Directory.after⟩

/-- The lists give the answers of a trace. -/
def Directory.Answers (directory : Directory) (trace : List Happening) : Prop :=
  (Directory.system.run directory trace).isSome = true

namespace Directory.Answers

variable {directory : Directory} {rest : List Happening} {kind : Kind} {lookup : Lookup}
  {found : Option User}

/-- The first answer, and the lists after it. -/
theorem cons {happening : Happening} (answers : directory.Answers (happening :: rest)) :
    ∃ after : Directory, directory.after happening = some after ∧ after.Answers rest := by
  rw [Answers, System.run] at answers
  change ((directory.after happening).bind fun after => Directory.system.run after rest).isSome =
    true at answers
  cases stepped : directory.after happening with
  | none =>
    rw [stepped] at answers
    contradiction
  | some after =>
    rw [stepped] at answers
    exact ⟨after, rfl, answers⟩

/-- A search for somebody online answers with what the list holds. -/
theorem findOnline (answers : directory.Answers (⟨.findOnline kind lookup, found⟩ :: rest)) :
    found = directory.online.find kind lookup ∧ directory.Answers rest := by
  obtain ⟨after, stepped, later⟩ := answers.cons
  change (if found = directory.online.find kind lookup then some directory else none) = some after
    at stepped
  split at stepped
  · cases stepped
    exact ⟨by assumption, later⟩
  · cases stepped

/-- So does one for somebody registered. -/
theorem findRegister (answers : directory.Answers (⟨.findRegister kind lookup, found⟩ :: rest)) :
    found = directory.registered.find kind lookup ∧ directory.Answers rest := by
  obtain ⟨after, stepped, later⟩ := answers.cons
  change (if found = directory.registered.find kind lookup then some directory else none) =
    some after at stepped
  split at stepped
  · cases stepped
    exact ⟨by assumption, later⟩
  · cases stepped

end Directory.Answers

end UubangIot
