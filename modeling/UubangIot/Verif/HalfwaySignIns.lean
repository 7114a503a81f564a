import UubangIot.Verif.SessionEffect

/-!
# Sign-ins that are half done

The shape of the handlers between the search of a sign-in and its insertion. A task that has not
searched can come to no insertion without a search; a task that has searched removes the node it
found, if it found one, and inserts its own, with nothing between that touches the lists.
-/

namespace UubangIot

open Effect Effect.Prog

/-- An insertion in an online list. -/
def Op.inserts : Op → Bool
  | .newOnlineUserOrIotDev _ => true
  | _ => false

/-- A search of an online list by name. -/
def Op.searches : Op → Bool
  | .findOnline _ (.name _) => true
  | _ => false

/-- No insertion. -/
def calm (op : Op) : Prop := op.inserts = false

/-- The program can come to an insertion of the id without another search. -/
inductive MayInsert (userId : Bytes) : Handler Unit → Prop
  /-- It is about to insert the id. -/
  | here {a : CLN} {next : Int → Handler Unit} (named : cstr a.userId = cstr userId) :
      MayInsert userId (.call (.newOnlineUserOrIotDev a) next)
  /-- It may insert it after an operation that is no search. -/
  | later {op : Op} {next : op.Res → Handler Unit} (response : op.Res)
      (unsearched : op.searches = false) (rest : MayInsert userId (next response)) :
      MayInsert userId (.call op next)

/-- A sign-in after its search: the socket of the node it has still to remove, or none when it is
left with the insertion. -/
inductive Halfway {α : Type} (userId : Bytes) : Option Nat → Handler α → Prop
  /-- The insertion, and no other after it. -/
  | insert {a : CLN} {next : Int → Handler α} (named : cstr a.userId = cstr userId)
      (rest : ∀ result, (next result).Only calm) :
      Halfway userId none (.call (.newOnlineUserOrIotDev a) next)
  /-- The removal, then the insertion. -/
  | remove {removed : Bytes} {socket : Nat} {next : Int → Handler α}
      (named : cstr removed = cstr userId) (rest : ∀ result, Halfway userId none (next result)) :
      Halfway userId (some socket) (.call (.deleteOutUser removed socket) next)
  /-- A plain operation; the sign-in goes on under some of its answers. -/
  | other {op : Op} {next : op.Res → Handler α} {stage : Option Nat} (leads : op.Res → Prop)
      (plain : op.plain) (unsearched : op.searches = false) (way : op.Res) (leading : leads way)
      (on : ∀ response, leads response → Halfway userId stage (next response))
      (off : ∀ response, ¬leads response → (next response).Only calm) :
      Halfway userId stage (.call op next)

/-- A program before the search of a sign-in, or without one. -/
def Opening {α : Type} (program : Handler α) : Prop :=
  program.Only calm ∨ ∃ (userId : Bytes) (next : Option User → Handler α),
    program = .call (.findOnline (kindOf userId) (.name userId)) next ∧
    ∀ found, (next found).Only calm ∨ Halfway userId (found.map User.userSocket) (next found)

/-- Every insertion of the program is that of a sign-in that has searched. -/
def Guarded {α : Type} (program : Handler α) : Prop :=
  program.Leads calm (fun _ => True) Opening

/-- A quiet operation inserts nothing. -/
theorem calm_of_quiet {op : Op} (still : quiet op) : calm op := by
  cases op <;> first
    | rfl
    | exact absurd rfl still

/-- A plain operation keeps the lists. -/
theorem afterOp_of_plain {op : Op} (plain : op.plain) (online : Lists) (response : op.Res) :
    online.afterOp ⟨op, response⟩ = online := by
  cases op <;> first
    | rfl
    | exact Role.noConfusion plain

/-! ## Insertions that can be reached -/

section

variable {userId other : Bytes}

/-- A calm program comes to no insertion. -/
theorem calm_not_mayInsert {program : Handler Unit} (still : program.Only calm) :
    ¬MayInsert userId program := by
  intro may
  induction may with
  | here named => exact Bool.noConfusion still.1
  | later response unsearched rest ih => exact ih (still.2 response)

/-- A guarded program comes to no insertion without a search. -/
theorem Guarded.not_mayInsert {program : Handler Unit} (guarded : Guarded program) :
    ¬MayInsert userId program := by
  intro may
  induction may with
  | here named =>
    cases guarded with
    | here opening =>
      obtain still | ⟨_, _, impossible, -⟩ := opening
      · exact Bool.noConfusion still.1
      · exact nomatch (Prog.call.inj impossible).1
    | call first later => exact Bool.noConfusion first
  | later response unsearched rest ih =>
    cases guarded with
    | here opening =>
      obtain still | ⟨_, _, search, -⟩ := opening
      · exact calm_not_mayInsert (still.2 response) rest
      · obtain ⟨rfl, -⟩ := Prog.call.inj search
        exact Bool.noConfusion unsearched
    | call first later => exact ih (later response trivial)

/-- A half-done sign-in may insert its id. -/
theorem Halfway.mayInsert {stage : Option Nat} {program : Handler Unit}
    (halfway : Halfway userId stage program) : MayInsert userId program := by
  induction halfway with
  | insert named rest => exact .here named
  | remove named rest ih => exact .later (show Int from 0) rfl (ih 0)
  | other leads plain unsearched way leading on off ih => exact .later way unsearched (ih way leading)

/-- A half-done sign-in may insert no other id. -/
theorem Halfway.mayInsert_same {stage : Option Nat} {program : Handler Unit}
    (halfway : Halfway userId stage program) (may : MayInsert other program) :
    cstr other = cstr userId := by
  induction halfway with
  | insert named rest =>
    cases may with
    | here found => exact found.symm.trans named
    | later response unsearched later => exact absurd later (calm_not_mayInsert (rest response))
  | remove named rest ih =>
    cases may with
    | later response unsearched later => exact ih response later
  | other leads plain unsearched way leading on off ih =>
    cases may with
    | here found => exact Role.noConfusion plain
    | later response unsearched later =>
      by_cases way : leads response
      · exact ih response way later
      · exact absurd later (calm_not_mayInsert (off response way))

/-- An id is known by its text. -/
theorem MayInsert.congr {program : Handler Unit} (may : MayInsert userId program)
    (same : cstr userId = cstr other) : MayInsert other program := by
  induction may with
  | here named => exact .here (named.trans same)
  | later response unsearched rest ih => exact .later response unsearched ih

end

/-! ## The handlers -/

section

variable {α β : Type}

/-- What follows a sign-in inserts nothing. -/
theorem Halfway.bind {userId : Bytes} {stage : Option Nat} {program : Handler α}
    {f : α → Handler β} (halfway : Halfway userId stage program)
    (after : ∀ value, (f value).Only calm) : Halfway userId stage (program >>= f) := by
  induction halfway with
  | insert named rest => exact .insert named fun result => (rest result).bind after
  | remove named rest ih => exact .remove named ih
  | other leads plain unsearched way leading on off ih =>
    exact .other leads plain unsearched way leading ih fun response away => (off response away).bind after

/-- An insertion at the end of a sign-in. -/
theorem insert_halfway (a : CLN) :
    Halfway a.userId none (Prog.call (.newOnlineUserOrIotDev a) fun _ => Prog.ret 1 : Handler Int) :=
  .insert rfl fun _ => trivial

/-- A plain operation on the way to an insertion. -/
theorem Halfway.always {userId : Bytes} {stage : Option Nat} {op : Op}
    {next : op.Res → Handler α} (plain : op.plain) (unsearched : op.searches = false) (way : op.Res)
    (on : ∀ response, Halfway userId stage (next response)) :
    Halfway userId stage (.call op next) :=
  .other (fun _ => True) plain unsearched way trivial (fun response _ => on response)
    fun _ away => absurd trivial away

/-- `SIGNIN` after its search is a sign-in halfway, with the node that it has found. -/
theorem signInFound_halfway (a : CLN) (kind : Kind) (found : Option User) :
    Halfway a.userId (found.map User.userSocket) (signInFound a kind found) := by
  cases found with
  | none =>
    refine .other (fun registered : Option User => registered.isSome = true) rfl rfl
      (some ⟨0, [], 0, [], [], 0, true⟩) rfl (fun registered present => ?_)
      fun registered absent => ?_
    · cases registered with
      | none => exact Bool.noConfusion present
      | some registered =>
        refine .always rfl rfl () fun _ => ?_
        exact insert_halfway { a with userKeyId := registered.userKeyId }
    · cases registered with
      | none => trivial
      | some registered => exact absurd rfl absent
  | some node =>
    cases kind with
    | user =>
      refine .remove rfl fun _ => ?_
      refine .always (send_plain _ rfl) rfl (show Int from 0) fun _ => ?_
      exact insert_halfway { a with userKeyId := node.userKeyId }
    | iot =>
      refine .always rfl rfl none fun registered => ?_
      cases registered with
      | none => exact .remove rfl fun _ => insert_halfway a
      | some registered =>
        refine .always rfl rfl () fun _ => .remove rfl fun _ => ?_
        exact insert_halfway { a with userKeyId := registered.userKeyId }

/-- `SIGNIN` inserts only after its search, when what comes after it inserts nothing. -/
theorem signIn_guarded (a : CLN) {f : Int → Handler β} (after : ∀ value, (f value).Only calm) :
    Guarded (signIn a >>= f) := by
  rw [signIn, signInAs_eq]
  refine .call rfl fun check _ => .here (.inr ⟨a.userId, _, rfl, fun found => ?_⟩)
  dsimp only
  split
  · exact .inl (after (-1))
  · exact .inr ((signInFound_halfway a _ found).bind after)

/-- What follows a guarded program inserts nothing. -/
theorem Guarded.bind {program : Handler α} {f : α → Handler β} (guarded : Guarded program)
    (after : ∀ value, (f value).Only calm) : Guarded (program >>= f) := by
  refine Leads.bind guarded fun rest opening => .here ?_
  obtain still | ⟨userId, next, rfl, searched⟩ := opening
  · exact .inl (still.bind after)
  · refine .inr ⟨userId, _, rfl, fun found => ?_⟩
    obtain still | halfway := searched found
    · exact .inl (still.bind after)
    · exact .inr (halfway.bind after)

/-- A calm program is guarded. -/
theorem guarded_of_calm {program : Handler α} (still : program.Only calm) : Guarded program :=
  .here (.inl still)

/-- A quiet program is calm. -/
theorem calm_only {program : Handler α} (still : program.Only quiet) : program.Only calm :=
  still.mono fun _ => calm_of_quiet

/-- Undefined arithmetic before a guarded program. -/
theorem defined_guarded {value : Option α} {next : α → Handler β}
    (later : ∀ found, Guarded (next found)) : Guarded (defined value next) := by
  cases value with
  | none => exact guarded_of_calm (calm_only faulty_plain.quiet)
  | some found => exact later found

end

/-- `SIA` after the password is decoded. -/
theorem talkSignIn_guarded (a : CLN) : Guarded (talkSignIn a) := by
  have answer (code : String) : (sendReply a (reply code)).Only calm :=
    calm_only (sendReply_quiet a _)
  refine signIn_guarded a fun result => ?_
  split
  · refine ⟨rfl, fun _ => (calm_only (refreshKeyId_plain a).quiet).bind fun _ => ?_⟩
    exact ⟨rfl, fun _ => answer "SIA"⟩
  · exact answer "SiA"

/-- Opcode 3 after the password is decoded. -/
theorem iotSignIn_guarded (a : CLN) (name : Bytes) : Guarded (iotSignIn a name) := by
  have answer {opCode : String} (other : text opCode ≠ text "01") :
      (sendOpBack a opCode []).Only calm := calm_only (sendOpBack_plain a [] other).quiet
  refine Only.leads (calm_only (register_plain a 1).quiet) fun _ => signIn_guarded a fun result => ?_
  split
  · refine ⟨rfl, fun _ => ⟨rfl, fun _ => ?_⟩⟩
    exact (calm_only (refreshKeyId_plain a).quiet).bind fun _ => answer (by decide)
  · exact answer (by decide)

/-- Opcode 3 inserts only what a sign-in that has searched inserts. -/
theorem iotRegSign_guarded (a : CLN) : Guarded (iotRegSign a) := by
  refine .call rfl fun signedIn _ => ?_
  dsimp only [Prog.bind]
  split
  · split
    · exact defined_guarded fun userPassword => iotSignIn_guarded _ _
    · exact guarded_of_calm trivial
  · exact guarded_of_calm (calm_only (sendOpBack_plain a [] (by decide)).quiet)

/-- `STO` inserts nothing. -/
theorem talkSto_calm (a : CLN) : (talkSto a).Only calm := by
  refine (calm_only (sendReply_quiet a _)).bind fun sent => ?_
  cases sent with
  | returned => trivial
  | left => exact ⟨rfl, fun _ => trivial⟩

/-- Every request inserts only what a sign-in that has searched inserts. -/
theorem talk_guarded (config : Config) (a : CLN) : Guarded (talk config a) := by
  by_cases still : a.signing = false
  · exact guarded_of_calm (calm_only (talk_quiet config still))
  · have signing : a.signing = true := Bool.eq_true_of_not_eq_false still
    have ending : (finish a).Only calm := calm_only (finish_quiet a)
    unfold talk
    split
    · rename_i test
      simp [CLN.signing, test] at signing
    · rename_i device
      have code : atoi a.checkcode = 3 := by simpa [CLN.signing, device] using signing
      rw [iotTalk_regSign code]
      exact (iotRegSign_guarded a).bind fun _ => ending
    · rename_i opcode user
      refine Guarded.bind ?_ fun flow => ?_
      · cases opcode with
        | sia => exact defined_guarded fun _ => talkSignIn_guarded _
        | sib => exact defined_guarded fun _ => talkSignIn_guarded _
        | sto => exact guarded_of_calm (talkSto_calm a)
        | _ => simp [CLN.signing, user] at signing
      · cases flow with
        | returned => trivial
        | left => exact ending

end UubangIot
