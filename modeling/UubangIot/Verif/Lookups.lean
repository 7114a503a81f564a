import UubangIot.Server.Directory
import UubangIot.Verif.OnlineLists
import UubangIot.Verif.Searches

/-!
# Searches of the registered lists

The handlers search the registered lists for ids they take from packets. `Handled` follows a request
over the lists: what it has searched for in vain and what it has done about it.
-/

namespace UubangIot

open Effect Effect.Prog Transition

/-! ## What a request finds -/

/-- A search of a registered list that found nothing. -/
def misses : Happening → Bool
  | ⟨.findRegister _ _, found⟩ => (show Option User from found).isNone
  | _ => false

/-- The codes that report an error to a user. -/
def errorCodes : List Bytes :=
  ["ERR", "RPE", "SiA", "ReA", "RPF", "ADS", "ioc", "DSc"].map text

/-- The codes that report an error to a device. -/
def iotErrorCodes : List Bytes := ["23", "24", "25", "29"].map text

/-- A reply that reports an error. -/
def Op.reportsError : Op → Bool
  | .send _ (.user packet) => packet.checkcode ∈ errorCodes
  | .send _ (.iot packet) => packet.opCode ∈ iotErrorCodes
  | _ => false

/-- A search for the `TalktoID` or for a device id of a packet. -/
def CLN.targets (a : CLN) : Op → Bool
  | .findRegister _ (.name userId) =>
    decide (userId = a.talktoId) &&
      match a.requestClass with
      | .user .sce | .user .iot | .user .taa | .user .add | .user .ads | .user .icm | .user .dsc
      | .user .ioc => true
      | _ => false
  | .findRegister .iot (.key _) =>
    match a.requestClass with
    | .user .sce | .user .dsc => true
    | .device => atoi a.checkcode = 8 ∨ atoi a.checkcode = 9
    | _ => false
  | _ => false

/-- The lists, and what a request has met and done. -/
structure Sight where
  /-- The lists. -/
  directory : Directory
  /-- The last operation was a search that found nothing. -/
  missed : Bool
  /-- An id of the packet was not found. -/
  unknown : Bool
  /-- A table was changed or a device commanded. -/
  changed : Bool
  /-- An error was reported. -/
  reported : Bool

/-- Before a request. -/
def Sight.start (directory : Directory) : Sight := ⟨directory, false, false, false, false⟩

/-- The sight with other lists, after an operation. -/
def Sight.seeing (a : CLN) (sight : Sight) (directory : Directory) (happening : Happening) :
    Sight where
  directory := directory
  missed := misses happening
  unknown := sight.unknown || (misses happening && a.targets happening.1)
  changed := sight.changed || acts happening
  reported := sight.reported || happening.1.reportsError

/-- The operations of a request as it meets them. -/
def watching (a : CLN) : System Sight Happening where
  step sight happening :=
    (sight.directory.after happening).map fun directory => sight.seeing a directory happening

/-- An id that is not found leaves everything as it is or is reported. -/
def Sight.Settled (sight : Sight) : Prop :=
  sight.unknown = true → sight.changed = false ∨ sight.reported = true

/-- No search that found nothing is followed by the use of its result, and an unknown id in the
packet leads to an error reply or to no effect. -/
def LookupsChecked (config : Config) (directory : Directory) (a : CLN) : Prop :=
  ∀ trace rest final, Comes (talk config a) trace rest →
    (watching a).run (.start directory) trace = some final →
    (∀ next, rest = .call .fault next → final.missed = false) ∧
      (rest = .ret () → final.Settled)

/-! ## What a request needs to find -/

/-- A registered list has what is searched for. -/
def Directory.knows (directory : Directory) (kind : Kind) (lookup : Lookup) : Bool :=
  (directory.registered.find kind lookup).isSome

/-- A scene of seven fields names a known device as its target, and a known one to start it where
it names one. -/
def Directory.knowsScene (directory : Directory) (talktoId data : Bytes) : Bool :=
  let fields := strSplit data 200 dash
  decide (fields.length < 7) ||
    (directory.knows .iot (.name talktoId) &&
      (decide (atoi (fields.getD 0 []) = 0) ||
        directory.knows .iot (.key (atoi (fields.getD 0 [])))))

/-- What the handlers that do not look need to find: the devices of a scene, the device of an
`IOT`, both users of an `ADS`, the target of a command that is not online. A `DSC` without a
schedule for a known device needs a known `TalktoID`. -/
def CLN.findable (directory : Directory) (a : CLN) : Bool :=
  match a.requestClass with
  | .user .sce =>
    match strSplit a.data 200 tilde with
    | data :: _ :: _ => directory.knowsScene a.talktoId (strcpy a.data data)
    | _ => directory.knowsScene a.talktoId a.data
  | .user .iot => directory.knows .iot (.name a.talktoId)
  | .user .ads =>
    directory.knows .user (.name a.talktoId) && directory.knows .user (.name a.userId)
  | .user .dsc =>
    match strSplit a.data 200 tilde with
    | _ :: _ :: _ => true
    | _ =>
      let fields := strSplit a.data (strlen a.data) dash
      decide (fields.length < 6) || !directory.knows .iot (.key (atoi (fields.getD 0 []))) ||
        directory.knows .iot (.name a.talktoId)
  | .device =>
    decide (atoi a.checkcode ≠ 8) || !a.signedIn ||
      match strSplit a.decrypted.data 200 underscore with
      | target :: _ :: _ :: _ =>
        (directory.online.find .iot (.key (atoi target))).isSome ||
          directory.knows .iot (.key (atoi target))
      | _ => true
  | _ => true

/-! ## Rules -/

variable {a : CLN} {sight : Sight} {config : Config} {directory : Directory} {α β : Type}

/-- The use of a search that found nothing. -/
def Sight.dereferences (sight : Sight) (op : Op) : Prop := sight.missed = true ∧ op = .fault

/-- From a sight on, a handler uses no search that found nothing and comes to a postcondition. -/
abbrev Handled (a : CLN) (post : α → Sight → Prop) (handler : Handler α) (sight : Sight) : Prop :=
  handler.Safely (watching a) Sight.dereferences post sight

/-- The searches of a request are checked when it is handled. -/
theorem checked_iff : LookupsChecked config directory a ↔
    Handled a (fun _ after => after.Settled) (talk config a) (.start directory) := by
  rw [Handled, safely_iff]
  constructor
  · intro checked trace rest final comes reached
    have both := checked trace rest final comes reached
    constructor
    · rintro op next same ⟨missed, rfl⟩
      rw [both.1 _ same] at missed
      cases missed
    · intro value same
      exact both.2 same
  · intro safe trace rest final comes reached
    have both := safe trace rest final comes reached
    constructor
    · intro next same
      apply Bool.eq_false_of_not_eq_true
      intro missed
      exact both.1 _ _ same ⟨missed, rfl⟩
    · intro same
      exact both.2 () same

/-- A step of a request. -/
theorem watching_step {happening : Happening} {after : Sight}
    (stepped : (watching a).step sight happening = some after) :
    ∃ directory, sight.directory.after happening = some directory ∧
      after = sight.seeing a directory happening := by
  obtain ⟨directory, changed, same⟩ := Option.map_eq_some_iff.mp stepped
  exact ⟨directory, changed, same.symm⟩

/-- What is no search misses nothing. -/
theorem misses_of_unsearched {op : Op} (unsearched : op.looksUp = false) (response : op.Res) :
    misses ⟨op, response⟩ = false := by
  cases op <;> first | rfl | cases unsearched

/-- What changes no list leaves the lists. -/
theorem after_of_still {op : Op} (still : op.relists = false) {response : op.Res}
    {after : Directory} (changed : directory.after ⟨op, response⟩ = some after) :
    after = directory := by
  cases op <;> simp_all [Directory.after, Op.relists]

/-- After an operation that is no search nothing was missed. -/
theorem unsearched_step {op : Op} (unsearched : op.looksUp = false) {response : op.Res}
    {after : Sight} (stepped : (watching a).step sight ⟨op, response⟩ = some after) :
    after.missed = false ∧ after.unknown = sight.unknown ∧
      (sight.reported = true → after.reported = true) := by
  obtain ⟨directory, -, rfl⟩ := watching_step stepped
  have none := misses_of_unsearched unsearched response
  refine ⟨none, ?_, ?_⟩
  · simp [Sight.seeing, none]
  · intro reported
    simp [Sight.seeing, reported]

/-- A program that searches nothing. -/
theorem unsearched_handled {handler : Handler α} {post : α → Sight → Prop}
    (quiet : Unsearched handler) (clear : sight.missed = false)
    (ends : ∀ value after, after.missed = false → after.unknown = sight.unknown →
      post value after) : Handled a post handler sight := by
  refine quiet.safely (I := fun now => now.missed = false ∧ now.unknown = sight.unknown)
    ?_ ?_ ⟨clear, rfl⟩ fun value after kept => ends value after kept.1 kept.2
  · rintro op before - kept ⟨missed, -⟩
    rw [kept.1] at missed
    cases missed
  · intro op response before after unsearched stepped kept
    have now := unsearched_step unsearched stepped
    exact ⟨now.1, now.2.1.trans kept.2⟩

/-- A program that searches and changes nothing. -/
theorem still_handled {handler : Handler α} {post : α → Sight → Prop} (still : Still handler)
    (clear : sight.missed = false)
    (ends : ∀ value after, after.directory = sight.directory → after.missed = false →
      after.unknown = sight.unknown → post value after) : Handled a post handler sight := by
  refine still.safely
    (I := fun now =>
      now.directory = sight.directory ∧ now.missed = false ∧ now.unknown = sight.unknown)
    ?_ ?_ ⟨rfl, clear, rfl⟩ fun value after kept => ends value after kept.1 kept.2.1 kept.2.2
  · rintro op before - kept ⟨missed, -⟩
    rw [kept.2.1] at missed
    cases missed
  · intro op response before after allowed stepped kept
    have now := unsearched_step allowed.1 stepped
    obtain ⟨directory, changed, rfl⟩ := watching_step stepped
    have same := after_of_still allowed.2 changed
    exact ⟨same.trans kept.1, now.1, now.2.1.trans kept.2.2⟩

/-- What neither searches, acts nor fails keeps a request settled. -/
theorem inert_handled {handler : Handler α} (inert : handler.Only Op.inert)
    (settled : sight.Settled) : Handled a (fun _ after => after.Settled) handler sight := by
  refine inert.safely (I := Sight.Settled) ?_ ?_ settled fun _ _ kept => kept
  · intro op before allowed _ bad
    exact allowed.2.1 bad.2
  · intro op response before after allowed stepped kept unknown
    have now := unsearched_step allowed.1 stepped
    rw [now.2.1] at unknown
    rcases kept unknown with unchanged | reported
    · obtain ⟨directory, -, rfl⟩ := watching_step stepped
      left
      simp [Sight.seeing, unchanged, allowed.2.2 response]
    · exact .inr (now.2.2 reported)

/-- A search answers with what it finds. -/
theorem after_find {kind : Kind} {lookup : Lookup} {response : Option User} {after : Directory} :
    directory.after ⟨.findRegister kind lookup, response⟩ = some after ↔
      response = directory.registered.find kind lookup ∧ after = directory := by
  change (if response = directory.registered.find kind lookup then some directory else none) =
    some after ↔ _
  constructor
  · intro changed
    split at changed
    · rename_i same
      exact ⟨same, (Option.some.inj changed).symm⟩
    · cases changed
  · rintro ⟨same, rfl⟩
    exact if_pos same

/-- A search is followed by what it finds. -/
theorem find_handled {kind : Kind} {lookup : Lookup} {next : Option User → Handler α}
    {post : α → Sight → Prop} {answer : Option User}
    (found : sight.directory.registered.find kind lookup = answer) :
    Handled a post (perform (.findRegister kind lookup) >>= next) sight ↔
      Handled a post (next answer)
        (sight.seeing a sight.directory ⟨.findRegister kind lookup, answer⟩) := by
  constructor
  · intro handled
    refine handled.2 answer _ (Option.map_eq_some_iff.mpr ⟨sight.directory, ?_, rfl⟩)
    exact after_find.mpr ⟨found.symm, rfl⟩
  · intro handled
    constructor
    · rintro ⟨-, other⟩
      cases other
    · intro response after stepped
      obtain ⟨directory, changed, rfl⟩ := watching_step stepped
      obtain ⟨same, rfl⟩ := after_find.mp changed
      subst same
      rw [found]
      exact handled

/-- A search that finds a node. -/
theorem found_handled {kind : Kind} {lookup : Lookup} {node : User}
    {next : Option User → Handler α} {post : α → Sight → Prop}
    (found : sight.directory.registered.find kind lookup = some node) :
    Handled a post (perform (.findRegister kind lookup) >>= next) sight ↔
      Handled a post (next (some node)) { sight with missed := false } := by
  have seen : sight.seeing a sight.directory
      ⟨.findRegister kind lookup, (some node : Option User)⟩ = { sight with missed := false } := by
    simp [Sight.seeing, misses, acts, Op.reportsError]
  rw [find_handled found, seen]

/-- A search that finds a node, where nothing was missed. -/
theorem found_handled_clear {kind : Kind} {lookup : Lookup} {node : User}
    {next : Option User → Handler α} {post : α → Sight → Prop} (clear : sight.missed = false)
    (found : sight.directory.registered.find kind lookup = some node) :
    Handled a post (perform (.findRegister kind lookup) >>= next) sight ↔
      Handled a post (next (some node)) sight := by
  have same : { sight with missed := false } = sight := by rw [← clear]
  rw [found_handled found, same]

/-- A search that finds nothing. -/
theorem absent_handled {kind : Kind} {lookup : Lookup} {next : Option User → Handler α}
    {post : α → Sight → Prop} (absent : sight.directory.registered.find kind lookup = none) :
    Handled a post (perform (.findRegister kind lookup) >>= next) sight ↔
      Handled a post (next none)
        { sight with
          missed := true
          unknown := sight.unknown || a.targets (.findRegister kind lookup) } := by
  have seen : sight.seeing a sight.directory
      ⟨.findRegister kind lookup, (none : Option User)⟩ =
        { sight with
          missed := true
          unknown := sight.unknown || a.targets (.findRegister kind lookup) } := by
    simp [Sight.seeing, misses, acts, Op.reportsError]
  rw [find_handled absent, seen]

/-! ## Requests without a target -/

/-- From wherever nothing is unknown, a handler ends there again. -/
def Firm (a : CLN) (handler : Handler α) : Prop :=
  ∀ sight : Sight, sight.unknown = false →
    Handled a (fun _ after => after.unknown = false) handler sight

/-- The same, where the last search was no miss. -/
def Calm (a : CLN) (handler : Handler α) : Prop :=
  ∀ sight : Sight, sight.unknown = false → sight.missed = false →
    Handled a (fun _ after => after.unknown = false) handler sight

/-- A return leaves nothing unknown. -/
theorem firm_ret (a : CLN) (value : α) : Firm a (Prog.ret value : Handler α) := fun _ clear => clear

/-- What is firm from anywhere is calm. -/
theorem Firm.calm {handler : Handler α} (firm : Firm a handler) : Calm a handler :=
  fun sight clear _ => firm sight clear

/-- What searches nothing is calm. -/
theorem calm_of_unsearched {handler : Handler α} (quiet : Unsearched handler) : Calm a handler :=
  fun _ clear found => unsearched_handled quiet found fun _ _ _ same => same.trans clear

/-- What searches nothing is followed calmly. -/
theorem unsearched_bind {handler : Handler α} {next : α → Handler β} (quiet : Unsearched handler)
    (later : ∀ value, Calm a (next value)) : Calm a (handler >>= next) := by
  intro sight clear found
  apply safely_bind.mpr
  apply unsearched_handled quiet found
  intro value after missed same
  exact later value after (same.trans clear) missed

/-- A calm program with a firm one after it is calm. -/
theorem Calm.bind {handler : Handler α} {next : α → Handler β} (first : Calm a handler)
    (later : ∀ value, Firm a (next value)) : Calm a (handler >>= next) := by
  intro sight clear found
  apply safely_bind.mpr
  exact (first sight clear found).mono fun value after unknown => later value after unknown

/-- Two firm programs, one after the other, are firm. -/
theorem Firm.bind {handler : Handler α} {next : α → Handler β} (first : Firm a handler)
    (later : ∀ value, Firm a (next value)) : Firm a (handler >>= next) := by
  intro sight clear
  apply safely_bind.mpr
  exact (first sight clear).mono fun value after unknown => later value after unknown

/-- An operation that is no search. -/
theorem firm_call {op : Op} {next : op.Res → Handler α} (unsearched : op.looksUp = false)
    (fine : op ≠ .fault) (later : ∀ response, Calm a (next response)) :
    Firm a (.call op next) := by
  intro sight clear
  refine ⟨fun bad => fine bad.2, fun response after stepped => ?_⟩
  have now := unsearched_step unsearched stepped
  exact later response after (now.2.1.trans clear) now.1

/-- A search for anything but a target of the packet. -/
theorem firm_find {kind : Kind} {lookup : Lookup} {next : Option User → Handler α}
    (apart : a.targets (.findRegister kind lookup) = false) (none : Firm a (next none))
    (some : ∀ node, Calm a (next (some node))) :
    Firm a (.call (.findRegister kind lookup) next) := by
  intro sight clear
  cases found : sight.directory.registered.find kind lookup with
  | none =>
    apply (absent_handled found).mpr
    apply none
    simp [clear, apart]
  | some node =>
    apply (found_handled found).mpr
    exact some node _ clear rfl

/-- A reply leaves nothing unknown. -/
theorem sendReply_firm (a b : CLN) (frame : Frame) : Firm a (sendReply b frame) :=
  firm_call rfl Op.noConfusion fun len =>
    calm_of_unsearched (((sendReply_still b frame).2 len).mono fun _ allowed => allowed.1)

/-- A reply to a device leaves nothing unknown. -/
theorem sendOpBack_firm (a b : CLN) (opCode : String) (payLoad : Bytes) :
    Firm a (sendOpBack b opCode payLoad) :=
  firm_call rfl Op.noConfusion fun response =>
    calm_of_unsearched (((sendOpBack_still b opCode payLoad).2 response).mono
      fun _ allowed => allowed.1)

/-- A query whose rows are firm. -/
theorem reading_firm (statement : Statement) {each : Row → Handler Bool}
    (row : ∀ row, Firm a (each row)) : Firm a (reading statement each) := by
  refine firm_call rfl Op.noConfusion fun node => ?_
  cases node with
  | none => exact (firm_ret a _).calm
  | some node =>
    refine Firm.calm (firm_call rfl Op.noConfusion fun result => ?_)
    cases result with
    | failed duplicate => exact calm_of_unsearched ⟨rfl, fun _ => trivial⟩
    | done =>
      refine Firm.calm (firm_call rfl Op.noConfusion fun stored => ?_)
      cases stored with
      | none => exact calm_of_unsearched ⟨rfl, fun response => response.elim⟩
      | some rows =>
        have all : Firm a (eachRow each rows) := by
          induction rows with
          | nil => exact firm_ret a _
          | cons first rest ih =>
            refine (row first).bind fun more => ?_
            cases more with
            | true => exact ih
            | false => exact firm_ret a _
        exact (all.bind fun _ =>
          firm_call rfl Op.noConfusion fun _ => (firm_ret a _).calm).calm

section

variable (apart : ∀ op, a.targets op = false)

include apart

/-- `SIGNIN` leaves nothing unknown where the last search was no miss. -/
theorem signIn_calm (b : CLN) : Calm a (signIn b) := by
  rw [signIn, signInAs_eq]
  refine Firm.calm (firm_call rfl Op.noConfusion fun check => ?_)
  refine Firm.calm (firm_call rfl Op.noConfusion fun checkuser => ?_)
  split
  · exact (firm_ret a _).calm
  · unfold signInFound
    split
    · refine Firm.calm (firm_find (apart _) (firm_ret a _) fun registered => ?_)
      exact calm_of_unsearched ⟨rfl, fun _ => ⟨rfl, fun _ => trivial⟩⟩
    · exact calm_of_unsearched ⟨rfl, fun _ => ⟨rfl, fun _ => ⟨rfl, fun _ => trivial⟩⟩⟩
    · refine Firm.calm (firm_find (apart _) ?_ fun registered => ?_)
      · exact firm_call rfl Op.noConfusion fun _ =>
          calm_of_unsearched ⟨rfl, fun _ => trivial⟩
      · exact calm_of_unsearched ⟨rfl, fun _ => ⟨rfl, fun _ => ⟨rfl, fun _ => trivial⟩⟩⟩

/-- The second search of a key finds what the first has found. -/
theorem refreshKeyId_firm (b : CLN) : Firm a (refreshKeyId b) := by
  intro sight clear
  cases found : sight.directory.registered.find .user (.name b.userId) with
  | none =>
    apply (absent_handled found).mpr
    change (sight.unknown || _) = false
    rw [clear, apart]
    rfl
  | some node =>
    apply (found_handled found).mpr
    have again : ({ sight with missed := false } : Sight).directory.registered.find .user
        (.name b.userId) = some node := found
    refine (found_handled again).mpr ?_
    have last : Unsearched (perform (.setConnUserKeyId b.conn node.userKeyId)) :=
      ⟨rfl, fun _ => trivial⟩
    exact calm_of_unsearched last _ clear rfl

/-- `SIA` and `SIB` leave nothing unknown where the last search was no miss. -/
theorem talkSia_calm (b : CLN) : Calm a (talkSia b) := by
  unfold talkSia
  rw [source_decode]
  unfold defined
  split
  · exact calm_of_unsearched ⟨rfl, fun response => response.elim⟩
  · refine (signIn_calm apart _).bind fun result => ?_
    split
    · refine firm_call rfl Op.noConfusion fun _ => ?_
      refine ((refreshKeyId_firm apart _).bind fun _ => ?_).calm
      exact firm_call rfl Op.noConfusion fun _ => (sendReply_firm a _ _).calm
    · exact sendReply_firm a _ _

/-- `RCO` leaves nothing unknown where the last search was no miss. -/
theorem talkRco_calm (b : CLN) : Calm a (talkRco b) := by
  have friends : Firm a (userReqFriendRel b) := by
    refine reading_firm _ fun row => firm_find (apart _) (firm_ret a _) fun friend => ?_
    exact calm_of_unsearched (still_unsearched (sendRow_still b _))
  have devices : Firm a (userReqIotRel b) := by
    refine reading_firm _ fun row => firm_find (apart _) (firm_ret a _) fun device => ?_
    exact calm_of_unsearched (still_unsearched (sendRow_still b _))
  exact (friends.bind fun _ => devices.bind fun _ => firm_ret a _).calm

/-- `RPA` leaves nothing unknown where the last search was no miss. -/
theorem talkRpa_calm (b : CLN) : Calm a (talkRpa b) := by
  have change (c : CLN) : Calm a (userRePwd c) := by
    refine Firm.calm (firm_call rfl Op.noConfusion fun tag => ?_)
    refine Firm.calm (firm_call rfl Op.noConfusion fun known => ?_)
    dsimp only [Prog.bind]
    split
    · cases tag with
      | none => exact (firm_ret a _).calm
      | some first =>
        dsimp only
        split
        · exact calm_of_unsearched ⟨rfl, fun _ => trivial⟩
        · refine Firm.calm (firm_find (apart _) (firm_ret a _) fun node => ?_)
          refine calm_of_unsearched ⟨rfl, fun node => ?_⟩
          cases node with
          | none => trivial
          | some node =>
            refine ⟨rfl, fun result => ?_⟩
            cases result with
            | failed duplicate => exact ⟨rfl, fun _ => trivial⟩
            | done => exact ⟨rfl, fun _ => ⟨rfl, fun _ => trivial⟩⟩
    · exact (firm_ret a _).calm
  refine unsearched_bind updateLocal_unsearched fun _ => ?_
  rw [source_decode]
  unfold defined
  split
  · exact calm_of_unsearched ⟨rfl, fun response => response.elim⟩
  · exact (change _).bind fun _ => sendReply_firm a _ _

/-- Opcode 3 leaves nothing unknown where the last search was no miss. -/
theorem iotRegSign_calm (b : CLN) : Calm a (iotRegSign b) := by
  refine Firm.calm (firm_call rfl Op.noConfusion fun signedIn => ?_)
  dsimp only [Prog.bind]
  split
  · split
    · rw [source_decode]
      unfold defined
      split
      · exact calm_of_unsearched ⟨rfl, fun response => response.elim⟩
      · refine unsearched_bind (register_unsearched _ _) fun _ => ?_
        refine (signIn_calm apart _).bind fun result => ?_
        split
        · refine firm_call rfl Op.noConfusion fun _ => Firm.calm ?_
          refine firm_call rfl Op.noConfusion fun _ => Firm.calm ?_
          exact (refreshKeyId_firm apart _).bind fun _ => sendOpBack_firm a _ _ _
        · exact sendOpBack_firm a _ _ _
    · exact (firm_ret a _).calm
  · exact (sendOpBack_firm a _ _ _).calm

end

end UubangIot
