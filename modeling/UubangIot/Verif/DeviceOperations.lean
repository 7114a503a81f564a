import UubangIot.Verif.LiveHandles
import UubangIot.Verif.RegisteredLists
import UubangIot.Verif.SignInGrounds
import UubangIot.Verif.UserOperations

/-!
# Whom a device's requests act for

The opcodes 4 to 9 ask for the flag of their connection and query with its key id. Both are also set
by a user's sign-in, and by every further sign-in on the connection. The server is run here with the
registered lists beside it, which answer the checks and the searches of its tasks.
-/

namespace UubangIot

open Effect Effect.Prog Transition Transition.System

/-! ## Statement -/

/-- A request for one of the opcodes 4 to 9 that passes the check of its flag. -/
def CLN.operates (a : CLN) : Bool :=
  decide (a.requestClass = .device ∧ 4 ≤ atoi a.checkcode ∧ atoi a.checkcode ≤ 9) && a.signedIn

/-- The key id of the device that a query is made for. -/
def Op.actor : Op → Option Int
  | .realQuery _ (.insertEvent iotId _ _ _) | .realQuery _ (.updateEvent _ _ iotId _) => some iotId
  | .realQuery _ (.selectScenes iotid) => some iotid
  | .realQuery _ (.selectCommands iotid _) | .realQuery _ (.deleteCommands iotid _) => some iotid
  | .realQuery _ (.insertCommand _ _ _ _ fromid _) => some fromid
  | _ => none

/-- The request that `SIGNIN` makes an online node of, on a connection. -/
def Op.signsInAs (conn : Nat) : Op → Option CLN
  | .newOnlineUserOrIotDev b => if b.conn = conn then some b else none
  | _ => none

/-- The sign-in that a note tells of. -/
def Note.signIn (conn : Nat) : Note → Option CLN
  | .did _ happening => happening.1.signsInAs conn
  | .received _ _ _ _ _ => none

/-- The last successful sign-in on a connection. -/
def lastSignIn (log : List Note) (conn : Nat) : Option CLN :=
  (log.filterMap (Note.signIn conn)).getLast?

/-- The chronicle and the registered lists. -/
abbrev Listed := (ServerState × List Note) × Lists

/-- The registered lists answer a note, and what they are after it. -/
def listedAfter (server : ServerState) (registered : Lists) : Note → Option Lists
  | .did _ happening =>
    ((Directory.mk registered server.memory.online).after happening).map Directory.registered
  | .received _ _ _ _ _ => some registered

/-- The chronicled server with its registered lists. -/
def listed (config : Config) : System Listed Turn where
  step now turn := do
    let next ← (chronicled config).step now.1 turn
    let registered ← (now.1.1.notes turn).foldlM (listedAfter now.1.1) now.2
    return (next, registered)

/-- The requests for the opcodes 4 to 9 act for the device that has signed in last on their connection:
it is registered with the name and the password it gave, and the queries have its key id. -/
def ActsForDevice (now : Listed) : Prop :=
  ∀ task ∈ now.1.1.tasks, task.request.operates = true →
    ∃ b, ∃ device ∈ now.2.iots.nodes, lastSignIn now.1.2 task.request.conn = some b ∧
      streq b.userId device.userId = true ∧ streq b.userPassword device.userPassword = true ∧
      ∀ op next, task.program = .call op next → ∀ id, op.actor = some id → id = device.userKeyId

/-- The name under which a check of id and password has succeeded. -/
def passedName : Happening → Option Bytes
  | ⟨.checkIdPwd n userId _, answer⟩ =>
    if n = 0 ∧ (show Int from answer) ≠ -1 then some (cstr userId) else none
  | _ => none

/-- The objects of a connection's sign-ins. -/
def signers (log : List Note) (conn : Nat) : List Nat :=
  ((log.filterMap Note.request).filter fun asked =>
    decide (asked.2.conn = conn) && asked.2.signing).map Prod.fst

/-- The names under which somebody has signed in on a connection, or begun to. -/
def passedNames (log : List Note) (conn : Nat) : List Bytes :=
  (signers log conn).flatMap fun object => (deeds log object).filterMap passedName

/-- All sign-ins of a connection were made with one name, and that of a device. -/
def OneDevice (log : List Note) (conn : Nat) : Prop :=
  ∀ first ∈ passedNames log conn, first.length < 11 ∧ ∀ second ∈ passedNames log conn, first = second

/-- Registered devices of one name have one key id. -/
def OneKey (registered : Lists) : Prop :=
  ∀ first ∈ registered.iots.nodes, ∀ second ∈ registered.iots.nodes,
    cstr first.userId = cstr second.userId → first.userKeyId = second.userKeyId

/-- The requests in the pool and the one that a turn adds. -/
def asking (server : ServerState) (turn : Turn) : List CLN :=
  server.tasks.map Task.request ++ ((server.notes turn).filterMap Note.request).map Prod.snd

/-- On the connections of requests for the opcodes 4 to 9 one device has signed in, and nobody else. -/
def Dedicated (now : Listed) (turn : Turn) : Prop :=
  OneKey now.2 ∧ ∀ request ∈ asking now.1.1 turn, request.operates = true →
    OneDevice (now.1.2 ++ now.1.1.notes turn) request.conn

instance (log : List Note) (conn : Nat) : Decidable (OneDevice log conn) :=
  inferInstanceAs (Decidable (∀ first ∈ passedNames log conn, _))

instance (registered : Lists) : Decidable (OneKey registered) :=
  inferInstanceAs (Decidable (∀ first ∈ registered.iots.nodes, _))

instance (now : Listed) (turn : Turn) : Decidable (Dedicated now turn) :=
  inferInstanceAs (Decidable (_ ∧ ∀ request ∈ asking now.1.1 turn, _))

/-! ## One request -/

/-- An operation that queries for no device, or for that with the key id. -/
def Op.actsAs (key : Int) (op : Op) : Prop := ∀ id, op.actor = some id → id = key

/-- What queries only for the device with the key id. -/
abbrev Acting {α : Type} (key : Int) (handler : Handler α) : Prop := handler.Only (Op.actsAs key)

section

variable {key : Int}

/-- An operation that names no device acts for any. -/
theorem actsAs_of_none {op : Op} (none : op.actor = none) : op.actsAs key := by
  intro id actor
  rw [none] at actor
  cases actor

/-- One that names the device acts for it. -/
theorem actsAs_of_some {op : Op} (own : op.actor = some key) : op.actsAs key := by
  intro id actor
  rw [own] at actor
  exact (Option.some.inj actor).symm

/-- An undefined access queries for no other device. -/
theorem faulty_acting {α : Type} : Acting key (faulty : Handler α) :=
  ⟨actsAs_of_none rfl, fun response => response.elim⟩

/-- A statement that stores queries for no other device. -/
theorem storing_acting {statement : Statement} (onNull onError : Int)
    (own : ∀ node, (Op.realQuery node statement).actsAs key) :
    Acting key (storing statement onNull onError (return ())) :=
  storing_only onNull onError (actsAs_of_none rfl) own (fun _ => actsAs_of_none rfl) (only_ret ())

/-- A row that is sent queries for no other device. -/
theorem sendRow_acting (a : CLN) (frame : Frame) : Acting key (sendRow a frame) :=
  sendRow_only a (actsAs_of_none rfl) (actsAs_of_none rfl)

/-- A reply to a device queries for no other device. -/
theorem sendOpBack_acting (a : CLN) (opCode : String) (payLoad : Bytes) :
    Acting key (sendOpBack a opCode payLoad) :=
  ⟨actsAs_of_none rfl, fun _ => (sendRow_acting a _).bind fun _ => trivial⟩

/-- A statement that reads queries for no other device. -/
theorem reading_acting {statement : Statement} {each : Row → Handler Bool}
    (own : ∀ node, (Op.realQuery node statement).actsAs key) (row : ∀ row, Acting key (each row)) :
    Acting key (reading statement each) :=
  reading_only (actsAs_of_none rfl) own (fun _ => actsAs_of_none rfl) (actsAs_of_none rfl)
    (fun _ => actsAs_of_none rfl) row

/-- Opcode 4 queries only for the device of its connection. -/
theorem iotUpdate_acting (a : CLN) : Acting a.userKeyId (iotUpdate a) := by
  have update (data : Bytes) (evtClass status : Int) :
      Acting a.userKeyId (iotUpdateStatus { a.decrypted with data } evtClass status) :=
    iotUpdateStatus_only _ _ _ (actsAs_of_none rfl) (fun _ => actsAs_of_none rfl)
      (fun _ => actsAs_of_some rfl) (fun _ => actsAs_of_some rfl) fun _ => actsAs_of_none rfl
  unfold iotUpdate
  dsimp only
  split
  · trivial
  · exact iotUpdateLoop_only a.decrypted _ update fun _ _ => sendOpBack_acting _ _ _

/-- Opcode 5 queries only for the device of its connection. -/
theorem iotRead_acting (a : CLN) : Acting a.userKeyId (iotRead a) := by
  have read (data : Bytes) (devclass : Int) (del : Bool) :
      Acting a.userKeyId (iotReadCmd { a with data } devclass del) :=
    iotReadCmd_only _ _ _ (actsAs_of_none rfl) (fun _ => actsAs_of_none rfl)
      (fun _ => actsAs_of_some rfl) (fun _ => actsAs_of_some rfl) (fun _ => actsAs_of_none rfl)
      (actsAs_of_none rfl)
  exact iotRead_only a read fun _ _ _ _ => sendOpBack_acting _ _ _

/-- Opcode 6 queries only for the device of its connection. -/
theorem iotReadSelfSceneCmd_acting (a : CLN) :
    Acting a.userKeyId (iotReadSelfSceneCmd a a.userKeyId) :=
  reading_acting (fun _ => actsAs_of_some rfl) fun _ =>
    ⟨actsAs_of_none rfl, fun _ => sendRow_acting a _⟩

/-- Opcode 7 queries for no device. -/
theorem iotReadLoop_acting (a : CLN) (fields : List Bytes) : Acting key (iotReadLoop a fields) := by
  refine iotReadLoop_only a fields fun id => ?_
  exact reading_acting (fun _ => actsAs_of_none rfl) fun _ =>
    ⟨actsAs_of_none rfl, fun _ => sendRow_acting a _⟩

/-- Opcode 8 queries for no device. -/
theorem iotSend_acting (a : CLN) : Acting key (iotSend a) := by
  unfold iotSend
  split
  · refine ⟨actsAs_of_none rfl, fun online => ?_⟩
    cases online with
    | none =>
      refine ⟨actsAs_of_none rfl, fun found => ?_⟩
      cases found with
      | none => exact faulty_acting
      | some device => exact ⟨actsAs_of_none rfl, fun _ => trivial⟩
    | some node => exact ⟨actsAs_of_none rfl, fun _ => sendOpBack_acting _ _ _⟩
  · trivial

/-- `NewIotCmdToBeExecute` queries for no other device. -/
theorem newIotCmdToBeExecute_acting (a : CLN) (cmd : Bytes) (devclass status : Int)
    (timeToBeExe : Bytes) :
    Acting a.userKeyId (newIotCmdToBeExecute a cmd devclass status timeToBeExe) := by
  refine ⟨actsAs_of_none rfl, fun found => ?_⟩
  cases found with
  | none => exact faulty_acting
  | some node => exact storing_acting _ _ fun _ => actsAs_of_some rfl

/-- Opcode 9 queries only for the device of its connection. -/
theorem iotStore_acting (a : CLN) : Acting a.userKeyId (iotStore a) := by
  unfold iotStore
  split
  · refine ⟨actsAs_of_none rfl, fun found => ?_⟩
    cases found with
    | none => exact sendOpBack_acting _ _ _
    | some device =>
      have stores (cmd : Bytes) (devclass status : Int) := newIotCmdToBeExecute_acting
        { a.decrypted with talktoId := strcpy a.talktoId device.userId } cmd devclass status
        (text "00:00:00")
      exact (stores _ _ _).bind fun _ => sendOpBack_acting _ _ _
  · trivial

end

/-- A request for the opcodes 4 to 9 queries with the key id that it was copied with. -/
theorem talk_acting (config : Config) {a : CLN} (operates : a.operates = true) :
    Acting a.userKeyId (talk config a) := by
  obtain ⟨asks, signed⟩ := Bool.and_eq_true_iff.mp operates
  obtain ⟨device, four, nine⟩ := of_decide_eq_true asks
  have checked {handler : Handler Unit} (acting : Acting a.userKeyId handler) :
      Acting a.userKeyId (a.whenSignedIn handler) := by
    rw [CLN.whenSignedIn, if_pos signed]
    exact acting
  have ends : Acting a.userKeyId (finish a) :=
    ⟨actsAs_of_none rfl, fun _ => ⟨actsAs_of_none rfl, fun _ => trivial⟩⟩
  rw [talk, device]
  refine Only.bind ?_ fun _ => ends
  unfold iotTalk
  split
  · omega
  · omega
  · omega
  · exact checked (iotUpdate_acting a)
  · exact checked (iotRead_acting a)
  · exact checked ((iotReadSelfSceneCmd_acting a).bind fun _ => trivial)
  · exact checked (iotReadLoop_acting a _)
  · exact checked (iotSend_acting a)
  · exact checked (iotStore_acting a)
  · trivial

/-! ## What the lists have answered -/

/-- A search for a device is no miss after a check of the name has succeeded. -/
def Unmissed (before : List Happening) (happening : Happening) : Prop :=
  ∀ userId userPassword, ∀ check : Int,
    happening = ⟨.findRegister .iot (.name userId), (none : Option User)⟩ →
    ⟨.checkIdPwd 0 userId userPassword, check⟩ ∈ before → check ≠ -1 → kindOf userId ≠ .iot

/-- What was answered of devices still holds of the registered lists. -/
structure Answered (log : List Note) (registered : Lists) : Prop where
  kinded : Kinded registered
  /-- A device that has passed a check is registered with the id and the password. -/
  checks : ∀ object userId userPassword, ∀ check : Int,
    .did object ⟨.checkIdPwd 0 userId userPassword, check⟩ ∈ log → check ≠ -1 →
    kindOf userId = .iot → ∃ device ∈ registered.iots.nodes,
      streq userId device.userId = true ∧ streq userPassword device.userPassword = true
  /-- A node that was found under a device's id is a registered device. -/
  finds : ∀ object kind userId, ∀ node : User,
    .did object ⟨.findRegister kind (.name userId), some node⟩ ∈ log → kindOf userId = .iot →
    node ∈ registered.iots.nodes ∧ streq userId node.userId = true
  /-- No request misses a device it has checked. -/
  misses : ∀ object, Throughout Unmissed (deeds log object)

section

variable {log : List Note} {registered after online : Lists} {object : Nat} {op : Op}
  {response : op.Res}

/-- The lists answer nothing before the first operation. -/
theorem answered_loaded (entries : List Entry) : Answered [] (loaded entries) where
  kinded := loaded_kinded entries
  checks _ _ _ _ member := by cases member
  finds _ _ _ _ member := by cases member
  misses _ := throughout_nil

/-- A note of no operation. -/
theorem Answered.silent (answered : Answered log registered) (note : Note)
    (still : ∀ object, note.deed object = none) : Answered (log ++ [note]) registered := by
  have told {object : Nat} {happening : Happening}
      (member : .did object happening ∈ log ++ [note]) : .did object happening ∈ log := by
    rcases List.mem_append.mp member with old | new
    · exact old
    · have deed := still object
      rw [← List.mem_singleton.mp new, Note.deed, if_pos rfl] at deed
      cases deed
  constructor
  · exact answered.kinded
  · intro object userId userPassword check member
    exact answered.checks object userId userPassword check (told member)
  · intro object kind userId node member
    exact answered.finds object kind userId node (told member)
  · intro object
    rw [deeds_snoc_of_none (still object)]
    exact answered.misses object

/-- A search that answers nobody misses no device that was checked. -/
theorem Answered.unmissed (answered : Answered log registered)
    (stepped : ((Directory.mk registered online).after ⟨op, response⟩).map Directory.registered =
      some after) : Unmissed (deeds log object) ⟨op, response⟩ := by
  intro userId userPassword check same member right device
  cases same
  obtain ⟨node, known, named, -⟩ :=
    answered.checks object userId userPassword check (mem_deeds.mp member) right device
  have missing : registered.iots.nodes.find? (Lookup.name userId).matches = none :=
    (search_after stepped).symm
  exact List.find?_eq_none.mp missing node known named

/-- An operation that the lists answer. -/
theorem Answered.did (answered : Answered log registered)
    (stepped : ((Directory.mk registered online).after ⟨op, response⟩).map Directory.registered =
      some after) : Answered (log ++ [.did object ⟨op, response⟩]) after := by
  have keeps := keeps_after stepped
  constructor
  · exact keeps.1 answered.kinded
  · intro other userId userPassword check member right device
    rcases List.mem_append.mp member with old | new
    · obtain ⟨node, known, same⟩ := answered.checks other _ _ check old right device
      exact ⟨node, keeps.2 node known, same⟩
    · cases List.mem_singleton.mp new
      rw [check_after stepped] at right
      obtain ⟨node, known, same⟩ := checkIdPwd_found right
      rw [device] at known
      exact ⟨node, keeps.2 node known, same⟩
  · intro other kind userId node member device
    rcases List.mem_append.mp member with old | new
    · obtain ⟨known, same⟩ := answered.finds other kind userId node old device
      exact ⟨keeps.2 node known, same⟩
    · cases List.mem_singleton.mp new
      have found : (registered.head kind).nodes.find? (Lookup.name userId).matches = some node :=
        (search_after stepped).symm
      have named : (Lookup.name userId).matches node = true := List.find?_some found
      change streq userId node.userId = true at named
      have listed := List.mem_of_find?_eq_some found
      cases kind with
      | user =>
        -- users have longer ids
        have user := answered.kinded .user node listed
        rw [← kindOf_of_cstr ((streq_iff _ _).mp named), device] at user
        cases user
      | iot => exact ⟨keeps.2 node listed, named⟩
  · intro other
    by_cases own : object = other
    · subst own
      rw [deeds_snoc_did]
      exact (throughout_snoc _ _).mpr ⟨answered.misses object, answered.unmissed stepped⟩
    · rw [deeds_snoc_other log own]
      exact answered.misses other

end

/-! ## What a sign-in tells -/

section

variable {config : Config} {server : ServerState} {log : List Note} {registered : Lists}
  {object conn : Nat} {request : CLN} {happening : Happening} {userId userPassword : Bytes}

/-- What an operation of a request needs was done by it before. -/
theorem Told.grounded (told : Told config (server, log)) (requested : Requested log object request)
    {before after : List Happening} (done : deeds log object = before ++ happening :: after) :
    Grounded before happening.1 := by
  obtain ⟨rest, comes⟩ := told.comes requested
  change Comes (talk config request) (deeds log object) rest at comes
  rw [done] at comes
  have founded : (talk config request).Founded Grounded [] := talk_founded config request
  exact founded.each comes

/-- An operation of the chronicle with those of its object before it. -/
theorem deeds_split (member : .did object happening ∈ log) :
    ∃ before after, deeds log object = before ++ happening :: after :=
  List.append_of_mem (mem_deeds.mpr member)

/-- A check that a request of a connection has passed is one of the connection's. -/
theorem passed_name {past since : List Happening} (requested : Requested log object request)
    (signs : request.signing = true) (passed : PassedCheck past userId userPassword since)
    (part : past ⊆ deeds log object) : cstr userId ∈ passedNames log request.conn := by
  obtain ⟨before, check, rfl, right⟩ := passed
  obtain ⟨note, member, asks⟩ := requested
  have signer : object ∈ signers log request.conn := by
    refine List.mem_map.mpr ⟨(object, request), ?_, rfl⟩
    refine List.mem_filter.mpr ⟨List.mem_filterMap.mpr ⟨note, member, asks⟩, ?_⟩
    simp [signs]
  have done : (⟨.checkIdPwd 0 userId userPassword, check⟩ : Happening) ∈ deeds log object :=
    part (List.mem_append_right _ List.mem_cons_self)
  refine List.mem_flatMap.mpr ⟨object, signer, List.mem_filterMap.mpr ⟨_, done, ?_⟩⟩
  exact if_pos ⟨rfl, right⟩

/-- A request that makes an online node. -/
theorem allows_newOnline {a b : CLN} (allowed : a.allows (.newOnlineUserOrIotDev b)) :
    a.signing = true ∧ b.conn = a.conn := by
  rcases allowed with routine | accounting | key | signs
  · cases routine
  · cases accounting
  · cases key
  · exact signs

/-- An online node is made of a name and a password that were found. -/
theorem Told.madeOnline (told : Told config (server, log)) {b : CLN} {result : Int}
    (member : .did object ⟨.newOnlineUserOrIotDev b, result⟩ ∈ log) :
    cstr b.userId ∈ passedNames log b.conn ∧ ∃ check : Int, check ≠ -1 ∧
      .did object ⟨.checkIdPwd 0 b.userId b.userPassword, check⟩ ∈ log := by
  obtain ⟨request, requested⟩ := told.acted object _ member
  obtain ⟨signs, own⟩ := allows_newOnline (told.allows requested (mem_deeds.mpr member))
  obtain ⟨before, after, split⟩ := deeds_split member
  obtain ⟨since, passed⟩ := told.grounded requested split
  have part : before ⊆ deeds log object := split ▸ List.subset_append_left _ _
  have name := passed_name requested signs passed part
  obtain ⟨first, check, rfl, right⟩ := passed
  refine ⟨own ▸ name, check, right, mem_deeds.mp (part ?_)⟩
  exact List.mem_append_right _ List.mem_cons_self

/-- A key id is that of a node that was found under a name that was checked. -/
theorem Told.wroteKey (told : Told config (server, log)) {key : Int}
    {response : (Op.setConnUserKeyId conn key).Res}
    (member : .did object ⟨.setConnUserKeyId conn key, response⟩ ∈ log) :
    ∃ userId kind, ∃ found : User, cstr userId ∈ passedNames log conn ∧ found.userKeyId = key ∧
      .did object ⟨.findRegister kind (.name userId), some found⟩ ∈ log := by
  obtain ⟨request, requested⟩ := told.acted object _ member
  obtain ⟨signs, own⟩ := allows_userKeyId (told.allows requested (mem_deeds.mpr member))
  obtain ⟨before, after, split⟩ := deeds_split member
  obtain ⟨userId, userPassword, since, kind, found, passed, searched, same, -⟩ :=
    told.grounded requested split
  have part : before ⊆ deeds log object := split ▸ List.subset_append_left _ _
  have name := passed_name requested signs passed part
  obtain ⟨first, check, rfl, right⟩ := passed
  refine ⟨userId, kind, found, own ▸ name, same, mem_deeds.mp (part ?_)⟩
  exact List.mem_append_right _ (List.mem_cons_of_mem _ searched)

/-- A flag was set after a node was made for a name that was checked, and for a device after its key
id was written. -/
theorem signedIn_of_flag (told : Told config (server, log)) (answered : Answered log registered)
    (set : flagged log conn = true) : ∃ userId, cstr userId ∈ passedNames log conn ∧
      (∃ object b, ∃ result : Int,
        .did object ⟨.newOnlineUserOrIotDev b, result⟩ ∈ log ∧ b.conn = conn) ∧
      (kindOf userId = .iot → ∃ object key, .did object ⟨.setConnUserKeyId conn key, ()⟩ ∈ log) := by
  obtain ⟨object, request, response, requested, own, signs, done⟩ := told.flagged set
  obtain ⟨before, after, split⟩ := deeds_split (mem_deeds.mp done)
  obtain ⟨userId, userPassword, since, passed, made, keyed⟩ := told.grounded requested split
  have part : before ⊆ deeds log object := split ▸ List.subset_append_left _ _
  have name := passed_name requested signs passed part
  obtain ⟨first, check, rfl, right⟩ := passed
  have known {happening : Happening} (late : happening ∈ since) : .did object happening ∈ log :=
    mem_deeds.mp (part (List.mem_append_right _ (List.mem_cons_of_mem _ late)))
  refine ⟨userId, own ▸ name, ?_, fun device => ?_⟩
  · obtain ⟨b, result, late, same⟩ := made
    exact ⟨object, b, result, known late, same⟩
  · rcases keyed device with ⟨key, written⟩ | missing
    · exact ⟨object, key, known written⟩
    · -- the device was checked before, so the search has found it
      exfalso
      obtain ⟨between, later, rfl⟩ := List.append_of_mem missing
      have ordered : deeds log object =
          (first ++ ⟨.checkIdPwd 0 userId userPassword, check⟩ :: between) ++
          ⟨.findRegister .iot (.name userId), (none : Option User)⟩ ::
            (later ++ ⟨.setConnSignedIn conn, response⟩ :: after) := by
        rw [split]
        simp only [List.append_assoc, List.cons_append]
      have unmissed := answered.misses object _ _ _ ordered
      refine unmissed userId userPassword check rfl ?_ right device
      exact List.mem_append_right _ List.mem_cons_self

/-! ## The last sign-in -/

/-- The last sign-in of a longer log is that of its last note, when there is one. -/
theorem lastSignIn_snoc (note : Note) :
    lastSignIn (log ++ [note]) conn = (note.signIn conn).or (lastSignIn log conn) := by
  rw [lastSignIn, List.filterMap_append, List.getLast?_append]
  cases signs : note.signIn conn with
  | none =>
    rw [List.filterMap_cons_none signs]
    rfl
  | some b =>
    rw [List.filterMap_cons_some signs]
    rfl

/-- A node was made of it. -/
theorem lastSignIn_made {b : CLN} (last : lastSignIn log conn = some b) :
    b.conn = conn ∧
      ∃ object, ∃ result : Int, .did object ⟨.newOnlineUserOrIotDev b, result⟩ ∈ log := by
  obtain ⟨note, member, signs⟩ := List.mem_filterMap.mp (List.mem_of_getLast? last)
  cases note with
  | received => cases signs
  | did object happening =>
    obtain ⟨op, result⟩ := happening
    cases op with
    | newOnlineUserOrIotDev made =>
      change (if made.conn = conn then some made else none) = some b at signs
      split at signs
      · rename_i own
        obtain rfl := Option.some.inj signs
        exact ⟨own, object, result, member⟩
      · cases signs
    | _ => cases signs

/-- There is one where a node was made. -/
theorem lastSignIn_of_made {b : CLN} {result : Int}
    (member : .did object ⟨.newOnlineUserOrIotDev b, result⟩ ∈ log) :
    ∃ last, lastSignIn log b.conn = some last := by
  have signs : b ∈ log.filterMap (Note.signIn b.conn) :=
    List.mem_filterMap.mpr ⟨_, member, if_pos rfl⟩
  cases last : lastSignIn log b.conn with
  | none =>
    rw [lastSignIn, List.getLast?_eq_none_iff] at last
    rw [last] at signs
    cases signs
  | some newest => exact ⟨newest, rfl⟩

/-- The key id that was written last. -/
theorem keyId_written (written : ∃ object key, .did object ⟨.setConnUserKeyId conn key, ()⟩ ∈ log) :
    ∃ object, .did object ⟨.setConnUserKeyId conn (keyId log conn), ()⟩ ∈ log := by
  -- from the end of the chronicle: the last write that there is decides
  induction log using List.reverseRecOn with
  | nil =>
    obtain ⟨object, key, member⟩ := written
    cases member
  | append_singleton notes note ih =>
    rw [keyId_snoc]
    cases wrote : note.keyId conn with
    | none =>
      obtain ⟨object, key, member⟩ := written
      have old : .did object ⟨.setConnUserKeyId conn key, ()⟩ ∈ notes := by
        rcases List.mem_append.mp member with old | new
        · exact old
        · rw [← List.mem_singleton.mp new] at wrote
          change (if conn = conn then some key else none) = none at wrote
          rw [if_pos rfl] at wrote
          cases wrote
      obtain ⟨writer, last⟩ := ih ⟨object, key, old⟩
      exact ⟨writer, List.mem_append_left _ last⟩
    | some id =>
      cases note with
      | received => cases wrote
      | did writer happening =>
        obtain ⟨op, response⟩ := happening
        cases op with
        | setConnUserKeyId other key =>
          change (if other = conn then some key else none) = some id at wrote
          split at wrote
          · rename_i own
            obtain rfl := Option.some.inj wrote
            subst own
            exact ⟨writer, List.mem_append_right _ List.mem_cons_self⟩
          · cases wrote
        | _ => cases wrote

/-! ## Connections of one device -/

/-- The names of a connection of one device are those of devices. -/
theorem OneDevice.kind (one : OneDevice log conn) (name : cstr userId ∈ passedNames log conn) :
    kindOf userId = .iot := if_pos (one _ name).1

/-- The last sign-in is that of a registered device with the password that was presented. -/
theorem Answered.device (answered : Answered log registered) (told : Told config (server, log))
    (one : OneDevice log conn) {b : CLN} (last : lastSignIn log conn = some b) :
    cstr b.userId ∈ passedNames log conn ∧ ∃ device ∈ registered.iots.nodes,
      streq b.userId device.userId = true ∧ streq b.userPassword device.userPassword = true := by
  obtain ⟨rfl, object, result, member⟩ := lastSignIn_made last
  obtain ⟨name, check, right, checked⟩ := told.madeOnline member
  exact ⟨name, answered.checks object _ _ check checked right (one.kind name)⟩

/-- Where the flag is set somebody has signed in, and the key id is that of the device. -/
theorem Answered.keyed (answered : Answered log registered) (told : Told config (server, log))
    (one : OneDevice log conn) (set : flagged log conn = true) :
    (∃ b, lastSignIn log conn = some b) ∧ ∃ device ∈ registered.iots.nodes,
      cstr device.userId ∈ passedNames log conn ∧ device.userKeyId = keyId log conn := by
  obtain ⟨userId, name, ⟨object, b, result, made, rfl⟩, keyed⟩ := signedIn_of_flag told answered set
  refine ⟨lastSignIn_of_made made, ?_⟩
  obtain ⟨writer, last⟩ := keyId_written (keyed (one.kind name))
  obtain ⟨other, kind, device, checked, same, found⟩ := told.wroteKey last
  obtain ⟨listed, named⟩ := answered.finds writer kind other device found (one.kind checked)
  have text : cstr other = cstr device.userId := (streq_iff _ _).mp named
  exact ⟨device, listed, text ▸ checked, same⟩

end

/-! ## Every run -/

section

variable {config : Config} {now next : Listed} {server after : ServerState} {log history : List Note}
  {registered lists : Lists} {turn : Turn} {request : CLN}

/-- A turn of the server, with the answers of its lists. -/
theorem listed_step (turned : (listed config).step now turn = some next) :
    (chronicled config).step now.1 turn = some next.1 ∧
      (now.1.1.notes turn).foldlM (listedAfter now.1.1) now.2 = some next.2 := by
  obtain ⟨following, stepped, rest⟩ := Option.bind_eq_some_iff.mp turned
  obtain ⟨lists, answered, same⟩ := Option.bind_eq_some_iff.mp rest
  obtain rfl := Option.some.inj same
  exact ⟨stepped, answered⟩

/-- What the lists answer to one note. -/
theorem foldlM_one (note : Note) :
    [note].foldlM (listedAfter server) registered = listedAfter server registered note := by
  rw [List.foldlM_cons]
  cases listedAfter server registered note with
  | none => rfl
  | some lists => rfl

/-- A packet, an operation that the lists answer, or neither, where no task is new. -/
theorem listed_cases
    (turned : (listed config).step ((server, log), registered) turn =
      some ((after, history), lists)) :
    (∃ conn record packet allocated, server.memory.conns conn = some record ∧
      server.receive config conn packet allocated = some after ∧
      history = log ++ [.received conn record packet allocated server.objects] ∧
      lists = registered) ∨
    (∃ index task op rest response memory, server.tasks[index]? = some task ∧
      task.program = .call op rest ∧
      after = { server with
        memory
        frees := countFree server.frees task.object op
        tasks := server.tasks.set index (task.performed op (rest response)) } ∧
      history = log ++ [.did task.object ⟨op, response⟩] ∧
      listedAfter server registered (.did task.object ⟨op, response⟩) = some lists) ∨
    ((∀ task ∈ after.tasks, task ∈ server.tasks) ∧ history = log ∧ lists = registered) := by
  obtain ⟨stepped, answers⟩ := listed_step turned
  have shown : history = log ++ server.notes turn := (observed_step.mp stepped).2
  dsimp only at answers
  obtain ⟨conn, record, packet, allocated, -, known, received, rfl⟩ |
    ⟨index, answer, task, op, rest, response, memory, -, found, program, -, -, rfl, rfl⟩ |
    ⟨index, task, -, found, returned, rfl, rfl⟩ | ⟨passes, rfl⟩ := chronicled_cases stepped
  · rw [← List.append_cancel_left shown, foldlM_one] at answers
    exact .inl ⟨conn, record, packet, allocated, known, received, rfl,
      (Option.some.inj answers).symm⟩
  · rw [← List.append_cancel_left shown, foldlM_one] at answers
    exact .inr (.inl ⟨index, task, op, rest, response, memory, found, program, rfl, rfl, answers⟩)
  · rw [List.append_right_eq_self.mp shown.symm] at answers
    exact .inr (.inr ⟨fun _ => List.mem_of_mem_eraseIdx, rfl, (Option.some.inj answers).symm⟩)
  · rw [List.append_right_eq_self.mp shown.symm] at answers
    exact .inr (.inr ⟨fun _ member => passes.same.1 ▸ member, rfl,
      (Option.some.inj answers).symm⟩)

/-- The request is that of the device that has signed in last on its connection. -/
def ServesDevice (log : List Note) (registered : Lists) (request : CLN) : Prop :=
  ∃ b, ∃ device ∈ registered.iots.nodes, lastSignIn log request.conn = some b ∧
    streq b.userId device.userId = true ∧ streq b.userPassword device.userPassword = true ∧
    device.userKeyId = request.userKeyId

/-- What a turn keeps. -/
structure Devoted (config : Config) (now : Listed) : Prop where
  told : Told config now.1
  trail : Trail now.1
  answered : Answered now.1.2 now.2
  served : ∀ task ∈ now.1.1.tasks, task.request.operates = true →
    ServesDevice now.1.2 now.2 task.request

/-- Before the first connection nobody acts. -/
theorem devoted_initial (config : Config) (entries : List Entry) :
    Devoted config ((.initial, []), loaded entries) where
  told := told_initial config
  trail := trail_initial
  answered := answered_loaded entries
  served _ member := by cases member

/-- A request whose connection is of one device, with the key id of the connection. -/
theorem ServesDevice.of_flag (told : Told config (server, log)) (answered : Answered log registered)
    (single : OneKey registered) (one : OneDevice log request.conn)
    (set : flagged log request.conn = true) (key : request.userKeyId = keyId log request.conn) :
    ServesDevice log registered request := by
  obtain ⟨⟨b, last⟩, keyed, known, checked, written⟩ := answered.keyed told one set
  obtain ⟨name, device, listed, named, password⟩ := answered.device told one last
  refine ⟨b, device, listed, last, named, password, ?_⟩
  have same : cstr device.userId = cstr keyed.userId := by
    rw [← (streq_iff _ _).mp named]
    exact (one _ name).2 _ checked
  rw [key, ← written]
  exact single device listed keyed known same

/-- Another sign-in on a connection of one device. -/
theorem ServesDevice.signIn (served : ServesDevice log registered request) {object : Nat} {b : CLN}
    {result : Int}
    (told : Told config (after, log ++ [.did object ⟨.newOnlineUserOrIotDev b, result⟩]))
    (answered : Answered (log ++ [.did object ⟨.newOnlineUserOrIotDev b, result⟩]) registered)
    (single : OneKey registered)
    (one : OneDevice (log ++ [.did object ⟨.newOnlineUserOrIotDev b, result⟩]) request.conn)
    (own : b.conn = request.conn) :
    ServesDevice (log ++ [.did object ⟨.newOnlineUserOrIotDev b, result⟩]) registered request := by
  obtain ⟨old, keyed, known, last, old_named, -, key⟩ := served
  have newest : lastSignIn (log ++ [.did object ⟨.newOnlineUserOrIotDev b, result⟩]) request.conn =
      some b := by
    have signs : (Note.did object ⟨.newOnlineUserOrIotDev b, result⟩).signIn request.conn = some b :=
      if_pos own
    rw [lastSignIn_snoc, signs]
    rfl
  obtain ⟨name, device, listed, named, password⟩ := answered.device told one newest
  obtain ⟨old_own, writer, outcome, member⟩ := lastSignIn_made last
  obtain ⟨old_name, -⟩ := told.madeOnline (List.mem_append_left _ member)
  rw [old_own] at old_name
  refine ⟨b, device, listed, newest, named, password, ?_⟩
  have same : cstr device.userId = cstr keyed.userId := by
    rw [← (streq_iff _ _).mp named, ← (streq_iff _ _).mp old_named]
    exact (one _ name).2 _ old_name
  rw [← key]
  exact single device listed keyed known same

/-- Where nobody signs in and no device is gone. -/
theorem ServesDevice.keep (served : ServesDevice log registered request) (note : Note)
    (quiet : note.signIn request.conn = none)
    (keeps : ∀ device ∈ registered.iots.nodes, device ∈ lists.iots.nodes) :
    ServesDevice (log ++ [note]) lists request := by
  obtain ⟨b, device, known, last, rest⟩ := served
  refine ⟨b, device, keeps device known, ?_, rest⟩
  rw [lastSignIn_snoc, quiet]
  exact last

/-- An operation of a task, where connections are of one device. -/
theorem ServesDevice.did (served : ServesDevice log registered request) {object : Nat} {op : Op}
    {response : op.Res} {online : Lists}
    (told : Told config (after, log ++ [.did object ⟨op, response⟩]))
    (answered : Answered (log ++ [.did object ⟨op, response⟩]) lists)
    (stepped : ((Directory.mk registered online).after ⟨op, response⟩).map Directory.registered =
      some lists)
    (single : OneKey registered) (one : OneDevice (log ++ [.did object ⟨op, response⟩]) request.conn) :
    ServesDevice (log ++ [.did object ⟨op, response⟩]) lists request := by
  cases signs : op.signsInAs request.conn with
  | none => exact served.keep _ signs (keeps_after stepped).2
  | some b =>
    cases op with
    | newOnlineUserOrIotDev made =>
      have own : made.conn = request.conn := by
        by_contra other
        rw [Op.signsInAs, if_neg other] at signs
        cases signs
      obtain rfl : lists = registered := newOnline_registered stepped
      exact served.signIn told answered single one own
    | _ => cases signs

/-- A request that is copied from a connection of one device. -/
theorem ServesDevice.arrives {conn object : Nat} {record : CLN} {packet : Bytes} {allocated : Bool}
    (trail : Trail (server, log)) (known : server.memory.conns conn = some record)
    (asks : requestOf conn record packet allocated = some request)
    (told : Told config (after, log ++ [.received conn record packet allocated object]))
    (answered : Answered (log ++ [.received conn record packet allocated object]) registered)
    (single : OneKey registered)
    (one : OneDevice (log ++ [.received conn record packet allocated object]) request.conn)
    (signed : request.signedIn = true) :
    ServesDevice (log ++ [.received conn record packet allocated object]) registered request := by
  have copied := requestOf_copied asks
  have own : request.conn = conn := copied.fields.1
  have yes : record.info0 = yes := copied.info0 ▸ of_decide_eq_true signed
  have set : flagged log conn = true := (trail.flag conn record known).mp yes
  refine .of_flag told answered single one ?_ ?_
  · rw [own, flagged_snoc, set]
    rfl
  · rw [own, keyId_snoc, copied.userKeyId, trail.key conn record known]
    rfl

/-- Any turn where the connections of requests for the opcodes 4 to 9 are of one device. -/
theorem devoted_turn (config : Config) (now : Listed) (turn : Turn) (next : Listed)
    (dedicated : Dedicated now turn) (devoted : Devoted config now)
    (turned : (listed config).step now turn = some next) : Devoted config next := by
  have stepped := (listed_step turned).1
  have told := told_turn config now.1 turn next.1 devoted.told stepped
  have trail := trail_turn config now.1 turn next.1 devoted.told devoted.trail stepped
  obtain ⟨⟨server, log⟩, registered⟩ := now
  obtain ⟨⟨after, history⟩, lists⟩ := next
  obtain ⟨single, asked⟩ := dedicated
  have shown : history = log ++ server.notes turn := (observed_step.mp stepped).2
  dsimp only at asked
  rw [← shown] at asked
  have pooled (task : Task) (member : task ∈ server.tasks) (operates : task.request.operates = true) :
      OneDevice history task.request.conn :=
    asked task.request (List.mem_append_left _ (List.mem_map_of_mem member)) operates
  obtain ⟨conn, record, packet, allocated, known, received, rfl, rfl⟩ |
    ⟨index, task, op, rest, response, memory, found, program, rfl, rfl, answers⟩ |
    ⟨fewer, rfl, rfl⟩ := listed_cases turned
  · have answered := devoted.answered.silent (.received conn record packet allocated server.objects)
      fun _ => rfl
    refine ⟨told, trail, answered, fun task member operates => ?_⟩
    have old (member : task ∈ server.tasks) :=
      (devoted.served task member operates).keep (.received conn record packet allocated
        server.objects) rfl fun _ listed => listed
    obtain ⟨-, tasks, -⟩ | ⟨request, asks, -, tasks⟩ := receive_request known received
    · exact old (tasks ▸ member)
    · change task ∈ after.tasks at member
      rw [tasks] at member
      rcases List.mem_append.mp member with member | new
      · exact old member
      · obtain rfl := List.mem_singleton.mp new
        have asking : (Note.received conn record packet allocated server.objects).request =
            some (server.objects, request) := by
          rw [Note.request, asks]
          rfl
        have one : OneDevice (log ++ [.received conn record packet allocated server.objects])
            request.conn := by
          refine asked request (List.mem_append_right _ ?_) operates
          rw [← List.append_cancel_left shown]
          exact List.mem_map.mpr ⟨_, List.mem_filterMap.mpr ⟨_, List.mem_cons_self, asking⟩, rfl⟩
        have signed : request.signedIn = true := (Bool.and_eq_true_iff.mp operates).2
        exact .arrives devoted.trail known asks told answered single one signed
  · have answered : Answered (log ++ [.did task.object ⟨op, response⟩]) lists :=
      devoted.answered.did answers
    refine ⟨told, trail, answered, fun other member operates => ?_⟩
    have kept : ∃ old ∈ server.tasks, old.request = other.request := by
      rcases List.mem_or_eq_of_mem_set member with old | rfl
      · exact ⟨other, old, rfl⟩
      · exact ⟨task, List.mem_of_getElem? found, rfl⟩
    obtain ⟨old, present, same⟩ := kept
    rw [← same] at operates ⊢
    exact (devoted.served old present operates).did told answered answers single
      (pooled old present operates)
  · refine ⟨told, trail, devoted.answered, fun other member operates => ?_⟩
    exact devoted.served other (fewer other member) operates

/-- A request that is served queries for its device. -/
theorem Devoted.acts (devoted : Devoted config now) : ActsForDevice now := by
  intro task member operates
  obtain ⟨b, device, known, last, named, password, key⟩ := devoted.served task member operates
  refine ⟨b, device, known, last, named, password, fun op next program id actor => ?_⟩
  obtain ⟨-, comes⟩ := devoted.told.pooled task member
  rw [program] at comes
  have acting := ((talk_acting config operates).comes comes).2
  rw [key]
  exact acting.1 id actor

end

/-- Where one device and nobody else has signed in on the connections of the requests for the opcodes
4 to 9, they act for it. -/
theorem device_operations_act_for_device (config : Config) (entries : List Entry) (turns : List Turn)
    (meets : (listed config).Meets Dedicated ((.initial, []), loaded entries) turns) :
    (listed config).Always ActsForDevice ((.initial, []), loaded entries) turns :=
  always_of_meets (fun _ devoted => devoted.acts) (devoted_turn config)
    (devoted_initial config entries) meets

/-! ## Runs -/

/-- A registered id with its password and key. -/
def entryOf (userId : String) (key : Int) : Entry := ⟨text userId, text "secret", key, [], []⟩

/-- A device signs in on it. -/
def deviceSigns (entry : Entry) : List Turn :=
  .event (.receive 0 (siaPacket "device01") true) ::
    [.int 1, .found none, .found (some entry.node), .unit, .int 1, .unit, .found none,
      .unit].map (.step 1)

/-- A user signs in on it. -/
def userSigns (entry : Entry) : List Turn :=
  .event (.receive 0 (siaPacket "user0000001") true) ::
    [.int 1, .found none, .found (some entry.node), .unit, .int 1, .unit, .found (some entry.node),
      .found (some entry.node), .unit, .unit].map (.step 1)

/-- Opcode 6 is asked for, until its query. -/
def asksScenes : List Turn :=
  [.event (.receive 0 (text "06" ++ zeros 20) true), .step 2 (.node (some 0))]

/-- A task of the pool is about to query for a device. -/
def Task.queries (task : Task) (key : Int) : Bool :=
  task.request.operates && match task.program with
    | .call op _ => op.actor = some key
    | .ret _ => false

/-- The device that has signed in asks for its scenes. -/
theorem device_operations_act_for_device_scenes : ∃ now : Listed,
    (listed ⟨id, []⟩).run ((.initial, []), loaded [entryOf "device01" 7])
        (greets ++ deviceSigns (entryOf "device01" 7) ++ asksScenes) = some now ∧
      now.1.1.tasks.any (Task.queries · 7) = true ∧ ActsForDevice now := by
  have queried : ((listed ⟨id, []⟩).run ((.initial, []), loaded [entryOf "device01" 7])
      (greets ++ deviceSigns (entryOf "device01" 7) ++ asksScenes)).any
        (fun now => now.1.1.tasks.any (Task.queries · 7)) = true := by
    decide +kernel
  obtain ⟨now, ran, queries⟩ := (Option.any_eq_true _ _).mp queried
  have meets : (listed ⟨id, []⟩).Meets Dedicated ((.initial, []), loaded [entryOf "device01" 7])
      (greets ++ deviceSigns (entryOf "device01" 7) ++ asksScenes) := by decide +kernel
  exact ⟨now, ran, queries, device_operations_act_for_device ⟨id, []⟩ _ _ meets 13 now ran⟩

/-- A user has signed in and asks for scenes, and no device is registered. -/
theorem user_asks_for_scenes : ∃ now : Listed,
    (listed ⟨id, []⟩).run ((.initial, []), loaded [entryOf "user0000001" 3])
        (greets ++ userSigns (entryOf "user0000001" 3) ++ asksScenes) = some now ∧
      ¬ActsForDevice now := by
  have queried : ((listed ⟨id, []⟩).run ((.initial, []), loaded [entryOf "user0000001" 3])
      (greets ++ userSigns (entryOf "user0000001" 3) ++ asksScenes)).any
        (fun now => now.1.1.tasks.any (Task.queries · 3) && now.2.iots.nodes.isEmpty) = true := by
    decide +kernel
  obtain ⟨now, ran, checks⟩ := (Option.any_eq_true _ _).mp queried
  obtain ⟨queries, none⟩ := Bool.and_eq_true_iff.mp checks
  refine ⟨now, ran, fun acts => ?_⟩
  obtain ⟨task, member, asked⟩ := List.any_eq_true.mp queries
  obtain ⟨b, device, known, -⟩ := acts task member (Bool.and_eq_true_iff.mp asked).1
  rw [List.isEmpty_iff.mp none] at known
  cases known

end UubangIot
