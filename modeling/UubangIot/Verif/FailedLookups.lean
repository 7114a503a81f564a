import UubangIot.Verif.Chronicle
import UubangIot.Verif.Lookups

/-!
# Searches that find nothing

Some handlers use the node they have searched for without a look at whether there is one. They are
safe exactly for the requests that find what they need.
-/

namespace UubangIot

open Effect Effect.Prog Transition

variable {a : CLN} {sight : Sight} {config : Config} {directory : Directory} {α : Type}

/-! ## Requests with a target -/

/-- The lists and what is unknown are as before, and the last operation was no miss. -/
structure Kept (sight after : Sight) : Prop where
  directory : after.directory = sight.directory
  clear : after.missed = false
  unknown : after.unknown = sight.unknown

/-- What neither searches nor changes a list keeps the sight. -/
theorem still_kept {handler : Handler α} (still : Still handler) (clear : sight.missed = false) :
    Handled a (fun _ after => Kept sight after) handler sight :=
  still_handled still clear fun _ _ directory missed unknown => ⟨directory, missed, unknown⟩

/-- A sight in which nothing is unknown is settled. -/
theorem settled_of_known (known : sight.unknown = false) : sight.Settled := fun unknown => by
  rw [known] at unknown
  cases unknown

/-- A part that searches nothing, with nothing unknown. -/
theorem unsearched_settled {handler : Handler α} (quiet : Unsearched handler)
    (clear : sight.missed = false) (known : sight.unknown = false) :
    Handled a (fun _ after => after.Settled) handler sight :=
  unsearched_handled quiet clear fun _ _ _ same => settled_of_known (same.trans known)

/-- A fault where nothing was missed. -/
theorem faulty_handled {post : α → Sight → Prop} (clear : sight.missed = false) :
    Handled a post (faulty : Handler α) sight := by
  constructor
  · rintro ⟨missed, -⟩
    rw [clear] at missed
    cases missed
  · intro response
    exact response.elim

/-- An operation that is no search. -/
theorem call_handled {op : Op} {next : op.Res → Handler α} {post : α → Sight → Prop}
    (still : op.looksUp = false ∧ op.relists = false) (fine : op ≠ .fault)
    (later : ∀ response after, Kept sight after →
      after.changed = (sight.changed || acts ⟨op, response⟩) →
      Handled a post (next response) after) :
    Handled a post (perform op >>= next) sight := by
  refine ⟨fun bad => fine bad.2, fun response after stepped => ?_⟩
  have now := unsearched_step still.1 stepped
  obtain ⟨directory, changed, rfl⟩ := watching_step stepped
  have same := after_of_still still.2 changed
  exact later response _ ⟨same, now.1, now.2.1⟩ rfl

/-- The end of a case. -/
theorem endCase_handled (b : CLN) (flow : Flow) (settled : sight.Settled) :
    Handled a (fun _ after => after.Settled) (endCase b flow) sight := by
  cases flow with
  | returned => exact settled
  | left => exact inert_handled (finish_inert b) settled

/-- A user's request is handled when its case is. -/
theorem user_handled {opcode : Opcode} (asks : a.requestClass = .user opcode)
    (handled : Handled a (fun _ after => after.Settled) (talkCase config a opcode) sight) :
    Handled a (fun _ after => after.Settled) (talk config a) sight := by
  rw [talk_user asks]
  apply safely_bind.mpr
  exact handled.mono fun flow after settled => endCase_handled a flow settled

/-- A reply that reports an error settles a request. -/
theorem report_handled (b : CLN) {code : String} (error : text code ∈ errorCodes) :
    Handled a (fun _ after => after.Settled) (sendReply b (reply code)) sight := by
  refine ⟨fun bad => Op.noConfusion bad.2, fun len after stepped => ?_⟩
  obtain ⟨directory, -, rfl⟩ := watching_step stepped
  refine inert_handled ((sendReply_inert b _).2 len) fun _ => .inr ?_
  have reports : (Op.send b.socket (reply code)).reportsError = true := decide_eq_true error
  simp [Sight.seeing, reports]

/-- A node that was found is found by its name. -/
theorem find_named {kind : Kind} {lookup : Lookup} {node : User} {lists : Lists}
    (found : lists.find kind lookup = some node) {userId : Bytes}
    (same : cstr userId = cstr node.userId) :
    ∃ other, lists.find kind (.name userId) = some other := by
  apply Option.isSome_iff_exists.mp
  rw [Lists.find, List.find?_isSome]
  exact ⟨node, List.mem_of_find?_eq_some found, (streq_iff _ _).mpr same⟩

/-! ### Scenes -/

/-- A stored scene for a registered device keeps the sight. -/
theorem sceneStore_kept {talktoId : Bytes} {node : User} (clear : sight.missed = false)
    (found : sight.directory.registered.find .iot (.name talktoId) = some node)
    (userKeyId : Int) (cmd : Bytes) (status devclass cmdGroup : Int) (timeStamp exeDate : Bytes) :
    Handled a (fun _ after => Kept sight after)
      (newUserSceneCmdStore talktoId userKeyId cmd status devclass cmdGroup timeStamp exeDate)
      sight := by
  apply (found_handled_clear clear found).mpr
  exact still_kept (storing_still _ _ _ (only_ret ())) clear

/-- What two pieces in sequence keep is kept. -/
theorem Kept.trans {middle after : Sight} (first : Kept sight middle) (second : Kept middle after) :
    Kept sight after :=
  ⟨second.directory.trans first.directory, second.clear, second.unknown.trans first.unknown⟩

/-- The scene of a device that is registered, or of none, keeps the sight. -/
theorem storeTrigger_kept (b : CLN) {first : Bytes} (second cmd timeStamp exeDate : Bytes)
    (clear : sight.missed = false)
    (known : atoi first = 0 ∨ sight.directory.knows .iot (.key (atoi first)) = true) :
    Handled a (fun _ after => Kept sight after) (storeTrigger b first second cmd timeStamp exeDate)
      sight := by
  unfold storeTrigger
  split
  · rename_i named
    obtain ⟨device, found⟩ := Option.isSome_iff_exists.mp (known.resolve_left named)
    obtain ⟨other, again⟩ := find_named found rfl
    apply safely_bind.mpr
    refine (still_kept (userDeleteSce_still _) clear).mono fun _ after kept => ?_
    rw [← kept.directory] at found again
    apply (found_handled_clear kept.clear found).mpr
    apply safely_bind.mpr
    exact (sceneStore_kept kept.clear again _ _ _ _ _ _ _).mono fun _ final stored =>
      kept.trans stored
  · exact ⟨rfl, clear, rfl⟩

/-- Both stores keep the sight when their devices are registered. -/
theorem storeScene_kept (b : CLN) {first : Bytes} (second third timeStamp exeDate : Bytes)
    (clear : sight.missed = false)
    (target : sight.directory.knows .iot (.name b.talktoId) = true)
    (known : atoi first = 0 ∨ sight.directory.knows .iot (.key (atoi first)) = true) :
    Handled a (fun _ after => Kept sight after) (storeScene b first second third timeStamp exeDate)
      sight := by
  obtain ⟨device, found⟩ := Option.isSome_iff_exists.mp target
  apply (found_handled_clear clear found).mpr
  apply safely_bind.mpr
  refine (storeTrigger_kept b _ _ _ _ clear known).mono fun _ after kept => ?_
  rw [← kept.directory] at found
  apply safely_bind.mpr
  exact (sceneStore_kept kept.clear found _ _ _ _ _ _ _).mono fun _ final stored =>
    kept.trans stored

/-- What a scene needs to find. -/
theorem knowsScene_iff {talktoId data : Bytes} : directory.knowsScene talktoId data = true ↔
    (strSplit data 200 dash).length < 7 ∨
      (directory.knows .iot (.name talktoId) = true ∧
        (atoi ((strSplit data 200 dash).getD 0 []) = 0 ∨
          directory.knows .iot (.key (atoi ((strSplit data 200 dash).getD 0 []))) = true)) := by
  simp [Directory.knowsScene]

/-- `SCE` without a schedule uses no failed search when its devices are registered. -/
theorem talkSceneDaily_handled (b : CLN) (clear : sight.missed = false)
    (known : sight.unknown = false)
    (finds : sight.directory.knowsScene b.talktoId b.data = true) :
    Handled a (fun _ after => after.Settled) (talkSceneDaily b) sight := by
  unfold talkSceneDaily
  dsimp only
  split
  · exact settled_of_known known
  · rename_i long
    have both := (knowsScene_iff.mp finds).resolve_left long
    apply safely_bind.mpr
    refine (storeScene_kept b _ _ _ _ clear both.1 both.2).mono fun _ after kept => ?_
    split
    · exact faulty_handled kept.clear
    · exact settled_of_known (kept.unknown.trans known)

/-- `SCE` with a schedule uses none when its devices are registered. -/
theorem talkSceneScheduled_handled (b : CLN) (clear : sight.missed = false)
    (known : sight.unknown = false)
    (finds : sight.directory.knowsScene b.talktoId b.data = true) :
    Handled a (fun _ after => after.Settled) (talkSceneScheduled b) sight := by
  unfold talkSceneScheduled
  dsimp only
  split
  · exact settled_of_known known
  · rename_i long
    have both := (knowsScene_iff.mp finds).resolve_left long
    have stored (second third timeStamp exeDate : Bytes) : Handled a (fun _ after => after.Settled)
        (storeScene b ((strSplit b.data 200 dash).getD 0 []) second third timeStamp exeDate >>=
          fun _ => .ret Flow.left) sight := by
      apply safely_bind.mpr
      refine (storeScene_kept b _ _ _ _ clear both.1 both.2).mono fun _ after kept => ?_
      exact settled_of_known (kept.unknown.trans known)
    split <;> exact stored _ _ _ _

/-- `DSC` without a schedule returns before it uses a search that found nothing. -/
theorem talkDscDaily_handled (clear : sight.missed = false) (known : sight.unknown = false)
    (unchanged : sight.changed = false)
    (finds : (strSplit a.data (strlen a.data) dash).length < 6 ∨
      sight.directory.knows .iot
        (.key (atoi ((strSplit a.data (strlen a.data) dash).getD 0 []))) = false ∨
      sight.directory.knows .iot (.name a.talktoId) = true) :
    Handled a (fun _ after => after.Settled) (talkDscDaily a) sight := by
  unfold talkDscDaily
  dsimp only
  split
  · exact settled_of_known known
  · rename_i long
    cases found : sight.directory.registered.find .iot
        (.key (atoi ((strSplit a.data (strlen a.data) dash).getD 0 []))) with
    | none =>
      apply (absent_handled found).mpr
      exact fun _ => .inl unchanged
    | some device =>
      have target : sight.directory.knows .iot (.name a.talktoId) = true := by
        refine (finds.resolve_left long).resolve_left fun missing => ?_
        rw [Directory.knows, found] at missing
        cases missing
      obtain ⟨node, named⟩ := Option.isSome_iff_exists.mp target
      apply (found_handled_clear clear found).mpr
      apply safely_bind.mpr
      apply safely_bind.mpr
      refine (still_kept (userDeleteSce_still _) clear).mono fun deleted after kept => ?_
      have fine : after.unknown = false := kept.unknown.trans known
      rw [← kept.directory] at named
      split
      · exact inert_handled (sendReply_inert a _) (settled_of_known fine)
      · apply safely_bind.mpr
        refine (sceneStore_kept kept.clear named _ _ _ _ _ _ _).mono fun _ final stored => ?_
        exact inert_handled (sendReply_inert a _)
          (settled_of_known (stored.unknown.trans fine))

/-- `DSC` with a schedule returns before it does. -/
theorem talkDscScheduled_handled (b : CLN) (schedule : Bytes) (clear : sight.missed = false)
    (known : sight.unknown = false) (unchanged : sight.changed = false) :
    Handled a (fun _ after => after.Settled) (talkDscScheduled b schedule) sight := by
  unfold talkDscScheduled
  dsimp only
  split
  · exact settled_of_known known
  · cases found : sight.directory.registered.find .iot
        (.key (atoi ((strSplit b.data (strlen b.data) dash).getD 0 []))) with
    | none =>
      apply (absent_handled found).mpr
      exact fun _ => .inl unchanged
    | some device =>
      apply (found_handled_clear clear found).mpr
      dsimp only
      split
      · apply safely_bind.mpr
        apply safely_bind.mpr
        refine (still_kept (userDeleteSce_still _) clear).mono fun deleted after kept => ?_
        have fine : after.unknown = false := kept.unknown.trans known
        split
        · exact report_handled b (by decide)
        · apply safely_bind.mpr
          cases named : after.directory.registered.find .iot (.name b.talktoId) with
          | none =>
            apply (absent_handled named).mpr
            exact report_handled b (by decide)
          | some node =>
            refine (sceneStore_kept kept.clear named _ _ _ _ _ _ _).mono fun stored final same => ?_
            have settled := settled_of_known (same.unknown.trans fine)
            exact inert_handled (sendReply_inert b _) settled
      · apply safely_bind.mpr
        refine (still_kept (userDeleteSce_still _) clear).mono fun deleted after kept => ?_
        split
        · exact report_handled b (by decide)
        · exact faulty_handled kept.clear

/-! ### Users, messages and devices -/

/-- `IOT` uses no failed search when its device is registered. -/
theorem userGetIotData_handled (b : CLN) (clear : sight.missed = false)
    (known : sight.unknown = false)
    (target : sight.directory.knows .iot (.name b.talktoId) = true) :
    Handled a (fun _ after => after.Settled) (talkIot b) sight := by
  obtain ⟨device, found⟩ := Option.isSome_iff_exists.mp target
  apply (found_handled_clear clear found).mpr
  apply unsearched_settled _ clear known
  refine (reading_unsearched _ fun row => still_unsearched (sendRow_still b _)).bind fun _ => ?_
  trivial

/-- A stored friend, whose id is read again only where it is zero. -/
theorem newUserFriend_handled (userKeyId : Int) {name : Bytes} (friendId : Int)
    (clear : sight.missed = false)
    (target : sight.directory.knows .user (.name name) = true) :
    Handled a (fun _ after => Kept sight after)
      (newUserFriend userKeyId (return name) friendId) sight := by
  unfold newUserFriend
  split
  · obtain ⟨node, found⟩ := Option.isSome_iff_exists.mp target
    apply (found_handled_clear clear found).mpr
    exact still_kept (storing_still _ _ _ (touching_still _ _)) clear
  · exact still_kept (storing_still _ _ _ (touching_still _ _)) clear

/-- A stored friend, whose name is not initialised. -/
theorem newUserFriend_unknown (userKeyId friendId : Int) (clear : sight.missed = false)
    (known : sight.unknown = false)
    (target : sight.directory.knows .user (.name a.talktoId) = true) :
    Handled a (fun _ after => after.unknown = false)
      (newUserFriend userKeyId (perform .uninitialisedText) friendId) sight := by
  unfold newUserFriend
  split
  · apply safely_bind.mpr
    refine call_handled ⟨rfl, rfl⟩ Op.noConfusion fun name after kept _ => ?_
    change Handled a _ (perform (.findRegister .user (.name name)) >>= _) after
    cases found : after.directory.registered.find .user (.name name) with
    | none =>
      apply (absent_handled found).mpr
      have other : a.targets (.findRegister .user (.name name)) = false := by
        have apart : (show Bytes from name) ≠ a.talktoId := by
          intro same
          rw [kept.directory, same] at found
          rw [Directory.knows, found] at target
          cases target
        simp [CLN.targets, apart]
      change (after.unknown || _) = false
      rw [kept.unknown, known, other]
      rfl
    | some node =>
      apply (found_handled_clear kept.clear found).mpr
      refine still_handled (storing_still _ _ _ (touching_still _ _)) kept.clear ?_
      intro _ final _ _ same
      exact same.trans (kept.unknown.trans known)
  · refine still_handled (storing_still _ _ _ (touching_still _ _)) clear ?_
    intro _ final _ _ same
    exact same.trans known

/-- `ADS` uses none when both users are registered. -/
theorem talkAds_handled (clear : sight.missed = false) (known : sight.unknown = false)
    (target : sight.directory.knows .user (.name a.talktoId) = true)
    (own : sight.directory.knows .user (.name a.userId) = true) :
    Handled a (fun _ after => after.Settled) (talkAds a) sight := by
  obtain ⟨friend, found⟩ := Option.isSome_iff_exists.mp target
  apply (found_handled_clear clear found).mpr
  apply safely_bind.mpr
  refine (newUserFriend_handled _ _ clear target).mono fun stored after kept => ?_
  have fine : after.unknown = false := kept.unknown.trans known
  split
  · exact inert_handled (sendReply_inert a _) (settled_of_known fine)
  · rw [← kept.directory] at own target
    obtain ⟨self, mine⟩ := Option.isSome_iff_exists.mp own
    apply (found_handled_clear kept.clear mine).mpr
    refine call_handled ⟨rfl, rfl⟩ Op.noConfusion fun id next same _ => ?_
    rw [← same.directory] at target
    apply safely_bind.mpr
    refine (newUserFriend_unknown _ _ same.clear (same.unknown.trans fine) target).mono ?_
    intro stored final unknown
    exact inert_handled (sendReply_inert a _) (settled_of_known unknown)

/-- A message tests what its search has found. -/
theorem talkMessage_handled (code : String) (clear : sight.missed = false)
    (known : sight.unknown = false) (unchanged : sight.changed = false) :
    Handled a (fun _ after => after.Settled) (talkMessage a code) sight := by
  cases found : sight.directory.registered.find .user (.name a.talktoId) with
  | none =>
    apply (absent_handled found).mpr
    apply inert_handled ((finish_inert a).bind fun _ => only_ret _)
    exact fun _ => .inl unchanged
  | some user =>
    apply (found_handled_clear clear found).mpr
    apply safely_bind.mpr
    have still : Still (newUserMsgStorage a user.userKeyId) :=
      ⟨⟨rfl, rfl⟩, fun _ => storing_still _ _ _ (touching_still _ _)⟩
    refine (still_kept still clear).mono fun _ after kept => ?_
    exact inert_handled (sendReply_inert a _) (settled_of_known (kept.unknown.trans known))

/-- A reload acts on nobody. -/
theorem reload_handled (clear : sight.missed = false) :
    Handled a (fun _ after => after.missed = false ∧ after.unknown = sight.unknown ∧
      after.changed = sight.changed) updateLocalRegUserAndIotlist sight := by
  refine updateLocalRegUserAndIotlist_reloading.safely
    (I := fun now => now.missed = false ∧ now.unknown = sight.unknown ∧
      now.changed = sight.changed) ?_ ?_ ⟨clear, rfl, rfl⟩ fun _ _ kept => kept
  · rintro op before - kept ⟨missed, -⟩
    rw [kept.1] at missed
    cases missed
  · intro op response before after reloads stepped kept
    have unsearched : op.looksUp = false := by
      cases op <;> first | rfl | cases reloads
    have idle : acts ⟨op, response⟩ = false := by
      cases op with
      | realQuery node statement => cases statement <;> first | rfl | cases reloads
      | _ => first | rfl | cases reloads
    have now := unsearched_step unsearched stepped
    obtain ⟨directory, -, rfl⟩ := watching_step stepped
    refine ⟨now.1, now.2.1.trans kept.2.1, ?_⟩
    rw [← kept.2.2]
    change (before.changed || acts ⟨op, response⟩) = before.changed
    rw [idle, Bool.or_false]

/-- `ICM` returns before it uses a search that found nothing. -/
theorem talkIcm_handled (known : sight.unknown = false) (unchanged : sight.changed = false) :
    Handled a (fun _ after => after.Settled) (talkIcm a) sight := by
  unfold talkIcm
  split
  · refine call_handled ⟨rfl, rfl⟩ Op.noConfusion fun online after kept same => ?_
    have fine : after.unknown = false := kept.unknown.trans known
    cases online with
    | some device =>
      refine unsearched_settled ⟨rfl, fun pin => ⟨rfl, fun seqNum => ⟨rfl, fun len => ?_⟩⟩⟩
        kept.clear fine
      dsimp only [Prog.bind]
      split
      · exact ⟨rfl, fun _ => trivial⟩
      · trivial
    | none =>
      cases found : after.directory.registered.find .iot (.name a.talktoId) with
      | none =>
        apply (absent_handled found).mpr
        refine fun _ => .inl ?_
        change after.changed = false
        rw [same, unchanged]
        rfl
      | some device =>
        apply (found_handled_clear kept.clear found).mpr
        refine unsearched_settled ?_ kept.clear fine
        exact ⟨rfl, fun _ => ⟨rfl, fun _ => ⟨rfl, fun _ => ⟨rfl, fun _ =>
          ⟨rfl, fun _ => trivial⟩⟩⟩⟩⟩
  · exact settled_of_known known

/-- `IOC` tests what its search has found. -/
theorem talkIoc_handled (clear : sight.missed = false) (known : sight.unknown = false) :
    Handled a (fun _ after => after.Settled) (talkIoc a) sight := by
  apply safely_bind.mpr
  cases found : sight.directory.registered.find .iot (.name a.talktoId) with
  | none =>
    apply (absent_handled found).mpr
    exact report_handled a (by decide)
  | some device =>
    apply (found_handled_clear clear found).mpr
    refine still_handled (storing_still _ _ _ (touching_still _ _)) clear ?_
    intro stored after _ _ same
    exact inert_handled (sendReply_inert a _) (settled_of_known (same.trans known))

/-- A device's request ends as its handler does. -/
theorem device_handled (asks : a.requestClass = .device)
    (handled : Handled a (fun _ after => after.Settled) (iotTalk a) sight) :
    Handled a (fun _ after => after.Settled) (talk config a) sight := by
  rw [talk_device asks]
  apply safely_bind.mpr
  exact handled.mono fun _ after settled => inert_handled (finish_inert a) settled

/-- Opcode 8 uses no failed search when its device is online or registered. -/
theorem iotSend_handled (b : CLN) (known : sight.unknown = false)
    (finds : ∀ target first second rest,
      strSplit b.decrypted.data 200 underscore = target :: first :: second :: rest →
      sight.directory.online.find .iot (.key (atoi target)) = none →
      sight.directory.knows .iot (.key (atoi target)) = true) :
    Handled a (fun _ after => after.Settled) (iotSend b) sight := by
  unfold iotSend
  split
  · rename_i target first second rest fields
    constructor
    · rintro ⟨-, other⟩
      cases other
    · intro online after stepped
      have now := unsearched_step rfl stepped
      obtain ⟨directory, changed, rfl⟩ := watching_step stepped
      have same := after_of_still rfl changed
      have fine := now.2.1.trans known
      cases online with
      | some node =>
        refine unsearched_settled ⟨rfl, fun pin => ?_⟩ now.1 fine
        exact still_unsearched (sendOpBack_still _ _ _)
      | none =>
        have offline : sight.directory.online.find .iot (.key (atoi target)) = none := by
          by_contra present
          change (if (none : Option User) = _ then some sight.directory else none) = some directory
            at changed
          rw [if_neg (Ne.symm present)] at changed
          cases changed
        have registered := finds target first second rest fields offline
        rw [← same] at registered
        obtain ⟨device, found⟩ := Option.isSome_iff_exists.mp registered
        refine (found_handled_clear now.1 found).mpr ?_
        exact unsearched_settled ⟨rfl, fun _ => trivial⟩ now.1 fine
  · exact settled_of_known known

/-- Opcode 9 tests what its search has found. -/
theorem iotStore_handled (b : CLN) (clear : sight.missed = false) (known : sight.unknown = false)
    (unchanged : sight.changed = false) :
    Handled a (fun _ after => after.Settled) (iotStore b) sight := by
  unfold iotStore
  split
  · rename_i target devclass cmd _
    cases found : sight.directory.registered.find .iot (.key (atoi target)) with
    | none =>
      apply (absent_handled found).mpr
      have inert : (sendOpBack b "29" []).Only Op.inert :=
        ⟨⟨rfl, Op.noConfusion, fun _ => rfl⟩, fun _ =>
          (sendRow_only b ⟨rfl, Op.noConfusion, fun _ => rfl⟩
            ⟨rfl, Op.noConfusion, fun _ => rfl⟩).bind fun _ => only_ret _⟩
      exact inert_handled inert fun _ => .inl unchanged
    | some device =>
      apply (found_handled_clear clear found).mpr
      obtain ⟨node, named⟩ := find_named found (cstr_strcpy b.talktoId device.userId)
      apply safely_bind.mpr
      apply (found_handled_clear clear named).mpr
      refine still_handled (storing_still _ _ _ (only_ret ())) clear ?_
      intro stored after _ missed same
      exact unsearched_settled (still_unsearched (sendOpBack_still _ _ _)) missed
        (same.trans known)
  · exact settled_of_known known

/-! ### All requests -/

/-- A calm handler, at the start of a request. -/
theorem calm_settled {handler : Handler α} (calm : Calm a handler) :
    Handled a (fun _ after => after.Settled) handler (.start directory) :=
  (calm _ rfl rfl).mono fun _ _ known => settled_of_known known

/-- The device requests other than commands. -/
theorem iotTalk_calm (apart : ∀ op, a.targets op = false) (other : atoi a.checkcode ≠ 8)
    (another : atoi a.checkcode ≠ 9) : Calm a (iotTalk a) := by
  have signedIn {handler : Handler Unit} (calm : Calm a handler) :
      Calm a (a.whenSignedIn handler) := by
    unfold CLN.whenSignedIn
    split
    · exact calm
    · exact (firm_ret a _).calm
  unfold iotTalk
  split
  · exact calm_of_unsearched ⟨rfl, fun _ => ⟨rfl, fun _ => ⟨rfl, fun _ =>
      still_unsearched (sendOpBack_still a _ _)⟩⟩⟩
  · refine calm_of_unsearched ?_
    unfold iotPin
    split
    · trivial
    · exact ⟨rfl, fun _ => ⟨rfl, fun _ => defined_only rfl fun _ _ =>
        still_unsearched (sendOpBack_still a _ _)⟩⟩
  · exact iotRegSign_calm apart a
  · refine signedIn (calm_of_unsearched ?_)
    unfold iotUpdate
    dsimp only
    split
    · trivial
    · exact iotUpdateLoop_unsearched _ _
  · exact signedIn (calm_of_unsearched (iotRead_unsearched a))
  · exact signedIn (calm_of_unsearched ((iotRows_unsearched a _ _ _).bind fun _ => only_ret _))
  · exact signedIn (calm_of_unsearched (iotReadLoop_unsearched a _))
  · contradiction
  · contradiction
  · exact (firm_ret a _).calm

/-- A command for another device. -/
theorem iotTalk_send (code : atoi a.checkcode = 8) :
    iotTalk a = a.whenSignedIn (iotSend a) := by
  unfold iotTalk
  rw [code]
  rfl

/-- A command that is stored for another device. -/
theorem iotTalk_store (code : atoi a.checkcode = 9) :
    iotTalk a = a.whenSignedIn (iotStore a) := by
  unfold iotTalk
  rw [code]
  rfl

/-- A request that finds what it needs is handled. -/
theorem handled_of_findable (finds : a.findable directory = true) :
    Handled a (fun _ after => after.Settled) (talk config a) (.start directory) := by
  cases asks : a.requestClass with
  | test =>
    rw [talk, asks]
    exact unsearched_settled ⟨rfl, fun _ => still_unsearched (finish_still a)⟩ rfl rfl
  | device =>
    apply device_handled asks
    by_cases eight : atoi a.checkcode = 8
    · rw [iotTalk_send eight, CLN.whenSignedIn]
      split
      · rename_i signed
        apply iotSend_handled a rfl
        intro target first second rest fields offline
        simp only [CLN.findable, asks, eight, signed, fields] at finds
        change (Directory.online directory).find .iot (.key (atoi target)) = none at offline
        change directory.knows .iot (.key (atoi target)) = true
        simpa [offline] using finds
      · exact settled_of_known rfl
    · by_cases nine : atoi a.checkcode = 9
      · rw [iotTalk_store nine, CLN.whenSignedIn]
        split
        · exact iotStore_handled a rfl rfl rfl
        · exact settled_of_known rfl
      · refine calm_settled (iotTalk_calm (fun op => ?_) eight nine)
        cases op with
        | findRegister kind lookup =>
          cases lookup with
          | name userId => simp [CLN.targets, asks]
          | key id => cases kind <;> simp [CLN.targets, asks, eight, nine]
        | _ => rfl
  | user opcode =>
    apply user_handled asks
    have apart (other : opcode ∉ [Opcode.sce, .iot, .taa, .add, .ads, .icm, .dsc, .ioc]) (op : Op) :
        a.targets op = false := by
      cases op with
      | findRegister kind lookup =>
        cases lookup with
        | name userId => cases opcode <;> simp_all [CLN.targets]
        | key id => cases kind <;> cases opcode <;> simp_all [CLN.targets]
      | _ => rfl
    simp only [CLN.findable, asks] at finds
    cases opcode with
    | hba =>
      exact calm_settled (calm_of_unsearched
        (andThen_unsearched (still_unsearched (sendReply_still a _)) (talkRsa_unsearched a)))
    | rsa => exact calm_settled (calm_of_unsearched (talkRsa_unsearched a))
    | pin => exact calm_settled (calm_of_unsearched (talkPin_unsearched a))
    | sib | sia => exact calm_settled (talkSia_calm (apart (by decide)) a)
    | rea => exact calm_settled (calm_of_unsearched (talkRea_unsearched config a))
    | rme => exact settled_of_known rfl
    | sce =>
      rw [talkCase, talkSce]
      rcases shape : strSplit a.data 200 tilde with _ | ⟨data, _ | ⟨date, rest⟩⟩
      · rw [shape] at finds
        exact talkSceneDaily_handled a rfl rfl finds
      · rw [shape] at finds
        exact talkSceneDaily_handled a rfl rfl finds
      · rw [shape] at finds
        exact talkSceneScheduled_handled _ rfl rfl finds
    | iot => exact userGetIotData_handled a rfl rfl finds
    | taa => exact talkMessage_handled _ rfl rfl rfl
    | sto =>
      exact calm_settled (calm_of_unsearched
        (andThen_unsearched (still_unsearched (sendReply_still a _)) ⟨rfl, fun _ => trivial⟩))
    | upd => exact calm_settled (calm_of_unsearched ⟨rfl, fun _ => trivial⟩)
    | add =>
      apply safely_bind.mpr
      refine (reload_handled rfl).mono fun _ after kept => ?_
      exact talkMessage_handled _ kept.1 kept.2.1 kept.2.2
    | ads =>
      have both := Bool.and_eq_true_iff.mp finds
      exact talkAds_handled rfl rfl both.1 both.2
    | icm => exact talkIcm_handled rfl rfl
    | dsc =>
      rw [talkCase, talkDsc]
      rcases shape : strSplit a.data 200 tilde with _ | ⟨data, _ | ⟨schedule, rest⟩⟩
      · rw [shape] at finds
        exact talkDscDaily_handled rfl rfl rfl (by simpa [or_assoc, Sight.start] using finds)
      · rw [shape] at finds
        exact talkDscDaily_handled rfl rfl rfl (by simpa [or_assoc, Sight.start] using finds)
      · exact talkDscScheduled_handled _ _ rfl rfl rfl
    | ioc => exact talkIoc_handled rfl rfl
    | rco => exact calm_settled (talkRco_calm (apart (by decide)) a)
    | rpa => exact calm_settled (talkRpa_calm (apart (by decide)) a)
    | unknown =>
      exact calm_settled (calm_of_unsearched (still_unsearched (sendReply_still a _)))

/-! ## Requests that find nothing -/

section

variable {post : α → Sight → Prop} {unit : Unit → Sight → Prop} {flow : Flow → Sight → Prop}

/-- A search that finds nothing, and the use of its result. -/
theorem absent_unhandled {kind : Kind} {lookup : Lookup} {next : Option User → Handler α}
    (absent : sight.directory.registered.find kind lookup = none) (uses : next none = faulty) :
    ¬Handled a post (perform (.findRegister kind lookup) >>= next) sight := by
  intro handled
  have used := (absent_handled absent).mp handled
  rw [uses] at used
  exact used.1 ⟨rfl, rfl⟩

/-- A statement without a node. -/
theorem storing_unserved (statement : Statement) (onNull onError : Int) (after : Handler Unit) :
    (storing statement onNull onError after).Reaches (watching a) sight onNull
      (sight.seeing a sight.directory ⟨.getDbConnect, (none : Option Nat)⟩) :=
  ⟨[⟨.getDbConnect, (none : Option Nat)⟩], ⟨none, [], rfl, rfl, rfl⟩, rfl⟩

/-- The stores use a search that found no device. -/
theorem storeScene_unhandled (b : CLN) {first : Bytes} (second third timeStamp exeDate : Bytes)
    (clear : sight.missed = false)
    (unknown : sight.directory.knows .iot (.name b.talktoId) = true →
      atoi first ≠ 0 ∧ sight.directory.knows .iot (.key (atoi first)) = false) :
    ¬Handled a unit (storeScene b first second third timeStamp exeDate) sight := by
  cases found : sight.directory.registered.find .iot (.name b.talktoId) with
  | none => exact absent_unhandled found rfl
  | some device =>
    intro handled
    obtain ⟨named, missing⟩ := unknown (by rw [Directory.knows, found]; rfl)
    have absent : sight.directory.registered.find .iot (.key (atoi first)) = none := by
      rw [Directory.knows] at missing
      exact Option.not_isSome_iff_eq_none.mp (Bool.eq_false_iff.mp missing)
    have trigger := safely_bind.mp ((found_handled_clear clear found).mp handled)
    rw [storeTrigger, if_pos named] at trigger
    have deleted := (safely_bind.mp trigger).reaches (storing_unserved _ _ _ _)
    have still : (sight.seeing a sight.directory
        ⟨.getDbConnect, (none : Option Nat)⟩).directory.registered.find .iot (.key (atoi first)) =
          none := absent
    exact absent_unhandled still rfl deleted

/-- `SCE` for a device that is not registered uses the search that failed. -/
theorem talkScene_unhandled (b : CLN) (clear : sight.missed = false)
    (unknown : sight.directory.knowsScene b.talktoId b.data = false) :
    ¬Handled a flow (talkSceneDaily b) sight ∧ ¬Handled a flow (talkSceneScheduled b) sight := by
  have short : ¬(strSplit b.data 200 dash).length < 7 := fun few => by
    rw [knowsScene_iff.mpr (.inl few)] at unknown
    cases unknown
  have missing (target : sight.directory.knows .iot (.name b.talktoId) = true) :
      atoi ((strSplit b.data 200 dash).getD 0 []) ≠ 0 ∧
        sight.directory.knows .iot
          (.key (atoi ((strSplit b.data 200 dash).getD 0 []))) = false := by
    constructor
    · intro zero
      rw [knowsScene_iff.mpr (.inr ⟨target, .inl zero⟩)] at unknown
      cases unknown
    · apply Bool.eq_false_of_not_eq_true
      intro known
      rw [knowsScene_iff.mpr (.inr ⟨target, .inr known⟩)] at unknown
      cases unknown
  constructor
  · intro handled
    rw [talkSceneDaily, if_neg short] at handled
    exact storeScene_unhandled b _ _ _ _ clear missing (safely_bind.mp handled)
  · intro handled
    rw [talkSceneScheduled, if_neg short] at handled
    split at handled
    · exact storeScene_unhandled b _ _ _ _ clear missing (safely_bind.mp handled)
    · exact storeScene_unhandled b _ _ _ _ clear missing (safely_bind.mp handled)

/-- A friend can be stored. -/
theorem newUserFriend_reaches (userKeyId : Int) {name : Bytes} (friendId : Int)
    (target : sight.directory.knows .user (.name name) = true) :
    ∃ after, (newUserFriend userKeyId (return name) friendId).Reaches (watching a) sight 1 after ∧
      after.directory = sight.directory := by
  have stored (statement : Statement) (before : Sight) (same : before.directory = sight.directory) :
      ∃ after, (storing statement 0 0 (touching userKeyId 1)).Reaches (watching a) before 1 after ∧
        after.directory = sight.directory :=
    ⟨_, ⟨[⟨.getDbConnect, (some 0 : Option Nat)⟩, ⟨.realQuery 0 statement, QueryResult.done⟩,
      ⟨.getDbConnect, (none : Option Nat)⟩, ⟨.releaseNode 0, ()⟩],
      ⟨some 0, _, rfl, .done, _, rfl, none, _, rfl, (), _, rfl, rfl, rfl⟩, rfl⟩, same⟩
  unfold newUserFriend
  split
  · obtain ⟨node, found⟩ := Option.isSome_iff_exists.mp target
    obtain ⟨after, reached, same⟩ := stored (.insertFriend userKeyId node.userKeyId)
      (sight.seeing a sight.directory ⟨.findRegister .user (.name name), (some node : Option User)⟩)
      rfl
    refine ⟨after, (reaches_call _ _ _).mpr ⟨some node, _, ?_, reached⟩, same⟩
    exact Option.map_eq_some_iff.mpr ⟨_, after_find.mpr ⟨found.symm, rfl⟩, rfl⟩
  · exact stored _ _ rfl

/-- `ADS` with a user who is not registered uses the search that failed. -/
theorem talkAds_unhandled (clear : sight.missed = false)
    (unknown : (sight.directory.knows .user (.name a.talktoId) &&
      sight.directory.knows .user (.name a.userId)) = false) :
    ¬Handled a flow (talkAds a) sight := by
  cases found : sight.directory.registered.find .user (.name a.talktoId) with
  | none => exact absent_unhandled found rfl
  | some friend =>
    intro handled
    have target : sight.directory.knows .user (.name a.talktoId) = true := by
      rw [Directory.knows, found]
      rfl
    rw [target, Bool.true_and] at unknown
    have absent : sight.directory.registered.find .user (.name a.userId) = none :=
      Option.not_isSome_iff_eq_none.mp (Bool.eq_false_iff.mp unknown)
    have first := safely_bind.mp ((found_handled_clear clear found).mp handled)
    obtain ⟨after, reached, same⟩ := newUserFriend_reaches a.userKeyId friend.userKeyId target
    have second := first.reaches reached
    rw [if_neg (by decide)] at second
    rw [← same] at absent
    exact absent_unhandled absent rfl second

/-- Opcode 8 to a device that is neither online nor registered uses the search that failed. -/
theorem iotSend_unhandled (b : CLN) {target first second : Bytes} {rest : List Bytes}
    (fields : strSplit b.decrypted.data 200 underscore = target :: first :: second :: rest)
    (offline : sight.directory.online.find .iot (.key (atoi target)) = none)
    (unknown : sight.directory.knows .iot (.key (atoi target)) = false) :
    ¬Handled a unit (iotSend b) sight := by
  intro handled
  rw [iotSend, fields] at handled
  have absent : (sight.seeing a sight.directory ⟨.findOnline .iot (.key (atoi target)),
      (none : Option User)⟩).directory.registered.find .iot (.key (atoi target)) = none :=
    Option.not_isSome_iff_eq_none.mp (Bool.eq_false_iff.mp unknown)
  refine absent_unhandled absent rfl (handled.2 none _ ?_)
  refine Option.map_eq_some_iff.mpr ⟨sight.directory, ?_, rfl⟩
  exact if_pos offline.symm

/-- A deletion whose store fails, and a reply that does not say so. -/
theorem talkDscDaily_unhandled (asks : a.requestClass = .user .dsc)
    (long : ¬(strSplit a.data (strlen a.data) dash).length < 6)
    (device : directory.knows .iot
      (.key (atoi ((strSplit a.data (strlen a.data) dash).getD 0 []))) = true)
    (unknown : directory.knows .iot (.name a.talktoId) = false) :
    ¬Handled a (fun flow after => Handled a (fun _ final => final.Settled) (endCase a flow) after)
      (talkDscDaily a) (.start directory) := by
  intro handled
  obtain ⟨node, found⟩ := Option.isSome_iff_exists.mp device
  have absent : directory.registered.find .iot (.name a.talktoId) = none :=
    Option.not_isSome_iff_eq_none.mp (Bool.eq_false_iff.mp unknown)
  rw [talkDscDaily, if_neg long] at handled
  have replaced := safely_bind.mp ((found_handled_clear rfl found).mp handled)
  -- the scenes are deleted, the target is not found, and the reply is sent
  have deleted (iotid : Int) : (userDeleteSce iotid).Reaches (watching a) (.start directory) 1
      ⟨directory, false, false, true, false⟩ :=
    ⟨[⟨.getDbConnect, (some 0 : Option Nat)⟩,
      ⟨.realQuery 0 (.deleteScenes iotid), QueryResult.done⟩, ⟨.releaseNode 0, ()⟩],
      ⟨some 0, _, rfl, .done, _, rfl, (), _, rfl, rfl, rfl⟩, rfl⟩
  have missed (cmd : Bytes) (status devclass cmdGroup : Int) (timeStamp exeDate : Bytes) :
      (newUserSceneCmdStore a.talktoId a.userKeyId cmd status devclass cmdGroup timeStamp
        exeDate).Reaches (watching a) ⟨directory, false, false, true, false⟩ 0
        ⟨directory, true, true, true, false⟩ := by
    refine (reaches_call _ _ _).mpr ⟨none, _, ?_, (reaches_ret _ _).mpr ⟨rfl, rfl⟩⟩
    refine Option.map_eq_some_iff.mpr ⟨directory, after_find.mpr ⟨absent.symm, rfl⟩, ?_⟩
    simp [Sight.seeing, misses, acts, Op.reportsError, CLN.targets, asks]
  have sent : (sendReply a (reply "DSC")).Reaches (watching a) ⟨directory, true, true, true, false⟩
      .left ⟨directory, false, true, true, false⟩ :=
    ⟨[⟨.send a.socket (reply "DSC"), (706 : Int)⟩], ⟨(706 : Int), _, rfl, rfl, rfl⟩, rfl⟩
  have finished : (finish a).Reaches (watching a) ⟨directory, false, true, true, false⟩ ()
      ⟨directory, false, true, true, false⟩ :=
    ⟨[⟨.decrementTasks a.conn, ()⟩, ⟨.freeNode, ()⟩], ⟨(), _, rfl, (), _, rfl, rfl, rfl⟩, rfl⟩
  have failed (devclass : Int) : (replaceScene a (atoi ((strSplit a.data (strlen a.data)
      dash).getD 0 [])) devclass noTime everyDay).Reaches (watching a) (.start directory) true
      ⟨directory, true, true, true, false⟩ := by
    refine (reaches_bind _ _ _).mpr ⟨1, _, deleted _, ?_⟩
    rw [if_neg (by decide)]
    exact (reaches_bind _ _ _).mpr ⟨0, _, missed _ _ _ _ _ _, (reaches_ret _ _).mpr ⟨rfl, rfl⟩⟩
  have settled := ((replaced.reaches (failed _)).reaches sent).reaches finished rfl
  rcases settled with unchanged | reported
  · cases unchanged
  · cases reported

end

/-- A request that is handled finds what it needs. -/
theorem findable_of_handled
    (handled : Handled a (fun _ after => after.Settled) (talk config a) (.start directory)) :
    a.findable directory = true := by
  by_contra missing
  have unknown := Bool.eq_false_of_not_eq_true missing
  cases asks : a.requestClass with
  | test => simp [CLN.findable, asks] at unknown
  | device =>
    simp only [CLN.findable, asks] at unknown
    rw [talk_device asks] at handled
    have command := safely_bind.mp handled
    simp only [Bool.or_eq_false_iff, decide_eq_false_iff_not, not_not, Bool.not_eq_false']
      at unknown
    obtain ⟨⟨code, signed⟩, none⟩ := unknown
    rw [iotTalk_send code, CLN.whenSignedIn, if_pos signed] at command
    rcases fields : strSplit a.decrypted.data 200 underscore with
      _ | ⟨target, _ | ⟨first, _ | ⟨second, rest⟩⟩⟩
    all_goals rw [fields] at none
    · cases none
    · cases none
    · cases none
    · have both := Bool.or_eq_false_iff.mp none
      have offline : directory.online.find .iot (.key (atoi target)) = Option.none :=
        Option.not_isSome_iff_eq_none.mp (Bool.eq_false_iff.mp both.1)
      exact iotSend_unhandled a fields offline both.2 command
  | user opcode =>
    rw [talk_user asks] at handled
    have case := safely_bind.mp handled
    simp only [CLN.findable, asks] at unknown
    cases opcode with
    | sce =>
      rw [talkCase, talkSce] at case
      rcases shape : strSplit a.data 200 tilde with _ | ⟨data, _ | ⟨date, rest⟩⟩
      all_goals rw [shape] at unknown case
      · exact (talkScene_unhandled a rfl unknown).1 case
      · exact (talkScene_unhandled a rfl unknown).1 case
      · exact (talkScene_unhandled
          { a with data := strcpy a.data data, date := strcpy a.date date } rfl unknown).2 case
    | iot =>
      have absent : directory.registered.find .iot (.name a.talktoId) = none :=
        Option.not_isSome_iff_eq_none.mp (Bool.eq_false_iff.mp unknown)
      exact absent_unhandled absent rfl (safely_bind.mp case)
    | ads => exact talkAds_unhandled rfl unknown case
    | dsc =>
      rw [talkCase, talkDsc] at case
      rcases shape : strSplit a.data 200 tilde with _ | ⟨data, _ | ⟨schedule, rest⟩⟩
      all_goals rw [shape] at unknown case
      · simp only [Bool.or_eq_false_iff, decide_eq_false_iff_not, Bool.not_eq_false'] at unknown
        exact talkDscDaily_unhandled asks unknown.1.1 unknown.1.2 unknown.2 case
      · simp only [Bool.or_eq_false_iff, decide_eq_false_iff_not, Bool.not_eq_false'] at unknown
        exact talkDscDaily_unhandled asks unknown.1.1 unknown.1.2 unknown.2 case
      · cases unknown
    | _ => cases unknown

/-- An `IOT` packet for a device that is not registered. -/
def unknownDevice : Bytes := text "IOT" ++ zeros 60 ++ text "dev0000009" ++ zeros 648

end UubangIot
