import UubangIot.Server.Talk
import UubangIot.Verif.TextFacts

/-!
# Scene requests

A scene can be stored with its schedule in the `save` field or behind a `~` in its data. The two
branches of `SCE` differ in one count: the first writes the number of schedule fields where it does
not look for it, and so always stores the default schedule.
-/

namespace UubangIot

open Effect Effect.Prog

/-! ## What is asked of the scene table -/

/-- A statement on `userscenecmd` that changes it. -/
def Statement.changesScenes : Statement → Bool
  | .deleteScenes _ => true
  | .insertScene _ _ _ _ _ _ _ _ => true
  | _ => false

/-- The deletion or insertion of scenes among what happens. -/
def sceneStatement (happening : Happening) : Option Statement :=
  match happening.1 with
  | .realQuery _ statement => if statement.changesScenes then some statement else none
  | _ => none

/-- An operation that is no query. -/
def Op.unqueried : Op → Bool
  | .realQuery _ _ => false
  | _ => true

/-- Operations that are no queries ask nothing of the table. -/
theorem sceneStatement_unqueried (happening : Happening) (quiet : happening.1.unqueried = true) :
    sceneStatement happening = none := by
  obtain ⟨op, response⟩ := happening
  cases op <;> first | rfl | simp [Op.unqueried] at quiet

/-- The deletions and insertions of a request in an environment. -/
def scenesAsked (config : Config) (answer : List Happening → (op : Op) → Option op.Res)
    (a : CLN) : List Statement :=
  ((talk config a).play answer []).filterMap sceneStatement

/-- The environment has this registry. -/
def Consults (lists : Lists) (answer : List Happening → (op : Op) → Option op.Res) : Prop :=
  ∀ history kind lookup, answer history (.findRegister kind lookup) = some (lists.find kind lookup)

/-- The ids a scene names are registered. -/
def SceneRegistered (lists : Lists) (a : CLN) (first : Bytes) : Prop :=
  (lists.find .iot (.name a.talktoId)).isSome ∧
    (atoi first ≠ 0 → (lists.find .iot (.key (atoi first))).isSome)

/-- A request with texts in its data and its `save` field. -/
def CLN.withTexts (a : CLN) (data date : Bytes) : CLN :=
  { a with data := data ++ zeros (513 - data.length), date := date ++ zeros (100 - date.length) }

variable {config : Config} {a : CLN}
  {answer : List Happening → (op : Op) → Option op.Res} {scene schedule save : Bytes}

/-- The end of a task asks nothing of the table. -/
theorem finish_unqueried (a : CLN) : (finish a).Only (Op.unqueried · = true) :=
  ⟨rfl, fun _ => ⟨rfl, fun _ => trivial⟩⟩

/-- What follows without queries asks nothing of the table. -/
theorem scenes_bind {α β : Type} {handler : Handler α} {next : α → Handler β}
    {history : List Happening} (quiet : ∀ value, (next value).Only (Op.unqueried · = true)) :
    ((handler >>= next).play answer history).filterMap sceneStatement =
      (handler.play answer history).filterMap sceneStatement :=
  play_bind_unseen quiet sceneStatement_unqueried

/-- A scene request asks what its case asks. -/
theorem scenesAsked_eq (asks : a.requestClass = .user .sce) :
    scenesAsked config answer a = ((talkSce a).play answer []).filterMap sceneStatement := by
  rw [scenesAsked, talk, asks]
  refine scenes_bind fun flow => ?_
  cases flow with
  | returned => trivial
  | left => exact finish_unqueried a

/-- The part of a request that a scene is stored from. -/
def CLN.sceneSource (a : CLN) : CLN :=
  { CLN.zero with talktoId := a.talktoId, userKeyId := a.userKeyId, data := cstr a.data }

/-- A command is stored as its text. -/
theorem newUserSceneCmdStore_cstr (talktoId : Bytes) (userKeyId : Int) (cmd : Bytes)
    (status devclass cmdGroup : Int) (timeStamp exeDate : Bytes) :
    newUserSceneCmdStore talktoId userKeyId (cstr cmd) status devclass cmdGroup timeStamp exeDate =
      newUserSceneCmdStore talktoId userKeyId cmd status devclass cmdGroup timeStamp exeDate := by
  unfold newUserSceneCmdStore
  rw [cstr_cstr]

/-- Nothing else of a request is stored. -/
theorem storeScene_source (a : CLN) (first second third timeStamp exeDate : Bytes) :
    storeScene a first second third timeStamp exeDate =
      storeScene a.sceneSource first second third timeStamp exeDate := by
  refine congrArg (Prog.call _) (funext fun found => ?_)
  cases found with
  | none => rfl
  | some device =>
    have stored := newUserSceneCmdStore_cstr a.talktoId a.userKeyId a.data 0 99 0 timeStamp exeDate
    dsimp only [CLN.sceneSource, Prog.bind]
    rw [stored]
    rfl

/-- What is stored of a scene depends on the target, the key and the text of its data. -/
theorem storeScene_congr {b : CLN} {first second third timeStamp exeDate : Bytes}
    (target : a.talktoId = b.talktoId) (key : a.userKeyId = b.userKeyId)
    (data : cstr a.data = cstr b.data) :
    storeScene a first second third timeStamp exeDate =
      storeScene b first second third timeStamp exeDate := by
  have same : a.sceneSource = b.sceneSource := by
    rw [CLN.sceneSource, CLN.sceneSource, target, key, data]
  rw [storeScene_source a, same, ← storeScene_source]

/-! ## The two formats -/

/-- A text before zeros is cut into its own fields. -/
theorem strSplit_padded {delim : UInt8} (nonzero : delim ≠ 0) {text : Bytes} {size len : Nat}
    (fits : text.length ≤ len) :
    strSplit (text ++ zeros size) len delim = strSplit text text.length delim := by
  have plain : delim ∉ (zeros size).take (len - text.length) := by
    intro member
    exact nonzero (List.eq_of_mem_replicate (List.mem_of_mem_take member))
  rw [strSplit, strSplit, List.take_append, List.take_of_length_le fits, List.take_length]
  exact splitLoop_append_plain [] text plain

/-- The plain format stores the default schedule. -/
theorem scenesAsked_plain (asks : a.requestClass = .user .sce) (bare : tilde ∉ scene)
    (enough : 7 ≤ (strSplit scene scene.length dash).length) (fits : scene.length ≤ 200) :
    scenesAsked config answer (a.withTexts scene schedule) =
      ((storeScene (a.withTexts scene schedule)
        ((strSplit scene scene.length dash).getD 0 [])
        ((strSplit scene scene.length dash).getD 1 [])
        ((strSplit scene scene.length dash).getD 2 []) noTime everyDay).play answer []).filterMap
          sceneStatement := by
  have whole : strSplit (a.withTexts scene schedule).data 200 tilde = [] := by
    rw [CLN.withTexts, strSplit_padded (by decide) fits, strSplit, List.take_length]
    have cut := splitLoop_append_plain [] [] bare
    rw [List.nil_append] at cut
    rw [cut]
    rfl
  have fields : strSplit (a.withTexts scene schedule).data 200 dash =
      strSplit scene scene.length dash := strSplit_padded (by decide) fits
  rw [scenesAsked_eq (show (a.withTexts scene schedule).requestClass = .user .sce from asks),
    talkSce, whole, talkSceneDaily]
  dsimp only
  rw [fields, if_neg (by omega)]
  refine scenes_bind fun _ => ?_
  split
  · exact ⟨rfl, fun response => response.elim⟩
  · trivial

/-- The schedule a scene is stored with behind `~`. -/
def scheduleOf (schedule : Bytes) : Bytes × Bytes :=
  match strSplit schedule schedule.length underscore with
  | timeStamp :: exeDate :: _ => (timeStamp, exeDate)
  | _ => (noTime, everyDay)

/-- The format with `~` stores the schedule it gives. -/
theorem scenesAsked_scheduled (asks : a.requestClass = .user .sce) (bare : tilde ∉ scene)
    (plain : 0 ∉ scene) (bareSchedule : tilde ∉ schedule) (plainSchedule : 0 ∉ schedule)
    (enough : 7 ≤ (strSplit scene scene.length dash).length)
    (fits : scene.length + schedule.length + 2 ≤ 200) :
    scenesAsked config answer (a.withTexts (scene ++ tilde :: (schedule ++ [tilde])) save) =
      ((storeScene (a.withTexts scene schedule)
        ((strSplit scene scene.length dash).getD 0 [])
        ((strSplit scene scene.length dash).getD 1 [])
        ((strSplit scene scene.length dash).getD 2 []) (scheduleOf schedule).1
        (scheduleOf schedule).2).play answer []).filterMap sceneStatement := by
  let request := a.withTexts (scene ++ tilde :: (schedule ++ [tilde])) save
  have parts : strSplit request.data 200 tilde = [scene, schedule] := by
    have length : (scene ++ tilde :: (schedule ++ [tilde])).length ≤ 200 := by
      simp only [List.length_append, List.length_cons, List.length_nil]
      omega
    change strSplit (_ ++ zeros _) 200 tilde = _
    rw [strSplit_padded (by decide) length, strSplit, List.take_length, splitLoop_cut bare,
      splitLoop_cut bareSchedule]
    rfl
  have data : strcpy request.data scene = scene ++ 0 :: request.data.drop (scene.length + 1) := by
    rw [strcpy, strlen, cstr_of_plain plain]
  have date : strcpy request.date schedule =
      schedule ++ 0 :: request.date.drop (schedule.length + 1) := by
    rw [strcpy, strlen, cstr_of_plain plainSchedule]
  have cut : ∃ later, strSplit (strcpy request.data scene) 200 dash =
      strSplit scene scene.length dash ++ later := by
    rw [data, strSplit, strSplit, List.take_append, List.take_of_length_le (by omega),
      List.take_length]
    exact splitLoop_append [] scene _
  obtain ⟨later, fields⟩ := cut
  have timed : strSplit (strcpy request.date schedule) (strlen (strcpy request.date schedule))
      underscore = strSplit schedule schedule.length underscore := by
    have length : strlen (strcpy request.date schedule) = schedule.length := by
      rw [strlen, cstr_strcpy, cstr_of_plain plainSchedule]
    rw [length, date, strSplit, strSplit, List.take_left', List.take_length]
    rfl
  have first (i : Nat) (small : i < 3) : (strSplit scene scene.length dash ++ later).getD i [] =
      (strSplit scene scene.length dash).getD i [] := by
    rw [List.getD_eq_getElem?_getD, List.getD_eq_getElem?_getD, List.getElem?_append_left (by omega)]
  have same : cstr (strcpy request.data scene) = cstr (a.withTexts scene schedule).data := by
    rw [cstr_strcpy, cstr_of_plain plain, CLN.withTexts, cstr_append_zeros plain]
  have stored (first second third timeStamp exeDate : Bytes) :
      storeScene { request with
        data := strcpy request.data scene, date := strcpy request.date schedule } first second third
          timeStamp exeDate =
        storeScene (a.withTexts scene schedule) first second third timeStamp exeDate :=
    storeScene_congr rfl rfl same
  rw [scenesAsked_eq (show request.requestClass = .user .sce from asks), talkSce, parts]
  dsimp only
  rw [source_print, source_print, talkSceneScheduled]
  dsimp only
  rw [fields, if_neg (by rw [List.length_append]; omega), timed, first 0 (by omega),
    first 1 (by omega), first 2 (by omega)]
  split
  · rename_i timeStamp exeDate others given
    have told : scheduleOf schedule = (timeStamp, exeDate) := by rw [scheduleOf, given]
    rw [stored, told]
    exact scenes_bind fun _ => only_ret _
  · rename_i untold
    have told : scheduleOf schedule = (noTime, everyDay) := by
      rw [scheduleOf]
      split
      · rename_i timeStamp exeDate others given
        exact absurd given (untold timeStamp exeDate others)
      · rfl
    rw [stored, told]
    exact scenes_bind fun _ => only_ret _

/-! ## An environment that refuses nothing -/

/-- Every lookup is answered by the registry and every query succeeds. -/
def granting (lists : Lists) (_ : List Happening) : (op : Op) → Option op.Res
  | .findRegister kind lookup => some (lists.find kind lookup)
  | .getDbConnect => some (some 0)
  | .realQuery _ _ => some .done
  | .releaseNode _ => some ()
  | _ => none

variable {lists : Lists} {node : User} {history : List Happening}

/-- A statement that succeeds is played in three operations, and the rest goes on with 1. -/
theorem play_storing {α : Type} {statement : Statement} {onNull onError : Int}
    {next : Int → Handler α} :
    (storing statement onNull onError (return ()) >>= next).play (granting lists) history =
      (next 1).play (granting lists) (history ++ [⟨.getDbConnect, some 0⟩] ++
        [⟨.realQuery 0 statement, .done⟩] ++ [⟨.releaseNode 0, ()⟩]) := rfl

/-- A scene that is stored for a registered target. -/
theorem play_newUserSceneCmdStore {α : Type} {talktoId cmd timeStamp exeDate : Bytes}
    {userKeyId status devclass cmdGroup : Int} (history : List Happening)
    (next : Int → Handler α) (found : lists.find .iot (.name talktoId) = some node) :
    ∃ later, ((newUserSceneCmdStore talktoId userKeyId cmd status devclass cmdGroup timeStamp
        exeDate >>= next).play (granting lists) history) =
      (next 1).play (granting lists) later ∧
      later.filterMap sceneStatement = history.filterMap sceneStatement ++
        [.insertScene node.userKeyId devclass (cstr cmd) status (cstr timeStamp) (cstr exeDate)
          cmdGroup userKeyId] := by
  refine ⟨history ++ [⟨.findRegister .iot (.name talktoId), some node⟩] ++
    [⟨.getDbConnect, some 0⟩] ++ [⟨.realQuery 0 (.insertScene node.userKeyId devclass (cstr cmd)
      status (cstr timeStamp) (cstr exeDate) cmdGroup userKeyId), .done⟩] ++
    [⟨.releaseNode 0, ()⟩], ?_, ?_⟩
  · unfold newUserSceneCmdStore
    rw [bind_bind, perform_bind, Prog.play]
    dsimp only [granting]
    rw [found]
    exact play_storing
  · simp only [List.filterMap_append, List.append_assoc]
    rfl

/-- With its ids registered, a scene is stored last with its schedule. -/
theorem play_storeScene {first : Bytes} (second third timeStamp exeDate : Bytes)
    (target : lists.find .iot (.name a.talktoId) = some node)
    (starter : lists.find .iot (.key (atoi first)) = some node)
    (named : lists.find .iot (.name node.userId) = some node) :
    ∃ earlier, ((storeScene a first second third timeStamp exeDate).play (granting lists)
        []).filterMap sceneStatement = earlier ++
      [.insertScene node.userKeyId 99 (cstr a.data) 0 (cstr timeStamp) (cstr exeDate) 0
        a.userKeyId] := by
  have last (history : List Happening) : ((newUserSceneCmdStore a.talktoId a.userKeyId a.data 0 99 0
      timeStamp exeDate >>= fun _ => pure ()).play (granting lists) history).filterMap
        sceneStatement = history.filterMap sceneStatement ++
          [.insertScene node.userKeyId 99 (cstr a.data) 0 (cstr timeStamp) (cstr exeDate) 0
            a.userKeyId] := by
    obtain ⟨later, played, seen⟩ := play_newUserSceneCmdStore history (fun _ => pure ()) target
    rw [played]
    exact seen
  rw [storeScene, perform_bind, Prog.play]
  dsimp only [granting]
  rw [target]
  dsimp only
  rw [storeTrigger]
  split
  · rw [userDeleteSce, bind_bind, play_storing, bind_bind, perform_bind, Prog.play]
    dsimp only [granting]
    rw [starter]
    dsimp only
    rw [bind_bind]
    obtain ⟨later, played, -⟩ := play_newUserSceneCmdStore _ _ named
    rw [played]
    exact ⟨_, last later⟩
  · exact ⟨_, last _⟩

/-- A registry with one device. -/
def Lists.ofDevice (node : User) : Lists := ⟨⟨0, []⟩, ⟨1, [node]⟩⟩

/-- The device of a name and a key. -/
def deviceOf (userId : Bytes) (userKeyId : Int) : User :=
  ⟨0, cstr userId, userKeyId, [], [], 0, true⟩

/-- It is found by its name. -/
theorem find_deviceOf_name (userId : Bytes) (userKeyId : Int) {name : Bytes}
    (same : cstr name = cstr userId) :
    (Lists.ofDevice (deviceOf userId userKeyId)).find .iot (.name name) =
      some (deviceOf userId userKeyId) := by
  refine List.find?_cons_of_pos ?_
  simp [Lookup.matches, streq, deviceOf, same]

/-- It is found by its key. -/
theorem find_deviceOf_key (userId : Bytes) (userKeyId : Int) :
    (Lists.ofDevice (deviceOf userId userKeyId)).find .iot (.key userKeyId) =
      some (deviceOf userId userKeyId) := by
  refine List.find?_cons_of_pos ?_
  simp [Lookup.matches, deviceOf]

/-- The fields of a schedule are texts. -/
theorem scheduleOf_plain (plain : 0 ∉ schedule) :
    cstr (scheduleOf schedule).1 = (scheduleOf schedule).1 ∧
      cstr (scheduleOf schedule).2 = (scheduleOf schedule).2 := by
  have texts : ∀ field ∈ strSplit schedule schedule.length underscore, cstr field = field := by
    intro field member
    refine cstr_of_plain fun zero => ?_
    rw [strSplit, List.take_length] at member
    rcases splitLoop_subset field member 0 zero with before | within
    · exact List.not_mem_nil before
    · exact plain within
  rw [scheduleOf]
  split
  · rename_i timeStamp exeDate others given
    rw [given] at texts
    exact ⟨texts timeStamp (by simp), texts exeDate (by simp)⟩
  · exact ⟨by decide, by decide⟩

/-- When a schedule is the default one. -/
theorem scheduleOf_default_iff :
    scheduleOf schedule = (noTime, everyDay) ↔
      ((strSplit schedule schedule.length underscore).length < 2 ∨
        (strSplit schedule schedule.length underscore).take 2 = [noTime, everyDay]) := by
  rw [scheduleOf]
  split
  · rename_i timeStamp exeDate others given
    rw [given]
    simp
  · rename_i untold
    refine ⟨fun _ => .inl ?_, fun _ => rfl⟩
    by_contra long
    cases given : strSplit schedule schedule.length underscore with
    | nil => simp [given] at long
    | cons timeStamp fields =>
      cases fields with
      | nil => simp [given] at long
      | cons exeDate others => exact untold timeStamp exeDate others given

/-- The two formats ask the same of the scene table, whatever the registry and the database answer,
exactly when the schedule has fewer than two fields or is the default one. -/
theorem scene_formats_agree_iff (config : Config) {a : CLN} (asks : a.requestClass = .user .sce)
    {scene schedule : Bytes} (bare : tilde ∉ scene) (plain : 0 ∉ scene)
    (bareSchedule : tilde ∉ schedule) (plainSchedule : 0 ∉ schedule)
    (enough : 7 ≤ (strSplit scene scene.length dash).length)
    (fits : scene.length + schedule.length + 2 ≤ 200) (save : Bytes) :
    (∀ lists answer, SceneRegistered lists a ((strSplit scene scene.length dash).getD 0 []) →
      Consults lists answer →
      scenesAsked config answer (a.withTexts scene schedule) =
        scenesAsked config answer (a.withTexts (scene ++ tilde :: (schedule ++ [tilde])) save)) ↔
      ((strSplit schedule schedule.length underscore).length < 2 ∨
        (strSplit schedule schedule.length underscore).take 2 = [noTime, everyDay]) := by
  rw [← scheduleOf_default_iff]
  constructor
  · intro agree
    let starter := (strSplit scene scene.length dash).getD 0 []
    let node := deviceOf a.talktoId (atoi starter)
    have target := find_deviceOf_name a.talktoId (atoi starter) (rfl : cstr a.talktoId = _)
    have started := find_deviceOf_key a.talktoId (atoi starter)
    have named := find_deviceOf_name a.talktoId (atoi starter) (cstr_cstr a.talktoId)
    have registered : SceneRegistered (.ofDevice node) a starter :=
      ⟨by rw [target]; rfl, fun _ => by rw [started]; rfl⟩
    have same := agree (.ofDevice node) (granting (.ofDevice node)) registered fun _ _ _ => rfl
    rw [scenesAsked_plain asks bare enough (by omega),
      scenesAsked_scheduled asks bare plain bareSchedule plainSchedule enough fits] at same
    obtain ⟨before, daily⟩ := play_storeScene (a := a.withTexts scene schedule)
      ((strSplit scene scene.length dash).getD 1 []) ((strSplit scene scene.length dash).getD 2 [])
      noTime everyDay target started named
    obtain ⟨earlier, timed⟩ := play_storeScene (a := a.withTexts scene schedule)
      ((strSplit scene scene.length dash).getD 1 []) ((strSplit scene scene.length dash).getD 2 [])
      (scheduleOf schedule).1 (scheduleOf schedule).2 target started named
    rw [daily, timed] at same
    have last := List.singleton_inj.mp (List.append_inj' same rfl).2
    simp only [Statement.insertScene.injEq] at last
    obtain ⟨-, -, -, -, time, day, -, -⟩ := last
    obtain ⟨timeText, dayText⟩ := scheduleOf_plain plainSchedule
    rw [timeText] at time
    rw [dayText] at day
    exact (Prod.ext time day).symm
  · intro usual lists answer _ _
    rw [scenesAsked_plain asks bare enough (by omega),
      scenesAsked_scheduled asks bare plain bareSchedule plainSchedule enough fits, usual]

/-- A scene of seven fields. -/
def sampleScene : Bytes := text "7-1-1-0-0-0-0-"

/-- A request to store a scene. -/
def sceneRequest : CLN :=
  { CLN.zero with checkcode := strcpy (zeros 18) (text "SCE"), talktoId := text "dev0000001" ++ [0] }

/-- A registry with the device of the scene. -/
def sceneLists : Lists := .ofDevice (deviceOf (text "dev0000001") 7)

/-- A schedule that is the default one is stored alike. -/
theorem scene_formats_agree_iff_default :
    scenesAsked ⟨id, []⟩ (granting sceneLists)
        (sceneRequest.withTexts sampleScene (text "00:00:00_1111111_")) =
      scenesAsked ⟨id, []⟩ (granting sceneLists)
        (sceneRequest.withTexts (sampleScene ++ tilde :: (text "00:00:00_1111111_" ++ [tilde])) []) :=
  (scene_formats_agree_iff ⟨id, []⟩ (a := sceneRequest) (by decide) (by decide) (by decide)
    (by decide) (by decide) (by decide) (by decide) []).mpr (.inr (by decide)) sceneLists
      (granting sceneLists) ⟨by decide, fun _ => by decide⟩ fun _ _ _ => rfl

/-- Mondays at eight are stored as every day at midnight without the `~`. -/
theorem plain_scene_loses_schedule :
    SceneRegistered sceneLists sceneRequest (text "7") ∧ Consults sceneLists (granting sceneLists) ∧
      strSplit sampleScene sampleScene.length dash = ["7", "1", "1", "0", "0", "0", "0"].map text ∧
      strSplit (text "08:00:00_1000000_") 17 underscore = ["08:00:00", "1000000"].map text ∧
      scenesAsked ⟨id, []⟩ (granting sceneLists)
          (sceneRequest.withTexts sampleScene (text "08:00:00_1000000_")) ≠
        scenesAsked ⟨id, []⟩ (granting sceneLists)
          (sceneRequest.withTexts (sampleScene ++ tilde :: (text "08:00:00_1000000_" ++ [tilde]))
            []) := by
  have told : ∀ history kind lookup, granting sceneLists history (.findRegister kind lookup) =
      some (sceneLists.find kind lookup) := fun _ _ _ => rfl
  exact ⟨⟨by decide, fun _ => by decide⟩, told, by decide, by decide, by decide +kernel⟩

end UubangIot
