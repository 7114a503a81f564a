import UubangIot.Verif.Roles
import UubangIot.Verif.SceneRequests

/-!
# Replies to the replacement of a scene

`DSC` deletes the scenes of a device, stores one and says whether it did. The deletion stays when
the store fails, and one of the two formats says the opposite.
-/

namespace UubangIot

open Effect Effect.Prog

/-! ## The scene table -/

/-- A row of `userscenecmd`. -/
structure Scene where
  id : Nat
  iotid : Int
  devClass : Int
  cmdContent : Bytes
  status : Int
  cmdTime : Bytes
  exeDate : Bytes
  cmdGroup : Int
  fromUserId : Int
  deriving DecidableEq, Repr

/-- The table, which numbers its rows itself. -/
structure Scenes where
  rows : List Scene
  next : Nat
  /-- A new number is not in use. -/
  fresh : ∀ row ∈ rows, row.id < next

/-- `DELETE FROM userscenecmd`. -/
def Scenes.delete (table : Scenes) (iotid : Int) : Scenes where
  rows := table.rows.filter fun row => decide (row.iotid ≠ iotid)
  next := table.next
  fresh := fun row member => table.fresh row (List.mem_filter.mp member).1

/-- `INSERT INTO userscenecmd`, of a row for its number. -/
def Scenes.insert (table : Scenes) (row : Nat → Scene) (numbered : ∀ id, (row id).id = id) :
    Scenes where
  rows := table.rows ++ [row table.next]
  next := table.next + 1
  fresh := by
    intro other member
    rcases List.mem_append.mp member with old | new
    · exact Nat.lt_succ_of_lt (table.fresh other old)
    · rw [List.mem_singleton.mp new, numbered]
      exact Nat.lt_succ_self _

/-- A statement that was done. -/
def Scenes.run (table : Scenes) : Statement → Scenes
  | .deleteScenes iotid => table.delete iotid
  | .insertScene iotid devClass cmdContent status cmdTime exeDate cmdGroup fromUserId =>
    table.insert (fun id => ⟨id, iotid, devClass, cmdContent, status, cmdTime, exeDate, cmdGroup,
      fromUserId⟩) fun _ => rfl
  | _ => table

/-- A deletion or insertion of scenes that was done. -/
def sceneDone (happening : Happening) : Option Statement :=
  match happening with
  | ⟨.realQuery _ statement, .done⟩ => if statement.changesScenes then some statement else none
  | _ => none

/-- The table after what has happened. -/
def Scenes.after (table : Scenes) (trace : List Happening) : Scenes :=
  (trace.filterMap sceneDone).foldl Scenes.run table

/-! ## What a request asks for -/

/-- The format with `~`. -/
def CLN.Timed (a : CLN) : Prop := 2 ≤ (strSplit a.data 200 tilde).length

instance (a : CLN) : Decidable a.Timed := inferInstanceAs (Decidable (2 ≤ _))

/-- The data that is stored. -/
def CLN.sceneData (a : CLN) : Bytes :=
  if a.Timed then strcpy a.data ((strSplit a.data 200 tilde).getD 0 []) else a.data

/-- Its fields. -/
def CLN.sceneFields (a : CLN) : List Bytes := strSplit a.sceneData (strlen a.sceneData) dash

/-- The device whose scenes go. -/
def CLN.sceneDevice (a : CLN) : Int := atoi (a.sceneFields.getD 0 [])

/-- The fields of the schedule. -/
def CLN.sceneTimes (a : CLN) : List Bytes :=
  if a.Timed then
    let schedule := (strSplit a.data 200 tilde).getD 1 []
    strSplit schedule (strlen schedule) underscore
  else [noTime, everyDay]

/-- The row for a target. -/
def CLN.sceneRow (a : CLN) (target : User) (id : Nat) : Scene where
  id := id
  iotid := target.userKeyId
  devClass := atoi (a.sceneFields.getD 1 [])
  cmdContent := cstr a.sceneData
  status := 0
  cmdTime := cstr (a.sceneTimes.getD 0 [])
  exeDate := cstr (a.sceneTimes.getD 1 [])
  cmdGroup := 0
  fromUserId := a.userKeyId

/-! ## Outcomes -/

/-- The registry, and what the database and the socket answer. Of a database operation it is the
node and the result of the query, or no node. -/
structure Outcomes where
  lists : Lists
  deletion : Option (Nat × QueryResult)
  insertion : Option (Nat × QueryResult)
  sent : Int

/-- A query has been made. -/
def asked (history : List Happening) : Bool := history.any fun happening => !happening.1.unqueried

/-- The answers. The first node asked for is that of the deletion. -/
def Outcomes.answer (outcomes : Outcomes) (history : List Happening) : (op : Op) → Option op.Res
  | .findRegister kind lookup => some (outcomes.lists.find kind lookup)
  | .getDbConnect =>
    some ((if asked history then outcomes.insertion else outcomes.deletion).map (·.1))
  | .realQuery _ (.deleteScenes _) => outcomes.deletion.map (·.2)
  | .realQuery _ (.insertScene _ _ _ _ _ _ _ _) => outcomes.insertion.map (·.2)
  | .releaseNode _ => some ()
  | .send _ _ => some outcomes.sent
  | .closeSocket _ => some ()
  | .decrementTasks _ => some ()
  | .freeNode => some ()
  | _ => none

/-- What happens of a request. -/
def Outcomes.happens (outcomes : Outcomes) (config : Config) (a : CLN) : List Happening :=
  (talk config a).play outcomes.answer []

/-- Whether a statement is done. -/
def succeeds (outcome : Option (Nat × QueryResult)) : Bool :=
  outcome.any fun answered => decide (answered.2 = .done)

/-- The target is registered and the insertion done. -/
def Outcomes.stores (outcomes : Outcomes) (a : CLN) : Bool :=
  (outcomes.lists.find .iot (.name a.talktoId)).isSome && succeeds outcomes.insertion

/-- The table has the rows of other devices and the new row. -/
def Replaced (lists : Lists) (a : CLN) (before after : Scenes) : Prop :=
  ∃ target, lists.find .iot (.name a.talktoId) = some target ∧
    after.rows = (before.delete a.sceneDevice).rows ++ [a.sceneRow target before.next]

/-- The request is answered once, with `DSC` only if the scene was replaced and with `DSc` only if
the table is as it was. -/
def HonestReply (lists : Lists) (a : CLN) (before : Scenes) (trace : List Happening) : Prop :=
  ∃ code, trace.filterMap replyCode = [code] ∧
    (code = text "DSC" → Replaced lists a before (before.after trace)) ∧
    (code = text "DSc" → (before.after trace).rows = before.rows)

/-! ## What happens of a request -/

variable {config : Config} {a : CLN} {outcomes : Outcomes} {history : List Happening}
  {γ : Type} {seen : Happening → Option γ}

/-- The end of a task does not change the table. -/
theorem sceneDone_ending (happening : Happening) (ends : happening.1.ending = true) :
    sceneDone happening = none := by
  obtain ⟨op, response⟩ := happening
  cases op <;> first | rfl | simp [Op.ending] at ends

/-- What ends a task after a program is not seen. -/
theorem play_ending {α β : Type} {handler : Handler α} {next : α → Handler β}
    (ends : ∀ value, (next value).Only (Op.ending · = true))
    (unseen : ∀ happening : Happening, happening.1.ending = true → seen happening = none) :
    ((handler >>= next).play outcomes.answer history).filterMap seen =
      (handler.play outcomes.answer history).filterMap seen :=
  play_bind_unseen ends unseen

/-- A request does what its case does. -/
theorem happens_dsc (asks : a.requestClass = .user .dsc)
    (unseen : ∀ happening : Happening, happening.1.ending = true → seen happening = none) :
    (outcomes.happens config a).filterMap seen =
      ((talkDsc a).play outcomes.answer []).filterMap seen := by
  rw [Outcomes.happens, talk, asks]
  refine play_ending (fun flow => ?_) unseen
  cases flow with
  | returned => trivial
  | left => exact finish_ending a

/-- A reply, sent or not, is the last that is seen. -/
theorem play_sendReply (frame : Frame)
    (unseen : ∀ happening : Happening, happening.1.ending = true → seen happening = none) :
    ((sendReply a frame).play outcomes.answer history).filterMap seen =
      (history ++ [(⟨.send a.socket frame, outcomes.sent⟩ : Happening)]).filterMap seen := by
  rw [sendReply]
  refine play_ending (fun len => ?_) unseen
  split
  · exact ⟨rfl, fun _ => (finish_ending a).bind fun _ => only_ret _⟩
  · trivial

/-- The operations of a statement. -/
def queried (outcome : Option (Nat × QueryResult)) (statement : Statement) : List Happening :=
  match outcome with
  | none => [⟨.getDbConnect, none⟩]
  | some (node, result) =>
    [⟨.getDbConnect, some node⟩, ⟨.realQuery node statement, result⟩, ⟨.releaseNode node, ()⟩]

/-- A statement is done or not by its outcome. -/
theorem play_stored {α : Type} {statement : Statement} {outcome : Option (Nat × QueryResult)}
    {next : Int → Handler α}
    (connects : outcomes.answer history .getDbConnect = some (outcome.map (·.1)))
    (answers : ∀ history node,
      outcomes.answer history (.realQuery node statement) = outcome.map (·.2)) :
    (storing statement 0 0 (return ()) >>= next).play outcomes.answer history =
      (next (if succeeds outcome then 1 else 0)).play outcomes.answer
        (history ++ queried outcome statement) := by
  rw [storing, bind_bind, perform_bind, Prog.play, connects]
  cases outcome with
  | none => rfl
  | some answered =>
    obtain ⟨node, result⟩ := answered
    dsimp only [Option.map_some]
    rw [bind_bind, perform_bind, Prog.play, answers]
    cases result with
    | done =>
      change (Prog.call (.releaseNode node) fun _ => next 1).play outcomes.answer _ = _
      simp [Prog.play, Outcomes.answer, queried, succeeds]
    | failed duplicate =>
      change (Prog.call (.releaseNode node) fun _ => next 0).play outcomes.answer _ = _
      simp [Prog.play, Outcomes.answer, queried, succeeds]

/-- What a statement that changes the table does to it. -/
theorem sceneDone_queried {statement : Statement} (changes : statement.changesScenes = true)
    (outcome : Option (Nat × QueryResult)) :
    (queried outcome statement).filterMap sceneDone =
      if succeeds outcome then [statement] else [] := by
  cases outcome with
  | none => rfl
  | some answered =>
    obtain ⟨node, result⟩ := answered
    cases result with
    | done =>
      have last : sceneDone ⟨.realQuery node statement, .done⟩ = some statement := if_pos changes
      rw [queried, List.filterMap_cons_none rfl, List.filterMap_cons_some last]
      rfl
    | failed duplicate => rfl

/-- A statement is no reply. -/
theorem replyCode_queried (outcome : Option (Nat × QueryResult)) (statement : Statement) :
    (queried outcome statement).filterMap replyCode = [] := by
  cases outcome with
  | none => rfl
  | some answered => rfl

/-- After a statement that was done a query has been made. -/
theorem asked_queried {outcome : Option (Nat × QueryResult)} {statement : Statement}
    (done : succeeds outcome = true) : asked (queried outcome statement) = true := by
  cases outcome with
  | none => simp [succeeds] at done
  | some answered => rfl

/-- What is done to the table on the way of a replacement. -/
def Outcomes.replacing (outcomes : Outcomes) (a : CLN) (iotid : Int) (row : User → Statement) :
    List Statement :=
  if succeeds outcomes.deletion then
    .deleteScenes iotid ::
      if succeeds outcomes.insertion then
        ((outcomes.lists.find .iot (.name a.talktoId)).map row).toList
      else []
  else []

/-- The two operations of a replacement. -/
theorem play_replaceScene {α : Type} (outcomes : Outcomes) (a : CLN) (iotid devclass : Int)
    (timeStamp exeDate : Bytes) (next : Bool → Handler α) (unasked : asked history = false) :
    ∃ later, ((replaceScene a iotid devclass timeStamp exeDate >>= next).play outcomes.answer
        history) =
      (next !(succeeds outcomes.deletion && outcomes.stores a)).play outcomes.answer later ∧
      later.filterMap replyCode = history.filterMap replyCode ∧
      later.filterMap sceneDone = history.filterMap sceneDone ++
        outcomes.replacing a iotid fun target => .insertScene target.userKeyId
          devclass (cstr a.data) 0 (cstr timeStamp) (cstr exeDate) 0 a.userKeyId := by
  have first : outcomes.answer history .getDbConnect = some (outcomes.deletion.map (·.1)) := by
    rw [Outcomes.answer, unasked]
    rfl
  rw [replaceScene, userDeleteSce, bind_bind, play_stored first fun _ _ => rfl]
  cases deleted : succeeds outcomes.deletion with
  | false =>
    refine ⟨history ++ queried outcomes.deletion (.deleteScenes iotid), rfl, ?_, ?_⟩
    · rw [List.filterMap_append, replyCode_queried, List.append_nil]
    · rw [List.filterMap_append, sceneDone_queried rfl, deleted, Outcomes.replacing, deleted]
      rfl
  | true =>
    have gone : (queried outcomes.deletion (.deleteScenes iotid)).filterMap sceneDone =
        [.deleteScenes iotid] := by
      rw [sceneDone_queried rfl, deleted]
      rfl
    rw [if_pos rfl, if_neg (by decide), newUserSceneCmdStore, bind_bind, bind_bind, perform_bind,
      Prog.play]
    dsimp only [Outcomes.answer]
    cases found : outcomes.lists.find .iot (.name a.talktoId) with
    | none =>
      refine ⟨_, by rw [Outcomes.stores, found]; rfl, ?_, ?_⟩
      · rw [List.filterMap_append, List.filterMap_append, replyCode_queried, List.append_nil]
        exact List.append_nil _
      · rw [List.filterMap_append, List.filterMap_append, gone, Outcomes.replacing, deleted, found]
        simp only [Option.map_none, Option.toList_none, ite_self, if_true]
        exact List.append_nil _
    | some target =>
      let lookup : Happening := ⟨.findRegister .iot (.name a.talktoId), some target⟩
      let row : Statement := .insertScene target.userKeyId devclass (cstr a.data) 0 (cstr timeStamp)
        (cstr exeDate) 0 a.userKeyId
      have second : outcomes.answer (history ++ queried outcomes.deletion (.deleteScenes iotid) ++
          [lookup]) .getDbConnect = some (outcomes.insertion.map (·.1)) := by
        rw [Outcomes.answer, asked, List.any_append, List.any_append, ← asked, ← asked,
          asked_queried deleted, Bool.or_true]
        rfl
      dsimp only
      rw [play_stored second fun _ _ => rfl]
      refine ⟨history ++ queried outcomes.deletion (.deleteScenes iotid) ++ [lookup] ++
        queried outcomes.insertion row, ?_, ?_, ?_⟩
      · rw [Outcomes.stores, found]
        cases succeeds outcomes.insertion <;> rfl
      · rw [List.filterMap_append, List.filterMap_append, List.filterMap_append, replyCode_queried,
          replyCode_queried, List.append_nil, List.append_nil]
        exact List.append_nil _
      · rw [List.filterMap_append, List.filterMap_append, List.filterMap_append, gone,
          sceneDone_queried rfl, Outcomes.replacing, deleted, found, List.filterMap_cons_none rfl,
          List.filterMap_nil, List.append_nil, List.append_assoc]
        cases succeeds outcomes.insertion <;> rfl

/-- The row of a request as a statement. -/
def CLN.sceneInsertion (a : CLN) (target : User) : Statement :=
  .insertScene target.userKeyId (atoi (a.sceneFields.getD 1 [])) (cstr a.sceneData) 0
    (cstr (a.sceneTimes.getD 0 [])) (cstr (a.sceneTimes.getD 1 [])) 0 a.userKeyId

/-- The cases of a request. -/
theorem talkDsc_cases (a : CLN) :
    (¬a.Timed ∧ talkDsc a = talkDscDaily a) ∨
      (a.Timed ∧ ∃ schedule, a.sceneTimes = strSplit schedule (strlen schedule) underscore ∧
        talkDsc a = talkDscScheduled { a with data := a.sceneData } schedule) := by
  cases parts : strSplit a.data 200 tilde with
  | nil => exact .inl ⟨by simp [CLN.Timed, parts], by rw [talkDsc, parts]⟩
  | cons data rest =>
    cases rest with
    | nil => exact .inl ⟨by simp [CLN.Timed, parts], by rw [talkDsc, parts]⟩
    | cons schedule others =>
      have timed : a.Timed := by simp [CLN.Timed, parts]
      refine .inr ⟨timed, schedule, ?_, ?_⟩
      · rw [CLN.sceneTimes, if_pos timed, parts]
        rfl
      · rw [talkDsc, parts, CLN.sceneData, if_pos timed, parts]
        rfl

/-- A node of the database is asked for. -/
def connecting (happening : Happening) : Option Op :=
  if happening.1 = .getDbConnect then some .getDbConnect else none

/-- The end of a task asks for no node. -/
theorem connecting_ending (happening : Happening) (ends : happening.1.ending = true) :
    connecting happening = none := by
  refine if_neg fun asks => ?_
  rw [asks] at ends
  cases ends

/-- A node is asked for in the case of the request. -/
theorem reached_dsc (asks : a.requestClass = .user .dsc)
    (reaches : .getDbConnect ∈ (outcomes.happens config a).map (·.1)) :
    ((talkDsc a).play outcomes.answer []).filterMap connecting ≠ [] := by
  obtain ⟨happening, member, connects⟩ := List.mem_map.mp reaches
  rw [← happens_dsc asks connecting_ending]
  exact List.ne_nil_of_mem (List.mem_filterMap.mpr ⟨happening, member, if_pos connects⟩)

/-- What is seen of a replacement and its reply. -/
theorem play_replacement (outcomes : Outcomes) (a : CLN) (iotid devclass : Int)
    (timeStamp exeDate : Bytes) (code : Bool → String) (unasked : asked history = false) (silent : history.filterMap replyCode = [])
    (undone : history.filterMap sceneDone = []) :
    let played := (replaceScene a iotid devclass timeStamp exeDate >>= fun failed =>
      sendReply a (reply (code failed))).play outcomes.answer history
    played.filterMap sceneDone = (outcomes.replacing a iotid fun target =>
        .insertScene target.userKeyId devclass (cstr a.data) 0 (cstr timeStamp) (cstr exeDate) 0
          a.userKeyId) ∧
      played.filterMap replyCode =
        [text (code !(succeeds outcomes.deletion && outcomes.stores a))] := by
  intro played
  obtain ⟨later, continued, replies, done⟩ := play_replaceScene outcomes a iotid devclass
    timeStamp exeDate (fun failed => sendReply a (reply (code failed))) unasked
  have same : played = _ := continued
  rw [same, play_sendReply _ sceneDone_ending, play_sendReply _ replyCode_ending,
    List.filterMap_append, List.filterMap_append, replies, done, silent, undone]
  exact ⟨List.append_nil _, rfl⟩

/-- A request without `~` replaces the daily scene of its device. -/
theorem happens_daily (asks : a.requestClass = .user .dsc) (untimed : ¬a.Timed)
    (reaches : .getDbConnect ∈ (outcomes.happens config a).map (·.1)) :
    (outcomes.happens config a).filterMap sceneDone =
        outcomes.replacing a a.sceneDevice a.sceneInsertion ∧
      (outcomes.happens config a).filterMap replyCode =
        [text (if !(succeeds outcomes.deletion && outcomes.stores a) then "DSC" else "DSc")] := by
  have data : a.sceneData = a.data := if_neg untimed
  have fields : a.sceneFields = strSplit a.data (strlen a.data) dash := by rw [CLN.sceneFields, data]
  have times : a.sceneTimes = [noTime, everyDay] := if_neg untimed
  have reached := reached_dsc asks reaches
  rcases talkDsc_cases a with ⟨-, daily⟩ | ⟨timed, -⟩
  · rw [happens_dsc asks sceneDone_ending, happens_dsc asks replyCode_ending]
    rw [daily, talkDscDaily] at reached ⊢
    dsimp only at reached ⊢
    rw [← fields, ← CLN.sceneDevice] at reached ⊢
    by_cases few : a.sceneFields.length < 6
    · rw [if_pos few] at reached
      exact absurd rfl reached
    · rw [if_neg few, perform_bind, Prog.play] at reached ⊢
      dsimp only [Outcomes.answer] at reached ⊢
      cases found : outcomes.lists.find .iot (.key a.sceneDevice) with
      | none =>
        rw [found] at reached
        exact absurd rfl reached
      | some device =>
        let lookup : Happening := ⟨.findRegister .iot (.key a.sceneDevice), some device⟩
        have unasked : asked [lookup] = false := rfl
        have played := play_replacement outcomes a a.sceneDevice (atoi (a.sceneFields.getD 1 []))
          noTime everyDay (fun failed => if failed then "DSC" else "DSc") unasked rfl rfl
        have row : (fun target : User => Statement.insertScene target.userKeyId
            (atoi (a.sceneFields.getD 1 [])) (cstr a.data) 0 (cstr noTime) (cstr everyDay) 0
            a.userKeyId) = a.sceneInsertion := by
          funext target
          rw [CLN.sceneInsertion, data, times]
          rfl
        rw [row] at played
        exact played
  · exact absurd timed untimed

/-- What `DSC` does with the fields of a schedule. -/
def replaceTimed (a : CLN) : Handler Flow :=
  match a.sceneTimes with
  | timeStamp :: exeDate :: _ => do
    let failed ← replaceScene { a with data := a.sceneData } a.sceneDevice
      (atoi (a.sceneFields.getD 1 [])) timeStamp exeDate
    sendReply a (reply (if failed then "DSc" else "DSC"))
  | _ => do
    let deleted ← userDeleteSce a.sceneDevice
    if deleted = 0 then sendReply a (reply "DSc") else faulty

/-- The lookup of the device. -/
def deviceLookup (lists : Lists) (a : CLN) : Happening :=
  ⟨.findRegister .iot (.key a.sceneDevice), lists.find .iot (.key a.sceneDevice)⟩

/-- A request with `~`, after its device is found. -/
theorem happens_timed (asks : a.requestClass = .user .dsc) (timed : a.Timed)
    (reaches : .getDbConnect ∈ (outcomes.happens config a).map (·.1))
    (unseen : ∀ happening : Happening, happening.1.ending = true → seen happening = none) :
    (outcomes.happens config a).filterMap seen =
      ((replaceTimed a).play outcomes.answer [deviceLookup outcomes.lists a]).filterMap seen := by
  have reached := reached_dsc asks reaches
  rcases talkDsc_cases a with ⟨untimed, -⟩ | ⟨-, schedule, times, scheduled⟩
  · exact absurd timed untimed
  rw [happens_dsc asks unseen]
  rw [scheduled, talkDscScheduled] at reached ⊢
  dsimp only at reached ⊢
  rw [← CLN.sceneFields, ← CLN.sceneDevice] at reached ⊢
  by_cases few : a.sceneFields.length < 3
  · rw [if_pos few] at reached
    exact absurd rfl reached
  rw [if_neg few, perform_bind, Prog.play] at reached ⊢
  dsimp only [Outcomes.answer] at reached ⊢
  cases found : outcomes.lists.find .iot (.key a.sceneDevice) with
  | none =>
    rw [found] at reached
    exact absurd rfl reached
  | some device =>
    dsimp only
    rw [← times, deviceLookup, found]
    rfl

/-- A request with `~` and a whole schedule. -/
theorem happens_scheduled (asks : a.requestClass = .user .dsc) (timed : a.Timed)
    (whole : 2 ≤ a.sceneTimes.length)
    (reaches : .getDbConnect ∈ (outcomes.happens config a).map (·.1)) :
    (outcomes.happens config a).filterMap sceneDone =
        outcomes.replacing a a.sceneDevice a.sceneInsertion ∧
      (outcomes.happens config a).filterMap replyCode =
        [text (if !(succeeds outcomes.deletion && outcomes.stores a) then "DSc" else "DSC")] := by
  rw [happens_timed asks timed reaches sceneDone_ending,
    happens_timed asks timed reaches replyCode_ending, replaceTimed]
  cases times : a.sceneTimes with
  | nil => simp [times] at whole
  | cons timeStamp rest =>
    cases rest with
    | nil => simp [times] at whole
    | cons exeDate others =>
      have unasked : asked [deviceLookup outcomes.lists a] = false := rfl
      have played := play_replacement outcomes { a with data := a.sceneData } a.sceneDevice
        (atoi (a.sceneFields.getD 1 [])) timeStamp exeDate
        (fun failed => if failed then "DSc" else "DSC") unasked rfl rfl
      have row : (fun target : User => Statement.insertScene target.userKeyId
          (atoi (a.sceneFields.getD 1 [])) (cstr a.sceneData) 0 (cstr timeStamp) (cstr exeDate) 0
          a.userKeyId) = a.sceneInsertion := by
        funext target
        rw [CLN.sceneInsertion, times]
        rfl
      rw [← row]
      exact played

/-- A request with `~` and a broken schedule. -/
theorem happens_broken (asks : a.requestClass = .user .dsc) (timed : a.Timed)
    (broken : ¬2 ≤ a.sceneTimes.length)
    (reaches : .getDbConnect ∈ (outcomes.happens config a).map (·.1)) :
    (outcomes.happens config a).filterMap sceneDone =
        (if succeeds outcomes.deletion then [.deleteScenes a.sceneDevice] else []) ∧
      (outcomes.happens config a).filterMap replyCode =
        (if succeeds outcomes.deletion then [] else [text "DSc"]) := by
  rw [happens_timed asks timed reaches sceneDone_ending,
    happens_timed asks timed reaches replyCode_ending, replaceTimed]
  have first : outcomes.answer [deviceLookup outcomes.lists a] .getDbConnect =
      some (outcomes.deletion.map (·.1)) := rfl
  split
  · rename_i timeStamp exeDate others times
    simp [times] at broken
  · rw [userDeleteSce, play_stored first fun _ _ => rfl]
    have gone := sceneDone_queried (rfl : (Statement.deleteScenes a.sceneDevice).changesScenes = _)
      outcomes.deletion
    cases deleted : succeeds outcomes.deletion with
    | true =>
      rw [deleted] at gone
      refine ⟨?_, ?_⟩
      · exact gone
      · exact replyCode_queried _ _
    | false =>
      rw [deleted] at gone
      rw [if_pos (by decide), play_sendReply _ sceneDone_ending,
        play_sendReply _ replyCode_ending, List.filterMap_append, List.filterMap_append,
        List.filterMap_append, List.filterMap_append, replyCode_queried, gone]
      exact ⟨rfl, rfl⟩

/-! ## Honest replies -/

variable {table : Scenes}

/-- A new row is not in the table. -/
theorem Scenes.insert_ne (table : Scenes) (iotid : Int) (row : Scene)
    (numbered : row.id = table.next) : (table.delete iotid).rows ++ [row] ≠ table.rows := by
  intro same
  have member : row ∈ table.rows := by
    rw [← same]
    exact List.mem_append_right _ List.mem_cons_self
  have below := table.fresh row member
  omega

/-- A deletion that finds nothing changes nothing. -/
theorem Scenes.delete_eq_iff (table : Scenes) (iotid : Int) :
    (table.delete iotid).rows = table.rows ↔ ∀ row ∈ table.rows, row.iotid ≠ iotid := by
  rw [Scenes.delete, List.filter_eq_self]
  simp only [decide_eq_true_eq]

/-- The table after a replacement. -/
theorem rows_replacing (outcomes : Outcomes) (a : CLN) (table : Scenes) :
    ((outcomes.replacing a a.sceneDevice a.sceneInsertion).foldl Scenes.run table).rows =
      if succeeds outcomes.deletion then
        (table.delete a.sceneDevice).rows ++
          if succeeds outcomes.insertion then
            ((outcomes.lists.find .iot (.name a.talktoId)).map
              fun target => a.sceneRow target table.next).toList
          else []
      else table.rows := by
  rw [Outcomes.replacing]
  cases succeeds outcomes.deletion with
  | false => rfl
  | true =>
    cases succeeds outcomes.insertion with
    | false => exact (List.append_nil _).symm
    | true =>
      cases outcomes.lists.find .iot (.name a.talktoId) with
      | none => exact (List.append_nil _).symm
      | some target => rfl

/-- A replacement that was done whole. -/
theorem replaced_iff (outcomes : Outcomes) (a : CLN) (table : Scenes) :
    Replaced outcomes.lists a table
        ((outcomes.replacing a a.sceneDevice a.sceneInsertion).foldl Scenes.run table) ↔
      (succeeds outcomes.deletion && outcomes.stores a) = true := by
  rw [Replaced, rows_replacing, Outcomes.stores]
  cases succeeds outcomes.deletion with
  | false =>
    constructor
    · rintro ⟨target, -, same⟩
      exact absurd same.symm (table.insert_ne _ _ rfl)
    · intro done
      cases done
  | true =>
    cases succeeds outcomes.insertion with
    | false =>
      rw [Bool.and_false, Bool.and_false]
      constructor
      · rintro ⟨target, -, same⟩
        have lost := List.append_cancel_left same
        cases lost
      · intro done
        cases done
    | true =>
      cases outcomes.lists.find .iot (.name a.talktoId) with
      | none =>
        constructor
        · rintro ⟨target, found, -⟩
          cases found
        · intro done
          cases done
      | some target => exact ⟨fun _ => rfl, fun _ => ⟨target, rfl, rfl⟩⟩

/-- One that left the table alone. -/
theorem unchanged_iff (outcomes : Outcomes) (a : CLN) (table : Scenes) :
    ((outcomes.replacing a a.sceneDevice a.sceneInsertion).foldl Scenes.run table).rows =
        table.rows ↔
      succeeds outcomes.deletion = false ∨
        outcomes.stores a = false ∧ ∀ row ∈ table.rows, row.iotid ≠ a.sceneDevice := by
  rw [rows_replacing, Outcomes.stores, ← table.delete_eq_iff]
  cases succeeds outcomes.deletion with
  | false => simp
  | true =>
    cases succeeds outcomes.insertion with
    | false => simp
    | true =>
      cases outcomes.lists.find .iot (.name a.talktoId) with
      | none => simp
      | some target =>
        have changed := table.insert_ne a.sceneDevice (a.sceneRow target table.next) rfl
        simp [changed]

/-- The reply for a success and that for a failure differ. -/
theorem dsc_codes : text "DSC" ≠ text "DSc" := by decide

/-- The reply to a replacement is honest exactly in the format with `~`, when nothing was deleted,
or the schedule is whole and either the scene was stored or the device had none. -/
theorem dsc_honest_iff (config : Config) {a : CLN} (asks : a.requestClass = .user .dsc)
    (outcomes : Outcomes) (table : Scenes)
    (reaches : .getDbConnect ∈ (outcomes.happens config a).map (·.1)) :
    HonestReply outcomes.lists a table (outcomes.happens config a) ↔
      a.Timed ∧ (succeeds outcomes.deletion = false ∨ 2 ≤ a.sceneTimes.length ∧
        (outcomes.stores a = true ∨ ∀ row ∈ table.rows, row.iotid ≠ a.sceneDevice)) := by
  rw [HonestReply, Scenes.after]
  by_cases timed : a.Timed
  · by_cases whole : 2 ≤ a.sceneTimes.length
    · obtain ⟨done, replies⟩ := happens_scheduled asks timed whole reaches
      rw [done, replies, replaced_iff, unchanged_iff]
      cases succeeds outcomes.deletion <;> cases outcomes.stores a <;>
        simp [timed, whole, dsc_codes, dsc_codes.symm]
    · obtain ⟨done, replies⟩ := happens_broken asks timed whole reaches
      rw [done, replies]
      cases succeeds outcomes.deletion <;>
        simp [timed, whole, dsc_codes.symm]
  · obtain ⟨done, replies⟩ := happens_daily asks timed reaches
    rw [done, replies, replaced_iff, unchanged_iff]
    cases succeeds outcomes.deletion <;> cases outcomes.stores a <;>
      simp [timed, dsc_codes]

/-- A request to replace the scenes of the device. -/
def dscRequest (data : Bytes) : CLN :=
  { sceneRequest with checkcode := strcpy (zeros 18) (text "DSC"), data := data ++ zeros 400 }

/-- Every statement and every send succeeds. -/
def allDone : Outcomes := ⟨sceneLists, some (0, .done), some (0, .done), 706⟩

/-- A table with a scene of the device. -/
def oneScene : Scenes :=
  ⟨[⟨0, 7, 1, text "7-1-1-", 0, noTime, everyDay, 0, 3⟩], 1, by decide⟩

/-- A replacement with a schedule that is done. -/
theorem dsc_honest_iff_done :
    HonestReply sceneLists (dscRequest (text "7-1-1-~08:00:00_1000000_~")) oneScene
      (allDone.happens ⟨id, []⟩ (dscRequest (text "7-1-1-~08:00:00_1000000_~"))) :=
  (dsc_honest_iff ⟨id, []⟩ (by decide) allDone oneScene (by decide +kernel)).mpr
    ⟨by decide +kernel, .inr ⟨by decide +kernel, .inl (by decide)⟩⟩

/-- Without a schedule a scene that was replaced is reported as left alone. With one it is lost
when the insertion fails, and reported as left alone. -/
theorem dsc_reply_false :
    ((allDone.happens ⟨id, []⟩ (dscRequest (text "7-1-1-0-0-0-"))).filterMap replyCode =
        [text "DSc"] ∧
      (oneScene.after (allDone.happens ⟨id, []⟩ (dscRequest (text "7-1-1-0-0-0-")))).rows ≠
        oneScene.rows) ∧
    (({ allDone with insertion := some (0, .failed false) }.happens ⟨id, []⟩
        (dscRequest (text "7-1-1-~08:00:00_1000000_~"))).filterMap replyCode = [text "DSc"] ∧
      (oneScene.after ({ allDone with insertion := some (0, .failed false) }.happens ⟨id, []⟩
        (dscRequest (text "7-1-1-~08:00:00_1000000_~")))).rows = []) := by
  decide +kernel

end UubangIot
