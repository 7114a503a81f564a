import UubangIot.Verif.Lookups
import UubangIot.Verif.TaskAccounting

/-!
# Friends both ways

`ADS` inserts the sender's row and then, through a record of which only the id was filled, the row of
the friend. The key of that record is whatever the stack held, so the second row is the friend's only
when that happens to be the friend's key; and when the second insertion fails, the first one stays.
-/

namespace UubangIot

open Effect Effect.Prog Transition Transition.System

/-! ## What the database and the stack answered -/

/-- What matters for the friends of somebody. -/
inductive FriendNote
  /-- A row that was inserted. -/
  | row (userId friendId : Int)
  /-- The key of the local record. -/
  | id (value : Int)
  /-- The partner's id of the local record. -/
  | name (value : Bytes)
  deriving DecidableEq, Repr

/-- The note of an operation. -/
def friendNote : Happening → Option FriendNote
  | ⟨.realQuery _ (.insertFriend userId friendId), result⟩ =>
    if (show QueryResult from result) = .done then some (.row userId friendId) else none
  | ⟨.uninitialisedInt, value⟩ => some (.id value)
  | ⟨.uninitialisedText, value⟩ => some (.name value)
  | _ => none

/-- The notes of a trace. -/
def friendNotes (trace : List Happening) : List FriendNote := trace.filterMap friendNote

/-- The rows a trace has inserted. -/
def addedRows (trace : List Happening) : List (Int × Int) :=
  (friendNotes trace).filterMap fun note =>
    match note with
    | .row userId friendId => some (userId, friendId)
    | _ => none

/-- Both rows of two users, or none. -/
def BothOrNone (u f : Int) (rows : List (Int × Int)) : Prop :=
  rows = [] ∨ ∀ row, row ∈ rows ↔ row = (u, f) ∨ row = (f, u)

/-- The first insertion was not done; or the second was not, and the two are one user; or both were,
with the friend's key left in the local record and, where the sender's key is zero, with an id left
there that has this key. -/
def luckyNotes (registered : Lists) (u f : Int) : List FriendNote → Bool
  | [] => true
  | [.row _ _, .id _] | [.row _ _, .id _, .name _] => u = f
  | [.row _ _, .id id, .row _ _] => id = f
  | [.row _ _, .id id, .name name, .row _ _] =>
    id = f ∧ (registered.find .user (.name name)).any fun node => node.userKeyId = u
  | _ => false

/-! ## Notes along paths -/

/-- An operation that has nothing to do with friends. -/
def Op.unfriendly (op : Op) : Prop := ∀ response : op.Res, friendNote ⟨op, response⟩ = none

variable {α : Type} {trace : List Happening} {a : CLN}

/-- The notes of two parts are those of one and the other. -/
theorem friendNotes_append (before after : List Happening) :
    friendNotes (before ++ after) = friendNotes before ++ friendNotes after :=
  List.filterMap_append

/-- A path of such operations has no notes. -/
theorem friendNotes_of_only {handler : Handler α} {result : α} (still : handler.Only Op.unfriendly)
    (path : handler.Path trace result) : friendNotes trace = [] := by
  rw [friendNotes, List.filterMap_eq_nil_iff]
  intro happening member
  exact still.path path happening member happening.2

/-- `UpdateSqlInfoTimestamp` has nothing to do with friends. -/
theorem touching_unfriendly (userId index : Int) : (touching userId index).Only Op.unfriendly := by
  refine ⟨fun _ => rfl, fun node => ?_⟩
  cases node with
  | none => trivial
  | some node =>
    refine ⟨fun _ => rfl, fun result => ?_⟩
    cases result with
    | failed duplicate => exact ⟨fun _ => rfl, fun _ => trivial⟩
    | done => exact ⟨fun _ => rfl, fun _ => trivial⟩

/-- The end of a task has nothing to do with friends. -/
theorem finish_unfriendly (a : CLN) : (finish a).Only Op.unfriendly :=
  ⟨fun _ => rfl, fun _ => ⟨fun _ => rfl, fun _ => trivial⟩⟩

/-- A reply has nothing to do with friends. -/
theorem sendReply_unfriendly (a : CLN) (frame : Frame) : (sendReply a frame).Only Op.unfriendly := by
  refine ⟨fun _ => rfl, fun len => ?_⟩
  dsimp only [Prog.bind]
  split
  · exact ⟨fun _ => rfl, fun _ => (finish_unfriendly a).bind fun _ => trivial⟩
  · trivial

/-- An insertion notes its row when it returns 1, and nothing when it returns 0. -/
theorem insertFriend_notes {userId friendId result : Int}
    (path : (storing (.insertFriend userId friendId) 0 0 (touching userId 1)).Path trace result) :
    result = 0 ∧ friendNotes trace = [] ∨
      result = 1 ∧ friendNotes trace = [.row userId friendId] := by
  obtain ⟨node, _, rfl, path⟩ := path
  cases node with
  | none =>
    obtain ⟨rfl, rfl⟩ := path
    exact .inl ⟨rfl, rfl⟩
  | some node =>
    obtain ⟨query, _, rfl, path⟩ := path
    cases query with
    | failed duplicate =>
      obtain ⟨_, _, rfl, rfl, rfl⟩ := path
      exact .inl ⟨rfl, rfl⟩
    | done =>
      change (touching userId 1 >>= fun _ => perform (.releaseNode node) >>= fun _ =>
        (.ret 1 : Handler Int)).Path _ result at path
      obtain ⟨touched, _, after, rfl, touchedPath, _, _, rfl, rfl, rfl⟩ :=
        (path_bind _ _ _ _).mp path
      have quiet := friendNotes_of_only (touching_unfriendly userId 1) touchedPath
      refine .inr ⟨rfl, ?_⟩
      change FriendNote.row userId friendId :: friendNotes (touched ++ _) = _
      rw [friendNotes_append, quiet]
      rfl

/-- The rest of a trace whose first operations change no lists. -/
theorem Directory.Answers.rest {directory : Directory} (before : List Happening)
    {after : List Happening} (answers : directory.Answers (before ++ after))
    (still : ∀ happening ∈ before, happening.1.relists = false) : directory.Answers after := by
  induction before with
  | nil => exact answers
  | cons happening before ih =>
    obtain ⟨next, stepped, later⟩ := answers.cons
    obtain rfl := after_of_still (still happening List.mem_cons_self) stepped
    exact ih later fun other member => still other (List.mem_cons_of_mem _ member)

/-- `NewUserFriend` leaves the online lists as they are. -/
theorem newUserFriend_relists (userId friendId : Int) {talktoId : Handler Bytes}
    (still : talktoId.Only fun op => op.relists = false) :
    (newUserFriend userId talktoId friendId).Only fun op => op.relists = false := by
  have stores (other : Int) :
      (storing (.insertFriend userId other) 0 0 (touching userId 1)).Only
        fun op => op.relists = false :=
    (storing_still (.insertFriend userId other) 0 0 (touching_still userId 1)).mono
      fun _ unlisted => unlisted.2
  unfold newUserFriend
  split
  · refine still.bind fun name => ⟨rfl, fun found => ?_⟩
    cases found with
    | none => trivial
    | some node => exact stores node.userKeyId
  · exact stores friendId

/-- `NewUserFriend` for the sender of a request. -/
theorem newUserFriend_sender {directory : Directory} {friend : User} {userId result : Int}
    {talktoId : Bytes} (known : directory.registered.find .user (.name talktoId) = some friend)
    {more : List Happening} (answers : directory.Answers (trace ++ more))
    (path : (newUserFriend userId (return talktoId) friend.userKeyId).Path trace result) :
    result = 0 ∧ friendNotes trace = [] ∨
      result = 1 ∧ friendNotes trace = [.row userId friend.userKeyId] := by
  unfold newUserFriend at path
  split at path
  · obtain ⟨found, _, rfl, path⟩ := path
    obtain ⟨same, -⟩ := answers.findRegister
    obtain rfl := same.trans known
    have notes := insertFriend_notes path
    exact notes
  · exact insertFriend_notes path

/-- `NewUserFriend` for the local record. -/
theorem newUserFriend_local {directory : Directory} {own : User} {id result : Int}
    {more : List Happening} (answers : directory.Answers (trace ++ more))
    (path : (newUserFriend id (perform .uninitialisedText) own.userKeyId).Path trace result) :
    (∃ names : List FriendNote, (names = [] ∨ ∃ name, names = [.name name]) ∧
        friendNotes trace = names ∧ result = 0) ∨
      friendNotes trace = [.row id own.userKeyId] ∧ own.userKeyId ≠ 0 ∨
      ∃ name node, directory.registered.find .user (.name name) = some node ∧
        friendNotes trace = [.name name, .row id node.userKeyId] ∧ own.userKeyId = 0 := by
  unfold newUserFriend at path
  split at path
  · rename_i zero
    obtain ⟨name, _, rfl, found, rest, rfl, path⟩ := path
    have later := Directory.Answers.rest [⟨.uninitialisedText, name⟩] answers
      (List.forall_mem_singleton.mpr rfl)
    obtain ⟨same, -⟩ := later.findRegister
    cases found with
    | none =>
      obtain ⟨rfl, rfl⟩ := path
      exact .inl ⟨[.name name], .inr ⟨name, rfl⟩, rfl, rfl⟩
    | some node =>
      have note (later : List FriendNote) (notes : friendNotes rest = later) :
          friendNotes (⟨.uninitialisedText, name⟩ ::
            ⟨.findRegister .user (.name name), some node⟩ :: rest) = .name name :: later :=
        congrArg (FriendNote.name name :: ·) notes
      rcases insertFriend_notes path with ⟨rfl, notes⟩ | ⟨-, notes⟩
      · exact .inl ⟨[.name name], .inr ⟨name, rfl⟩, note _ notes, rfl⟩
      · exact .inr (.inr ⟨name, node, same.symm, note _ notes, zero⟩)
  · rename_i nonzero
    rcases insertFriend_notes path with ⟨rfl, notes⟩ | ⟨-, notes⟩
    · exact .inl ⟨[], .inl rfl, notes, rfl⟩
    · exact .inr (.inl ⟨notes, nonzero⟩)

/-! ## One request -/

/-- The notes of a request that names a registered user. -/
theorem talkAds_notes {directory : Directory} {friend own : User} {flow : Flow}
    (known : directory.registered.find .user (.name a.talktoId) = some friend)
    (self : directory.registered.find .user (.name a.userId) = some own)
    (answers : directory.Answers trace) (path : (talkAds a).Path trace flow) :
    friendNotes trace = [] ∨
      (∃ id, friendNotes trace = [.row a.userKeyId friend.userKeyId, .id id] ∨
        ∃ name, friendNotes trace = [.row a.userKeyId friend.userKeyId, .id id, .name name]) ∨
      (∃ id, friendNotes trace = [.row a.userKeyId friend.userKeyId, .id id,
        .row id own.userKeyId] ∧ own.userKeyId ≠ 0) ∨
      ∃ id name node, directory.registered.find .user (.name name) = some node ∧
        friendNotes trace = [.row a.userKeyId friend.userKeyId, .id id, .name name,
          .row id node.userKeyId] ∧ own.userKeyId = 0 := by
  obtain ⟨found, _, rfl, path⟩ := path
  obtain ⟨same, later⟩ := answers.findRegister
  obtain rfl := same.trans known
  change (newUserFriend a.userKeyId (return a.talktoId) friend.userKeyId >>= fun stored => _).Path _
    flow at path
  obtain ⟨first, stored, _, rfl, firstPath, next⟩ := (path_bind _ _ _ _).mp path
  have quiet := (newUserFriend_relists a.userKeyId friend.userKeyId
    (only_ret a.talktoId)).path firstPath
  change friendNotes (first ++ _) = _ ∨ _
  rcases newUserFriend_sender known later firstPath with ⟨rfl, notes⟩ | ⟨rfl, notes⟩
  · have silent := friendNotes_of_only (sendReply_unfriendly a (reply "ADS")) next
    left
    rw [friendNotes_append, notes, silent]
    rfl
  · rw [if_neg (by decide : ¬(1 : Int) = 0)] at next
    obtain ⟨found, _, rfl, next⟩ := next
    obtain ⟨same, searched⟩ := (Directory.Answers.rest first later quiet).findRegister
    obtain rfl := same.trans self
    obtain ⟨id, rest, rfl, next⟩ := next
    change (newUserFriend id (perform .uninitialisedText) own.userKeyId >>= fun stored => _).Path _
      flow at next
    obtain ⟨second, stored, last, rfl, secondPath, replied⟩ := (path_bind _ _ _ _).mp next
    have left := Directory.Answers.rest [⟨.uninitialisedInt, id⟩] searched
      (List.forall_mem_singleton.mpr rfl)
    have silent := friendNotes_of_only (sendReply_unfriendly a _) replied
    have whole (notes' : List FriendNote) (same : friendNotes second = notes') :
        friendNotes (first ++ ⟨.findRegister .user (.name a.userId), some own⟩ ::
          ⟨.uninitialisedInt, id⟩ :: (second ++ last)) =
            .row a.userKeyId friend.userKeyId :: .id id :: notes' := by
      have tail : friendNotes (second ++ last) = notes' := by
        rw [friendNotes_append, same, silent, List.append_nil]
      rw [friendNotes_append, notes]
      exact congrArg (fun later => FriendNote.row a.userKeyId friend.userKeyId :: .id id :: later) tail
    rcases newUserFriend_local left secondPath with
      ⟨_, rfl | ⟨name, rfl⟩, same, rfl⟩ | ⟨same, nonzero⟩ | ⟨name, node, named, same, zero⟩
    · exact .inr (.inl ⟨id, .inl (whole _ same)⟩)
    · exact .inr (.inl ⟨id, .inr ⟨name, whole _ same⟩⟩)
    · exact .inr (.inr (.inl ⟨id, whole _ same, nonzero⟩))
    · exact .inr (.inr (.inr ⟨id, name, node, named, whole _ same, zero⟩))

/-! ## Both rows or none -/

variable {u f : Int}

/-- One row is complete only for a user who is their own friend. -/
theorem bothOrNone_one : BothOrNone u f [(u, f)] ↔ u = f := by
  constructor
  · rintro (impossible | exactly)
    · cases impossible
    · have member := (exactly (f, u)).mpr (.inr rfl)
      exact (congrArg Prod.snd (List.mem_singleton.mp member))
  · rintro rfl
    exact .inr fun row => by rw [List.mem_singleton, or_self]

/-- Two rows are complete when the second is the first the other way round. -/
theorem bothOrNone_two {id friendId : Int} :
    BothOrNone u f [(u, f), (id, friendId)] ↔ id = f ∧ friendId = u := by
  rw [← Prod.mk.injEq]
  constructor
  · rintro (impossible | exactly)
    · cases impossible
    · rcases (exactly (id, friendId)).mp (.tail _ List.mem_cons_self) with first | second
      · have member := (exactly (f, u)).mpr (.inr rfl)
        rw [first, List.mem_pair, or_self] at member
        rw [first, member]
      · exact second
  · intro second
    exact .inr fun row => by rw [second, List.mem_pair]

/-- A request of a signed-in user who names another. -/
structure AdsRun (config : Config) (directory : Directory) (u f : Int) (a : CLN)
    (trace : List Happening) : Prop where
  /-- The code of the request. -/
  asks : a.requestClass = .user .ads
  /-- The sender is signed in. -/
  signed : a.signedIn = true ∧ a.userKeyId = u
  /-- The sender is registered. -/
  self : ∃ own, directory.registered.find .user (.name a.userId) = some own ∧ own.userKeyId = u
  /-- So is the friend. -/
  known : ∃ friend, directory.registered.find .user (.name a.talktoId) = some friend ∧
    friend.userKeyId = f
  /-- The lists answer. -/
  answers : directory.Answers trace
  /-- The request is handled. -/
  path : (talk config a).Path trace ()

variable {config : Config} {directory : Directory}

/-- The notes of a request are those of its case. -/
theorem AdsRun.case (run : AdsRun config directory u f a trace) : ∃ before flow,
    (talkAds a).Path before flow ∧ directory.Answers before ∧
      friendNotes trace = friendNotes before := by
  have path := run.path
  rw [talk_user run.asks] at path
  obtain ⟨before, flow, after, rfl, casePath, endPath⟩ := (path_bind _ _ _ _).mp path
  have quiet : (endCase a flow).Only Op.unfriendly := endCase_only (finish_unfriendly a) flow
  have answered : directory.Answers before := by
    have whole := run.answers
    obtain ⟨final, reached⟩ := Option.isSome_iff_exists.mp whole
    obtain ⟨middle, first, -⟩ := (run_append _ _ _ _).mp reached
    exact Option.isSome_of_mem first
  refine ⟨before, flow, casePath, answered, ?_⟩
  rw [friendNotes_append, friendNotes_of_only quiet endPath, List.append_nil]

/-- A request adds both rows or none exactly when it is lucky. -/
theorem AdsRun.bothOrNone_iff (run : AdsRun config directory u f a trace) :
    BothOrNone u f (addedRows trace) ↔
      luckyNotes directory.registered u f (friendNotes trace) = true := by
  obtain ⟨before, flow, path, answers, same⟩ := run.case
  obtain ⟨own, self, rfl⟩ := run.self
  obtain ⟨friend, known, rfl⟩ := run.known
  have key := run.signed.2
  rw [addedRows, same]
  rcases talkAds_notes known self answers path with
    notes | ⟨id, notes | ⟨name, notes⟩⟩ | ⟨id, notes, nonzero⟩ | ⟨id, name, node, named, notes, zero⟩
  · rw [notes]
    exact iff_of_true (.inl rfl) rfl
  · rw [notes, key, luckyNotes, decide_eq_true_eq]
    exact bothOrNone_one
  · rw [notes, key, luckyNotes, decide_eq_true_eq]
    exact bothOrNone_one
  · rw [notes, key, luckyNotes, decide_eq_true_eq]
    exact bothOrNone_two.trans (and_iff_left rfl)
  · rw [notes, key, luckyNotes, named, decide_eq_true_eq, Option.any_some, decide_eq_true_eq]
    exact bothOrNone_two

/-! ## Sequences of requests -/

/-- Whoever has a friend is a friend of that one. -/
def Mutual (rows : List (Int × Int)) : Prop := ∀ x y, (x, y) ∈ rows → (y, x) ∈ rows

/-- `userrelationship` under requests, one after another. -/
def friendships : System (List (Int × Int)) (CLN × List Happening) where
  step rows request := some (rows ++ addedRows request.2)

/-- A request that is lucky. -/
def LuckyRequest (config : Config) (directory : Directory) (_ : List (Int × Int))
    (request : CLN × List Happening) : Prop :=
  ∃ u f, AdsRun config directory u f request.1 request.2 ∧
    luckyNotes directory.registered u f (friendNotes request.2) = true

/-- Both rows of two users keep friendship mutual. -/
theorem Mutual.append {rows added : List (Int × Int)} (paired : Mutual rows)
    (both : BothOrNone u f added) : Mutual (rows ++ added) := by
  rcases both with rfl | exactly
  · rwa [List.append_nil]
  · intro x y member
    rcases List.mem_append.mp member with old | new
    · exact List.mem_append_left _ (paired x y old)
    · apply List.mem_append_right
      rw [exactly]
      rcases (exactly (x, y)).mp new with same | same
      · cases same
        exact .inr rfl
      · cases same
        exact .inl rfl

/-- A request adds both rows or none exactly when it is lucky, and lucky requests keep friendship
mutual. -/
theorem friends_both_ways_iff (config : Config) (directory : Directory) :
    (∀ (u f : Int) (a : CLN) (trace : List Happening), AdsRun config directory u f a trace →
        (BothOrNone u f (addedRows trace) ↔
          luckyNotes directory.registered u f (friendNotes trace) = true)) ∧
      ∀ (rows : List (Int × Int)) (requests : List (CLN × List Happening)), Mutual rows →
        friendships.Meets (LuckyRequest config directory) rows requests →
        friendships.Always Mutual rows requests := by
  constructor
  · intro u f a trace run
    exact run.bothOrNone_iff
  · intro rows requests paired lucky
    refine always_of_meets (fun _ kept => kept) ?_ paired lucky
    rintro before ⟨a, trace⟩ after ⟨u, f, run, luck⟩ kept stepped
    obtain rfl := Option.some.inj stepped
    exact kept.append (run.bothOrNone_iff.mpr luck)

/-- The user with key 1 asks for the friendship of the one with key 2. -/
def adsRequest : CLN :=
  { CLN.zero with
    checkcode := text "ADS" ++ zeros 15
    userId := text "alice" ++ zeros 7
    userKeyId := 1
    talktoId := text "robert" ++ zeros 6
    info0 := yes }

/-- The sender. -/
def alice : User := ⟨0, text "alice", 1, [], [], 0, true⟩

/-- The friend. -/
def robert : User := ⟨0, text "robert", 2, [], [], 0, true⟩

/-- Both are registered. -/
def adsDirectory : Directory := ⟨⟨⟨2, [robert, alice]⟩, ⟨0, []⟩⟩, .empty⟩

/-- Both insertions are done, with a key left in the local record. -/
def adsAnswers (id : Int) : List Answer :=
  [.found (some robert), .node (some 0), .query .done, .node none, .unit, .found (some alice),
    .int id, .node (some 0), .query .done, .node none, .unit, .int 721, .unit, .unit]

/-- The request under given answers. -/
theorem ads_run {answers : List Answer} {notes : List FriendNote}
    (handled : ((answering (talk bareConfig adsRequest) answers).map fun answered =>
      (friendNotes answered.1, (Directory.system.run adsDirectory answered.1).isSome)) =
        some (notes, true)) :
    ∃ trace, AdsRun bareConfig adsDirectory 1 2 adsRequest trace ∧ friendNotes trace = notes := by
  obtain ⟨⟨trace, result⟩, answered, same⟩ := Option.map_eq_some_iff.mp handled
  obtain ⟨noted, listed⟩ := Prod.mk.inj same
  have path := answering_path _ _ answered
  exact ⟨trace, ⟨by decide +kernel, ⟨rfl, rfl⟩, ⟨alice, by decide +kernel, rfl⟩,
    ⟨robert, by decide +kernel, rfl⟩, listed, path⟩, noted⟩

/-- With the friend's own key left there, both rows are added and stay so. -/
theorem friends_both_ways_lucky : ∃ trace, AdsRun bareConfig adsDirectory 1 2 adsRequest trace ∧
    friendNotes trace = [.row 1 2, .id 2, .row 2 1] ∧
      (BothOrNone 1 2 (addedRows trace) ↔
        luckyNotes adsDirectory.registered 1 2 (friendNotes trace) = true) ∧
      friendships.Always Mutual [] [(adsRequest, trace)] := by
  obtain ⟨trace, run, notes⟩ := ads_run
    (by decide +kernel : ((answering (talk bareConfig adsRequest) (adsAnswers 2)).map fun answered =>
      (friendNotes answered.1, (Directory.system.run adsDirectory answered.1).isSome)) =
        some ([.row 1 2, .id 2, .row 2 1], true))
  have result := friends_both_ways_iff bareConfig adsDirectory
  have lucky : luckyNotes adsDirectory.registered 1 2 (friendNotes trace) = true := by
    rw [notes]
    decide
  refine ⟨trace, run, notes, result.1 1 2 adsRequest trace run, ?_⟩
  exact result.2 [] [(adsRequest, trace)] (fun _ _ member => absurd member List.not_mem_nil)
    ⟨⟨1, 2, run, lucky⟩, fun _ _ => trivial⟩

/-- With another key left there, somebody else becomes a friend of the sender. -/
theorem friend_of_nobody : ∃ trace, AdsRun bareConfig adsDirectory 1 2 adsRequest trace ∧
    addedRows trace = [(1, 2), (7, 1)] ∧ ¬BothOrNone 1 2 (addedRows trace) ∧
      ¬Mutual ([] ++ addedRows trace) := by
  obtain ⟨trace, run, notes⟩ := ads_run
    (by decide +kernel : ((answering (talk bareConfig adsRequest) (adsAnswers 7)).map fun answered =>
      (friendNotes answered.1, (Directory.system.run adsDirectory answered.1).isSome)) =
        some ([.row 1 2, .id 7, .row 7 1], true))
  have rows : addedRows trace = [(1, 2), (7, 1)] := by
    rw [addedRows, notes]
    rfl
  refine ⟨trace, run, rows, ?_, ?_⟩
  · rw [rows, bothOrNone_two]
    decide
  · rw [rows]
    intro paired
    exact absurd (paired 1 2 List.mem_cons_self) (by decide)

end UubangIot
