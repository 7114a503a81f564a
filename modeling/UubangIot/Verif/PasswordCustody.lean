import UubangIot.Verif.DeviceOperations
import UubangIot.Verif.RequestParts

/-!
# Where passwords come from

A registered password is that of a row the lists were loaded or reloaded from, or it has replaced
one for a request that had given the password before it. So every password that a check accepts
leads back, change by change, to a row.
-/

namespace UubangIot

open Effect Effect.Prog Transition Transition.System

/-! ## Statement -/

/-- The query of a reload, for the rows above the newest registered one, and what it makes of a row. -/
inductive ReloadQuery (past : List Happening) : Statement → (Row → Entry) → Prop
  /-- The users. -/
  | users (top : User) (checkcode : Bytes)
      (headed : ⟨.registedHead .user, (some top : Option User)⟩ ∈ past) :
      ReloadQuery past (.selectUsersAbove top.userKeyId) (userEntry checkcode)
  /-- The devices. -/
  | iotNodes (top : User) (headed : ⟨.registedHead .iot, (some top : Option User)⟩ ∈ past) :
      ReloadQuery past (.selectIotNodesAbove top.userKeyId) iotEntry

/-- A row of the result of a reload's query. -/
def Reads (past : List Happening) (entry : Entry) : Prop :=
  ∃ before after node statement fromRow, ∃ rows : List Row, ∃ row ∈ rows,
    ReloadQuery before statement fromRow ∧ entry = fromRow row ∧
    past = before ++ [⟨.realQuery node statement, QueryResult.done⟩,
      ⟨.storeResult node, (some rows : Option (List Row))⟩] ++ after

/-- A row that the registered lists were loaded from, or that a reload has read and then added to
them. -/
def Given (entries : List Entry) (log : List Note) (entry : Entry) : Prop :=
  entry ∈ entries ∨ ∃ object before after, Reads before entry ∧
    deeds log object = before ++ ⟨.addtoLocal entry, (1 : Int)⟩ :: after

/-- A password that a name has: that of a row, or that of a change for a user whose request had
given a password of the name. -/
inductive Traced (entries : List Entry) (log : List Note) : Bytes → Bytes → Prop
  /-- A row. -/
  | row (entry : Entry) (userId userPassword : Bytes) (given : Given entries log entry)
      (name : cstr entry.userId = cstr userId)
      (password : cstr entry.userPassword = cstr userPassword) :
      Traced entries log userId userPassword
  /-- A change. -/
  | renewed (object : Nat) (request b : CLN) (userId userPassword : Bytes)
      (requested : Requested log object request) (renewal : request.renewal b)
      (user : kindOf b.userId = .user)
      (old : Traced entries log b.userId b.userPassword)
      (known : .did object ⟨.checkIdPwd 0 b.userId b.userPassword, (1 : Int)⟩ ∈ log)
      (changed : .did object ⟨.setRegisterPassword b.userId b.reUserPassword, ()⟩ ∈ log)
      (name : cstr b.userId = cstr userId)
      (password : cstr b.reUserPassword = cstr userPassword) :
      Traced entries log userId userPassword

/-- A check that accepts a name and a password accepts one that is traced. -/
def AcceptsTraced (entries : List Entry) (before : List Note) : Note → Prop
  | .did _ ⟨.checkIdPwd n userId userPassword, check⟩ =>
    n = 0 → (show Int from check) ≠ -1 → Traced entries before userId userPassword
  | _ => True

section

variable {α : Type} {config : Config} {server after : ServerState} {log history : List Note}
  {registered lists online : Lists} {entries : List Entry} {op : Op} {response : op.Res}
  {object conn : Nat} {userId userPassword : Bytes} {past : List Happening} {renews : CLN → Prop}

/-! ## What requests do to the lists -/

/-- A search has found the name among the users. -/
def NamesUser (past : List Happening) (userId : Bytes) : Prop :=
  (∃ first : User, ⟨.registedHead .user, (some first : Option User)⟩ ∈ past ∧
    streq userId first.userId = true) ∨
  ∃ node : User, ⟨.findRegister .user (.name userId), (some node : Option User)⟩ ∈ past

/-- What a new node and a new password rest on. -/
def Rests (renews : CLN → Prop) (past : List Happening) : Op → Prop
  | .addtoLocal entry => Reads past entry
  | .setRegisterPassword userId userPassword => ∃ b, renews b ∧ userId = b.userId ∧
      userPassword = b.reUserPassword ∧ NamesUser past b.userId ∧
      ⟨.checkIdPwd 0 b.userId b.userPassword, (1 : Int)⟩ ∈ past
  | _ => True

/-- Operations besides those on the registered lists rest on nothing. -/
theorem rests_of_unlisted (unlisted : op.unlisted = true) : Rests renews past op := by
  cases op <;> trivial

/-- Results and such operations rest on nothing, and so do sequences of them. -/
theorem rests_closed :
    ClosedUnder fun _ handler => ∀ past, handler.Founded (Rests renews) past where
  ret _ _ _ := trivial
  call _ _ _ unlisted later _ :=
    ⟨rests_of_unlisted unlisted, fun response => later response _⟩
  bind _ _ _ _ first second past := (first past).bind fun _ value _ => second value _

/-- What was read stays so. -/
theorem Reads.mono {entry : Entry} (reads : Reads past entry) (more : List Happening) :
    Reads (past ++ more) entry := by
  obtain ⟨before, after, node, statement, fromRow, rows, row, member, reloading, same, rfl⟩ := reads
  exact ⟨before, after ++ more, node, statement, fromRow, rows, row, member, reloading, same,
    List.append_assoc _ _ _⟩

/-- The rows of a result are added. -/
theorem addRows_rests {entry : Row → Entry} (rows : List Row)
    (reads : ∀ row ∈ rows, Reads past (entry row)) :
    (addRows entry rows).Founded (Rests renews) past := by
  induction rows generalizing past with
  | nil => trivial
  | cons row rest ih =>
    refine ⟨reads row List.mem_cons_self, fun response => ih fun other later => ?_⟩
    exact (reads other (List.mem_cons_of_mem _ later)).mono _

/-- The rows of a reload's query are added, and what follows. -/
theorem fetchRows_rests {entry : Row → Entry} (node : Nat) {statement : Statement}
    {next : Handler Int} (reloading : ReloadQuery past statement entry)
    (follows : ∀ past, next.Founded (Rests renews) past) :
    (fetchRows node statement entry next).Founded (Rests renews) past := by
  refine ⟨trivial, fun result => ?_⟩
  cases result with
  | failed duplicate => exact ⟨trivial, fun _ => trivial⟩
  | done =>
    refine ⟨trivial, fun stored => ?_⟩
    cases stored with
    | none => exact ⟨trivial, fun response => response.elim⟩
    | some rows =>
      have reads (row : Row) (member : row ∈ rows) :
          Reads (past ++ [⟨.realQuery node statement, QueryResult.done⟩] ++
            [⟨.storeResult node, (some rows : Option (List Row))⟩]) (entry row) :=
        ⟨past, [], node, statement, entry, rows, row, member, reloading, rfl, by simp⟩
      exact (addRows_rests rows reads).bind fun _ _ _ => follows _

/-- The reload adds the rows that its queries give. -/
theorem updateLocalRegUserAndIotlist_rests (past : List Happening) :
    updateLocalRegUserAndIotlist.Founded (Rests renews) past := by
  refine ⟨trivial, fun _ => ⟨trivial, fun checkcode => ⟨trivial, fun top => ?_⟩⟩⟩
  cases top with
  | none => exact ⟨trivial, fun response => response.elim⟩
  | some top =>
    refine ⟨trivial, fun node => ?_⟩
    cases node with
    | none => trivial
    | some node =>
      apply fetchRows_rests
      · -- the top of the users was read two operations before the query
        exact .users top checkcode (List.mem_append_left _ (List.mem_append_right _
          List.mem_cons_self))
      intro past
      refine ⟨trivial, fun _ => ⟨trivial, fun _ => ⟨trivial, fun top => ?_⟩⟩⟩
      cases top with
      | none => trivial
      | some top =>
        refine ⟨trivial, fun _ => ⟨trivial, fun top => ?_⟩⟩
        cases top with
        | none => exact ⟨trivial, fun response => response.elim⟩
        | some top =>
          apply fetchRows_rests
          · exact .iotNodes top (List.mem_append_right _ List.mem_cons_self)
          exact fun past => ⟨trivial, fun _ => ⟨trivial, fun _ => trivial⟩⟩

/-- A password changes for a user that is found, after the old password was given. -/
theorem userRePwd_rests {b : CLN} (asked : renews b) (past : List Happening) :
    (userRePwd b).Founded (Rests renews) past := by
  refine ⟨trivial, fun tag => ⟨trivial, fun (known : Int) => ?_⟩⟩
  dsimp only [Prog.bind]
  split
  · rename_i right
    subst right
    cases tag with
    | none => trivial
    | some first =>
      have checked : ⟨.checkIdPwd 0 b.userId b.userPassword, (1 : Int)⟩ ∈
          past ++ [⟨.registedHead .user, (some first : Option User)⟩] ++
            [⟨.checkIdPwd 0 b.userId b.userPassword, (1 : Int)⟩] :=
        List.mem_append_right _ List.mem_cons_self
      dsimp only
      split
      · rename_i same
        have headed : ⟨.registedHead .user, (some first : Option User)⟩ ∈
            past ++ [⟨.registedHead .user, (some first : Option User)⟩] ++
              [⟨.checkIdPwd 0 b.userId b.userPassword, (1 : Int)⟩] :=
          List.mem_append_left _ (List.mem_append_right _ List.mem_cons_self)
        exact ⟨⟨b, asked, rfl, rfl, .inl ⟨first, headed, same⟩, checked⟩, fun _ => trivial⟩
      · refine ⟨trivial, fun found => ?_⟩
        cases found with
        | none => trivial
        | some user =>
          refine ⟨trivial, fun node => ?_⟩
          cases node with
          | none => trivial
          | some node =>
            refine ⟨trivial, fun result => ?_⟩
            cases result with
            | failed duplicate => exact ⟨trivial, fun _ => trivial⟩
            | done =>
              refine ⟨⟨b, asked, rfl, rfl, .inr ⟨user, ?_⟩, ?_⟩, fun _ =>
                ⟨trivial, fun _ => trivial⟩⟩
              · apply List.mem_append_left
                apply List.mem_append_left
                exact List.mem_append_right _ List.mem_cons_self
              · apply List.mem_append_left
                apply List.mem_append_left
                exact List.mem_append_left _ checked
  · trivial

/-- Every new node and every new password of a request. -/
theorem talk_rests (config : Config) (a : CLN) (past : List Happening) :
    (talk config a).Founded (Rests a.renewal) past :=
  (talk_assembled config a).closed rests_closed updateLocalRegUserAndIotlist_rests
    (fun _ asked => userRePwd_rests asked) past

/-! ## Traces -/

/-- A row that was given stays so. -/
theorem Given.mono {entry : Entry} (given : Given entries log entry) (notes : List Note) :
    Given entries (log ++ notes) entry := by
  rcases given with loaded | ⟨object, before, after, reads, done⟩
  · exact .inl loaded
  · refine .inr ⟨object, before, after ++ deeds notes object, reads, ?_⟩
    have later : deeds (log ++ notes) object = deeds log object ++ deeds notes object :=
      List.filterMap_append
    rw [later, done, List.append_assoc, List.cons_append]

/-- What was traced stays so. -/
theorem Traced.mono (traced : Traced entries log userId userPassword) (notes : List Note) :
    Traced entries (log ++ notes) userId userPassword := by
  induction traced with
  | row entry userId userPassword given name password =>
    exact .row entry userId userPassword (given.mono notes) name password
  | renewed object request b userId userPassword requested renewal user old known changed name
      password ih =>
    exact .renewed object request b userId userPassword (requested_append.mpr (.inl requested))
      renewal user ih (List.mem_append_left _ known) (List.mem_append_left _ changed) name password

/-- A trace is of texts. -/
theorem Traced.congr {name password : Bytes} (traced : Traced entries log userId userPassword)
    (sameName : cstr userId = cstr name) (samePassword : cstr userPassword = cstr password) :
    Traced entries log name password := by
  cases traced with
  | row entry _ _ given own secret =>
    exact .row entry name password given (own.trans sameName) (secret.trans samePassword)
  | renewed object request b _ _ requested renewal user old known changed own secret =>
    exact .renewed object request b name password requested renewal user old known changed
      (own.trans sameName) (secret.trans samePassword)

/-- The nodes after a password was set. -/
theorem setNode_cases {nodes : List User} {node : User}
    (member : node ∈ setNode userId userPassword nodes) :
    node ∈ nodes ∨ node.userPassword = userPassword ∧ streq userId node.userId = true := by
  induction nodes with
  | nil => cases member
  | cons first rest ih =>
    rw [setNode] at member
    split at member
    · rename_i same
      rcases List.mem_cons.mp member with rfl | old
      · exact .inr ⟨rfl, same⟩
      · exact .inl (List.mem_cons_of_mem _ old)
    · rcases List.mem_cons.mp member with rfl | old
      · exact .inl List.mem_cons_self
      · exact (ih old).imp_left (List.mem_cons_of_mem _)

/-! ## Every turn -/

/-- What a run of the server with its registered lists keeps. -/
structure Custody (config : Config) (entries : List Entry) (now : Listed) : Prop where
  told : Told config now.1
  kinded : Kinded now.2
  /-- The tops of the list of users. -/
  heads : ∀ object, ∀ first : User,
    .did object ⟨.registedHead .user, (some first : Option User)⟩ ∈ now.1.2 →
      kindOf first.userId = .user
  /-- The searches for users. -/
  finds : ∀ object userId, ∀ node : User,
    .did object ⟨.findRegister .user (.name userId), (some node : Option User)⟩ ∈ now.1.2 →
      kindOf userId = .user
  /-- The registered passwords. -/
  nodes : ∀ kind, ∀ node ∈ (now.2.head kind).nodes,
    Traced entries now.1.2 node.userId node.userPassword
  /-- The accepted passwords. -/
  checks : Throughout (AcceptsTraced entries) now.1.2

/-- A node of a row. -/
theorem traced_node {entry : Entry} (given : Given entries log entry) :
    Traced entries log entry.node.userId entry.node.userPassword :=
  .row entry _ _ given (cstr_cstr _).symm (cstr_cstr _).symm

/-- The nodes after a row was added. -/
theorem mem_addtoLocal {kind : Kind} {entry : Entry} {node : User}
    (member : node ∈ ((registered.addtoLocal entry).head kind).nodes) :
    node = entry.node ∨ node ∈ (registered.head kind).nodes := by
  rw [Lists.addtoLocal] at member
  cases list : kindOf entry.userId <;> rw [list] at member <;> cases kind <;>
    first | exact List.mem_cons.mp member | exact .inr member

/-- The passwords that were loaded are those of rows. -/
theorem loaded_traced (given : ∀ entry ∈ entries, Given entries log entry) (kind : Kind) :
    ∀ node ∈ ((loaded entries).head kind).nodes,
      Traced entries log node.userId node.userPassword := by
  have grows (rest : List Entry) (among : rest ⊆ entries) (lists : Lists)
      (traced : ∀ node ∈ (lists.head kind).nodes,
        Traced entries log node.userId node.userPassword) :
      ∀ node ∈ ((rest.foldl Lists.addtoLocal lists).head kind).nodes,
        Traced entries log node.userId node.userPassword := by
    induction rest generalizing lists with
    | nil => exact traced
    | cons entry rest ih =>
      apply ih fun other later => among (List.mem_cons_of_mem _ later)
      intro node member
      rcases mem_addtoLocal member with rfl | old
      · exact traced_node (given entry (among List.mem_cons_self))
      · exact traced node old
  apply grows entries (List.Subset.refl _)
  intro node member
  cases kind <;> cases member

/-- Before the first connection every password is that of a row. -/
theorem custody_initial (config : Config) (entries : List Entry) :
    Custody config entries ((.initial, []), loaded entries) where
  told := told_initial config
  kinded := loaded_kinded entries
  heads _ _ member := by cases member
  finds _ _ _ member := by cases member
  nodes kind node member := loaded_traced (fun entry known => .inl known) kind node member
  checks := throughout_nil

/-- A check accepts traced passwords afterwards if it did before. -/
theorem AcceptsTraced.snoc {note : Note} (checks : Throughout (AcceptsTraced entries) log)
    (accepts : AcceptsTraced entries log note) :
    Throughout (AcceptsTraced entries) (log ++ [note]) :=
  (throughout_snoc _ _).mpr ⟨checks, accepts⟩

/-- A packet that is received keeps the custody of the passwords. -/
theorem Custody.receive (custody : Custody config entries ((server, log), registered))
    {record : CLN} {packet : Bytes} {allocated : Bool}
    (told : Told config (after, log ++ [.received conn record packet allocated object])) :
    Custody config entries
      ((after, log ++ [.received conn record packet allocated object]), registered) where
  told := told
  kinded := custody.kinded
  heads other first member := by
    rcases List.mem_append.mp member with old | new
    · exact custody.heads other first old
    · cases List.mem_singleton.mp new
  finds other userId node member := by
    rcases List.mem_append.mp member with old | new
    · exact custody.finds other userId node old
    · cases List.mem_singleton.mp new
  nodes kind node member := (custody.nodes kind node member).mono _
  checks := AcceptsTraced.snoc custody.checks trivial

/-- A name that was found among the users is a user's. -/
theorem Custody.user (custody : Custody config entries ((server, log), registered))
    (named : NamesUser (deeds log object) userId) : kindOf userId = .user := by
  rcases named with ⟨first, headed, same⟩ | ⟨node, found⟩
  · rw [kindOf_of_cstr ((streq_iff _ _).mp same)]
    exact custody.heads object first (mem_deeds.mp headed)
  · exact custody.finds object userId node (mem_deeds.mp found)

/-- A password that was accepted is traced. -/
theorem Custody.accepted (custody : Custody config entries ((server, log), registered))
    {check : Int} (member : .did object ⟨.checkIdPwd 0 userId userPassword, check⟩ ∈ log)
    (right : check ≠ -1) : Traced entries log userId userPassword := by
  obtain ⟨before, later, rfl⟩ := List.append_of_mem member
  have traced := custody.checks before _ later rfl rfl right
  exact traced.mono _

/-- The lists give the top of the list of a kind. -/
theorem headed_after {kind : Kind} {top : Option User}
    (stepped : ((Directory.mk registered online).after ⟨.registedHead kind, top⟩).map
      Directory.registered = some lists) : top = (registered.head kind).nodes.head? := by
  obtain ⟨directory, changed, -⟩ := Option.map_eq_some_iff.mp stepped
  change (if top = (registered.head kind).nodes.head? then
    some (Directory.mk registered online) else none) = some directory at changed
  split at changed
  · assumption
  · cases changed

/-- The registered passwords after an operation of a request. -/
theorem Custody.nodes_after (custody : Custody config entries ((server, log), registered))
    {request : CLN} (requested : Requested log object request)
    (rests : Rests request.renewal (deeds log object) op)
    (stepped : ((Directory.mk registered online).after ⟨op, response⟩).map Directory.registered =
      some lists) (kind : Kind) :
    ∀ node ∈ (lists.head kind).nodes,
      Traced entries (log ++ [.did object ⟨op, response⟩]) node.userId node.userPassword := by
  obtain ⟨directory, changed, rfl⟩ := Option.map_eq_some_iff.mp stepped
  intro node member
  have old (member : node ∈ (registered.head kind).nodes) :
      Traced entries (log ++ [.did object ⟨op, response⟩]) node.userId node.userPassword :=
    (custody.nodes kind node member).mono _
  have other (registers : ∀ entry, op ≠ .addtoLocal entry)
      (renews : ∀ userId userPassword, op ≠ .setRegisterPassword userId userPassword) :
      Traced entries (log ++ [.did object ⟨op, response⟩]) node.userId node.userPassword := by
    rw [registered_after changed registers renews] at member
    exact old member
  cases op with
  | addtoLocal entry =>
    simp only [Directory.after] at changed
    split at changed
    · rename_i added
      obtain rfl : response = (1 : Int) := added
      obtain rfl := Option.some.inj changed
      rcases mem_addtoLocal member with rfl | before
      · have given : Given entries (log ++ [.did object ⟨.addtoLocal entry, (1 : Int)⟩]) entry :=
          .inr ⟨object, deeds log object, [], rests, deeds_snoc_did _ _ _⟩
        exact traced_node given
      · exact old before
    · split at changed
      · obtain rfl := Option.some.inj changed
        exact old member
      · cases changed
  | setRegisterPassword userId userPassword =>
    obtain rfl := Option.some.inj changed
    cases kind with
    | iot => exact old member
    | user =>
      rcases setNode_cases member with before | ⟨password, name⟩
      · exact old before
      · obtain ⟨b, renewal, rfl, rfl, named, known⟩ := rests
        have given := mem_deeds.mp known
        have traced := custody.accepted given (by decide)
        have changes : .did object ⟨.setRegisterPassword b.userId b.reUserPassword, ()⟩ ∈
            log ++ [.did object ⟨.setRegisterPassword b.userId b.reUserPassword, response⟩] :=
          List.mem_append_right _ List.mem_cons_self
        apply Traced.renewed object request b _ _ (requested_append.mpr (.inl requested)) renewal
          (custody.user named) (traced.mono _) (List.mem_append_left _ given) changes
        · exact (streq_iff _ _).mp name
        · rw [password]
  | _ => exact other (fun _ => Op.noConfusion) fun _ _ => Op.noConfusion

/-- A check accepts a password of a registered node. -/
theorem Custody.accepts (custody : Custody config entries ((server, log), registered))
    (stepped : ((Directory.mk registered online).after ⟨op, response⟩).map Directory.registered =
      some lists) : AcceptsTraced entries log (.did object ⟨op, response⟩) := by
  cases op with
  | checkIdPwd n userId userPassword =>
    intro signs right
    subst signs
    have answer := check_after stepped
    rw [answer] at right
    obtain ⟨node, member, name, password⟩ := checkIdPwd_found right
    have traced := custody.nodes _ node member
    exact traced.congr ((streq_iff _ _).mp name).symm ((streq_iff _ _).mp password).symm
  | _ => trivial

/-- An operation of a task. -/
theorem Custody.did (custody : Custody config entries ((server, log), registered))
    {request : CLN} (requested : Requested log object request)
    (rests : Rests request.renewal (deeds log object) op)
    (told : Told config (after, log ++ [.did object ⟨op, response⟩]))
    (stepped : ((Directory.mk registered online).after ⟨op, response⟩).map Directory.registered =
      some lists) :
    Custody config entries ((after, log ++ [.did object ⟨op, response⟩]), lists) where
  told := told
  kinded := (keeps_after stepped).1 custody.kinded
  heads other first member := by
    rcases List.mem_append.mp member with old | new
    · exact custody.heads other first old
    · obtain ⟨rfl, same⟩ := Note.did.inj (List.mem_singleton.mp new)
      rw [← same] at stepped
      have top : registered.users.nodes.head? = some first := (headed_after stepped).symm
      exact custody.kinded .user first (List.mem_of_mem_head? top)
  finds other userId node member := by
    rcases List.mem_append.mp member with old | new
    · exact custody.finds other userId node old
    · obtain ⟨rfl, same⟩ := Note.did.inj (List.mem_singleton.mp new)
      rw [← same] at stepped
      have found : registered.users.nodes.find? (Lookup.name userId).matches = some node :=
        (search_after stepped).symm
      have named : (Lookup.name userId).matches node = true := List.find?_some found
      rw [kindOf_of_cstr ((streq_iff _ _).mp named)]
      exact custody.kinded .user node (List.mem_of_find?_eq_some found)
  nodes := custody.nodes_after requested rests stepped
  checks := AcceptsTraced.snoc custody.checks (custody.accepts stepped)

/-- A turn keeps the custody of the passwords. -/
theorem custody_turn (config : Config) (entries : List Entry) (now : Listed) (turn : Turn)
    (next : Listed) (custody : Custody config entries now)
    (turned : (listed config).step now turn = some next) : Custody config entries next := by
  have told := told_turn config now.1 turn next.1 custody.told (listed_step turned).1
  obtain ⟨⟨server, log⟩, registered⟩ := now
  obtain ⟨⟨after, history⟩, lists⟩ := next
  obtain ⟨conn, record, packet, allocated, known, received, rfl, rfl⟩ |
    ⟨index, task, op, rest, response, memory, found, program, rfl, rfl, answers⟩ |
    ⟨fewer, rfl, rfl⟩ := listed_cases turned
  · exact custody.receive told
  · obtain ⟨requested, comes⟩ := custody.told.pooled task (List.mem_of_getElem? found)
    rw [program] at comes
    have rests : Rests task.request.renewal (deeds log task.object) op :=
      (talk_rests config task.request []).comes comes
    exact custody.did requested rests told answers
  · exact { custody with told := told }

/-- In every run of defined turns, every registered password and every password that a check accepts
is that of a row that was loaded or that a reload has read, or leads back to one by changes that gave
the password before. -/
theorem passwords_traced (config : Config) (entries : List Entry)
    (choices : List (Turn × Listed × NodeNumbers)) (now : Listed × NodeNumbers)
    (ran : (wild (fun now : Listed => now.1.1) (listed config)).run
      (((.initial, []), loaded entries), .initial) choices = some now)
    (defined : (wild (fun now : Listed => now.1.1) (listed config)).Meets
      (Defined fun now : Listed => now.1.1) (((.initial, []), loaded entries), .initial) choices) :
    (∀ kind, ∀ node ∈ (now.1.2.head kind).nodes,
      Traced entries now.1.1.2 node.userId node.userPassword) ∧
      Throughout (AcceptsTraced entries) now.1.1.2 := by
  have custody : Custody config entries now.1 :=
    run_preserved (custody_turn config entries) (custody_initial config entries)
      (wild_run defined ran)
  exact ⟨custody.nodes, custody.checks⟩

end

/-- An `RPA` packet of a user, with the old and the new password. -/
def rpaPacket : Bytes :=
  text "RPA" ++ zeros 15 ++ text "13800000000" ++ zeros 1 ++ text "secret" ++ zeros 39 ++
    text "renewed" ++ zeros 124

/-- The only user changes the password; the reload before finds no connection to the database. -/
def changesPassword (entry : Entry) : List Turn :=
  .event (.receive 0 rpaPacket true) ::
    [.unit, .bytes [], .found (some entry.node), .node none, .found (some entry.node), .int 1,
      .unit].map (.step 1)

/-- A user connects and changes the password. -/
def connectsAndChanges : List (Turn × Listed × NodeNumbers) :=
  certain ((.initial, []), loaded []) (greets ++ changesPassword (entryOf "13800000000" 7))

/-- The password after a change. -/
theorem passwords_traced_change : ∃ now : Listed × NodeNumbers,
    (wild (fun now : Listed => now.1.1) (listed ⟨id, []⟩)).run
        (((.initial, []), loaded [entryOf "13800000000" 7]), .initial) connectsAndChanges =
          some now ∧
      now.1.2.users.nodes.map (fun node => cstr node.userPassword) = [text "renewed"] ∧
      (∀ kind, ∀ node ∈ (now.1.2.head kind).nodes,
        Traced [entryOf "13800000000" 7] now.1.1.2 node.userId node.userPassword) := by
  have renewed : ((wild (fun now : Listed => now.1.1) (listed ⟨id, []⟩)).run
      (((.initial, []), loaded [entryOf "13800000000" 7]), .initial) connectsAndChanges).any
        (fun now => now.1.2.users.nodes.map (fun node => cstr node.userPassword) =
          [text "renewed"]) = true := by
    decide +kernel
  obtain ⟨now, ran, changed⟩ := (Option.any_eq_true _ _).mp renewed
  exact ⟨now, ran, of_decide_eq_true changed,
    (passwords_traced _ _ _ now ran (by decide +kernel)).1⟩

end UubangIot
