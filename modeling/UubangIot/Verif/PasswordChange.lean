import Mathlib.Data.List.Nodup
import UubangIot.Server.Registry
import UubangIot.Verif.TextFacts

/-!
# Password changes against the user table

`UserRePwd` has a branch for the first registered user, which changes memory only, and one for the
others, which addresses the row by the connection's key and the node by the request's name.
-/

namespace UubangIot

open Effect Effect.Prog

/-! ## Accounts in memory and in the table -/

/-- A row of `user`: its id, name and password. -/
structure Account where
  id : Int
  userId : Bytes
  passWord : Bytes
  deriving DecidableEq, Repr

/-- The account of a registered node. -/
def User.account (node : User) : Account := ⟨node.userKeyId, node.userId, node.userPassword⟩

/-- The registered lists and the table `user`. -/
structure Accounts where
  lists : Lists
  rows : List Account

/-- The list of users agrees with the table, whose ids are its key. -/
structure Accounts.Agree (accounts : Accounts) : Prop where
  same : ∀ account, account ∈ accounts.rows ↔ account ∈ accounts.lists.users.nodes.map User.account
  keyed : (accounts.rows.map Account.id).Nodup

/-- `UPDATE user SET passWord … WHERE id`. -/
def setRow (rows : List Account) (id : Int) (passWord : Bytes) : List Account :=
  rows.map fun row => if row.id = id then { row with passWord } else row

/-- The operations over the accounts, with the node and the result of the database query. -/
def Accounts.handle (db : Option (Nat × QueryResult)) (accounts : Accounts) :
    (op : Op) → Option (op.Res × Accounts)
  | .registedHead kind => some ((accounts.lists.head kind).nodes.head?, accounts)
  | .checkIdPwd n userId userPassword =>
    some (accounts.lists.checkIdPwd n userId userPassword, accounts)
  | .findRegister kind lookup => some (accounts.lists.find kind lookup, accounts)
  | .setRegisterPassword userId userPassword =>
    some ((), { accounts with lists := accounts.lists.setPassword userId (cstr userPassword) })
  | .getDbConnect => some (db.map (·.1), accounts)
  | .realQuery _ (.updatePassword passWord id) =>
    match db with
    | some (_, .done) => some (.done, { accounts with rows := setRow accounts.rows id passWord })
    | some (_, .failed duplicate) => some (.failed duplicate, accounts)
    | none => none
  | .releaseNode _ => some ((), accounts)
  | _ => none

/-! ## What a change leaves -/

/-- Memory and table are in step: a change is in the node and in the row of the user that the
request names, and nowhere else; anything else changes nothing. -/
def InStep (a : CLN) (before after : Accounts) (result : Int) : Prop :=
  if result = 1 then
    ∃ node, before.lists.find .user (.name a.userId) = some node ∧
      after.lists = before.lists.setPassword a.userId (cstr a.reUserPassword) ∧
      after.rows = setRow before.rows node.userKeyId (cstr a.reUserPassword)
  else after = before

/-- The node that is changed is not the first and has the connection's key, or the rows concerned
hold the new password already. -/
def KeyedChange (a : CLN) (accounts : Accounts) (node : User) : Prop :=
  if accounts.lists.users.nodes.head? = some node then
    node.userPassword = cstr a.reUserPassword
  else node.userKeyId = a.userKeyId ∨ node.userPassword = cstr a.reUserPassword ∧
    ∀ row ∈ accounts.rows, row.id = a.userKeyId → row.passWord = cstr a.reUserPassword

variable {a : CLN} {accounts : Accounts} {db : Option (Nat × QueryResult)} {rows : List Account}

/-- What an update makes of one row. -/
theorem setRow_entry (row : Account) (id : Int) (passWord : Bytes) :
    (if row.id = id then { row with passWord } else row) = row ↔
      (row.id = id → row.passWord = passWord) := by
  constructor
  · intro same named
    rw [if_pos named] at same
    exact (congrArg Account.passWord same).symm
  · intro held
    split
    · rename_i named
      rw [← held named]
    · rfl

/-- An update that changes nothing. -/
theorem setRow_eq_self_iff (id : Int) (passWord : Bytes) :
    setRow rows id passWord = rows ↔ ∀ row ∈ rows, row.id = id → row.passWord = passWord := by
  have pointwise : setRow rows id passWord = rows.map (fun row => row) ↔ _ := List.map_inj_left
  rw [List.map_id'] at pointwise
  rw [pointwise]
  exact forall₂_congr fun row _ => setRow_entry row id passWord

/-- Two updates with one password. -/
theorem setRow_eq_iff (first second : Int) (passWord : Bytes) :
    setRow rows first passWord = setRow rows second passWord ↔
      first = second ∨ (∀ row ∈ rows, row.id = first → row.passWord = passWord) ∧
        ∀ row ∈ rows, row.id = second → row.passWord = passWord := by
  by_cases same : first = second
  · simp [same]
  rw [or_iff_right same, setRow, setRow, List.map_inj_left, ← forall₂_and]
  refine forall₂_congr fun row _ => ?_
  rw [← setRow_entry, ← setRow_entry]
  by_cases isFirst : row.id = first
  · have notSecond : ¬row.id = second := fun named => same (isFirst.symm.trans named)
    rw [if_pos isFirst, if_neg notSecond]
    simp
  · rw [if_neg isFirst]
    simp [eq_comm]

/-- The row of a node holds a password when the node does. -/
theorem Accounts.Agree.holds_iff (agree : accounts.Agree) {node : User}
    (member : node ∈ accounts.lists.users.nodes) (passWord : Bytes) :
    (∀ row ∈ accounts.rows, row.id = node.userKeyId → row.passWord = passWord) ↔
      node.userPassword = passWord := by
  have stored : node.account ∈ accounts.rows := (agree.same _).mpr (List.mem_map_of_mem member)
  constructor
  · intro held
    exact held node.account stored rfl
  · intro held row listed named
    have same : row = node.account := List.inj_on_of_nodup_map agree.keyed listed stored named
    rw [same]
    exact held

/-- The first node answers exactly when it has the name. -/
theorem find_head {lists : Lists} {node first : User} {userId : Bytes}
    (head : lists.users.nodes.head? = some first)
    (found : lists.find .user (.name userId) = some node) :
    streq userId first.userId = true ↔ lists.users.nodes.head? = some node := by
  have matched : (Lookup.name userId).matches node = true := List.find?_some found
  obtain ⟨rest, nodes⟩ := List.head?_eq_some_iff.mp head
  rw [Lists.find, Lists.head, nodes] at found
  rw [head]
  constructor
  · intro named
    have answers : (Lookup.name userId).matches first = true := named
    rw [List.find?_cons_of_pos answers] at found
    exact found
  · intro same
    rw [Option.some.inj same]
    exact matched

/-- A node that is found is in the list. -/
theorem find_member {lists : Lists} {node : User} {userId : Bytes}
    (found : lists.find .user (.name userId) = some node) : node ∈ lists.users.nodes :=
  List.mem_of_find?_eq_some found

/-- The update of a row and a node. -/
def updateAccount (a : CLN) : Handler Int := do
  match ← perform .getDbConnect with
  | none => return 0
  | some node =>
    match ← perform (.realQuery node (.updatePassword (cstr a.reUserPassword) a.userKeyId)) with
    | .failed _ =>
      perform (.releaseNode node)
      return -1
    | .done =>
      perform (.setRegisterPassword a.userId a.reUserPassword)
      perform (.releaseNode node)
      return 1

/-- The branches of `UserRePwd` after its check. -/
def changePassword (a : CLN) (tag : Option User) : Handler Int :=
  match tag with
  | none => return -1
  | some first => do
    if streq a.userId first.userId then
      perform (.setRegisterPassword a.userId a.reUserPassword)
      return 1
    else
      match ← perform (.findRegister .user (.name a.userId)) with
      | none => return 0
      | some _ => updateAccount a

/-- `UserRePwd` checks the old password and then changes it. -/
theorem exec_checked (accounts : Accounts) (db : Option (Nat × QueryResult)) (a : CLN) :
    (userRePwd a).exec (Accounts.handle db) accounts =
      (if accounts.lists.checkIdPwd 0 a.userId a.userPassword = 1 then
        changePassword a accounts.lists.users.nodes.head? else .ret (-1)).exec (Accounts.handle db)
          accounts := rfl

/-- A change that was made, with an update of a row or without. -/
theorem changed_in_step_iff {node : User} {after : Accounts}
    (found : accounts.lists.find .user (.name a.userId) = some node)
    (listed : after.lists = accounts.lists.setPassword a.userId (cstr a.reUserPassword)) :
    InStep a accounts after 1 ↔
      after.rows = setRow accounts.rows node.userKeyId (cstr a.reUserPassword) := by
  rw [InStep, if_pos rfl]
  constructor
  · rintro ⟨other, answered, -, stored⟩
    rw [found] at answered
    rw [Option.some.inj answered]
    exact stored
  · intro stored
    exact ⟨node, found, listed, stored⟩

/-- Where a change leaves everything as it was. -/
theorem refused_in_step (result : Int) (refused : result ≠ 1) : InStep a accounts accounts result := by
  rw [InStep, if_neg refused]

/-- A change of the first node, in memory only. -/
theorem first_in_step_iff (agree : accounts.Agree) {first : User}
    (head : accounts.lists.users.nodes.head? = some first)
    (found : accounts.lists.find .user (.name a.userId) = some first) :
    InStep a accounts { accounts with
        lists := accounts.lists.setPassword a.userId (cstr a.reUserPassword) } 1 ↔
      KeyedChange a accounts first := by
  rw [changed_in_step_iff found rfl, KeyedChange, if_pos head, eq_comm, setRow_eq_self_iff,
    agree.holds_iff (find_member found)]

/-- A change of another node and of the row of the connection's key. -/
theorem other_in_step_iff (agree : accounts.Agree) {node : User}
    (head : accounts.lists.users.nodes.head? ≠ some node)
    (found : accounts.lists.find .user (.name a.userId) = some node) :
    InStep a accounts ⟨accounts.lists.setPassword a.userId (cstr a.reUserPassword),
        setRow accounts.rows a.userKeyId (cstr a.reUserPassword)⟩ 1 ↔
      KeyedChange a accounts node := by
  rw [changed_in_step_iff found rfl, KeyedChange, if_neg head, eq_comm, setRow_eq_iff,
    agree.holds_iff (find_member found)]

/-- A registered user. -/
def registered (userId : String) (key : Int) : User :=
  ⟨0, text userId, key, text "old", [], 0, true⟩

/-- Two users, the second registered first. -/
def twoAccounts : Accounts where
  lists := ⟨⟨2, [registered "13900000002" 2, registered "13900000001" 1]⟩, ⟨0, []⟩⟩
  rows := [⟨1, text "13900000001", text "old"⟩, ⟨2, text "13900000002", text "old"⟩]

/-- They agree with their table. -/
theorem twoAccounts_agree : twoAccounts.Agree where
  same account := by
    change account ∈ [_, _] ↔ account ∈ [_, _]
    simp only [List.mem_cons, List.not_mem_nil, or_false]
    exact or_comm
  keyed := by decide

/-- A request for a new password. -/
def rePwdRequest (userId : String) (key : Int) : CLN :=
  { CLN.zero with
    userId := text userId ++ [0]
    userKeyId := key
    userPassword := text "old" ++ [0]
    reUserPassword := text "new" ++ [0] }

end UubangIot
