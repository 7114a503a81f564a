import UubangIot.Server.Database

/-!
# The registered lists

The in-memory copies of the tables `user` and `iotnode`: what the list functions compute, and
the handlers that register somebody and reload the lists. A reload asks for the rows above the
key of the first node.
-/

namespace UubangIot

open Effect

/-- `OnlineUserHead` — a counter and the nodes from `next` on. -/
structure ListHead where
  /-- `OnlineUserNum`. -/
  onlineUserNum : Int
  /-- The nodes in list order. -/
  nodes : List User
  deriving DecidableEq, Repr

/-- Push a node in front, counting it. -/
def ListHead.push (head : ListHead) (node : User) : ListHead :=
  ⟨head.onlineUserNum + 1, node :: head.nodes⟩

/-- The two lists of one registry. -/
structure Lists where
  /-- `RegistedUserHead` or `onlineUserHead`. -/
  users : ListHead
  /-- `RegistedIotHead` or `onlineIotHead`. -/
  iots : ListHead
  deriving DecidableEq, Repr

/-- The list of a kind. -/
def Lists.head (lists : Lists) : Kind → ListHead
  | .user => lists.users
  | .iot => lists.iots

/-- Replace the list of a kind. -/
def Lists.setHead (lists : Lists) : Kind → ListHead → Lists
  | .user, head => { lists with users := head }
  | .iot, head => { lists with iots := head }

/-- Empty lists. -/
def Lists.empty : Lists := ⟨⟨0, []⟩, ⟨0, []⟩⟩

/-- `FindRegisterUserOrIotNode` and `FindOnlineUserOrIot` — the first node that answers. -/
def Lists.find (lists : Lists) (kind : Kind) (lookup : Lookup) : Option User :=
  (lists.head kind).nodes.find? lookup.matches

/-- Loop of `Check_Id_Pwd` for a registration: it compares a node only while another follows. -/
def registerLoop (userId : Bytes) : List User → Int
  | tag :: next :: rest => if streq userId tag.userId then 1 else registerLoop userId (next :: rest)
  | _ => -1

/-- `Check_Id_Pwd` — for a sign-in (0) id and password of some node, for a registration the
id; 1 when found, -1 when not. -/
def Lists.checkIdPwd (lists : Lists) (n : Int) (userId userPassword : Bytes) : Int :=
  match (lists.head (kindOf userId)).nodes with
  | [] => -1
  | tag :: rest =>
    if n = 0 then
      if (tag :: rest).any fun node =>
          streq userId node.userId && streq userPassword node.userPassword then 1 else -1
    else if streq userId tag.userId then 1 else registerLoop userId (tag :: rest)

/-- The node `AddtoLocal` makes; a device's class goes before its date. -/
def Entry.node (entry : Entry) : User :=
  { userSocket := 0, userId := cstr entry.userId, userKeyId := entry.userKeyId
    userPassword := cstr entry.userPassword, connHandle := 0, allocated := true
    info := match kindOf entry.userId with
      | .iot => cstr entry.checkcode ++ underscore :: cstr entry.info ++ [underscore]
      | .user => cstr entry.info }

/-- `AddtoLocal` — in front of the list its id length selects. -/
def Lists.addtoLocal (lists : Lists) (entry : Entry) : Lists :=
  let kind := kindOf entry.userId
  lists.setHead kind ((lists.head kind).push entry.node)

/-- `strcpy` of a password into the first node of a name. -/
def setNode (userId passWord : Bytes) : List User → List User
  | [] => []
  | node :: nodes =>
    if streq userId node.userId then { node with userPassword := passWord } :: nodes
    else node :: setNode userId passWord nodes

/-- The list of users with a password set. -/
def Lists.setPassword (lists : Lists) (userId passWord : Bytes) : Lists :=
  { lists with users := { lists.users with nodes := setNode userId passWord lists.users.nodes } }

/-- The registration row of a user as a list entry; `checkcode` is whatever it was. -/
def userEntry (checkcode : Bytes) (row : Row) : Entry :=
  ⟨column row 1, column row 3, atoi (column row 0), column row 4, checkcode⟩

/-- The registration row of a device as a list entry. -/
def iotEntry (row : Row) : Entry :=
  ⟨column row 1, column row 3, atoi (column row 0), column row 4, column row 2⟩

/-- `while ((row = mysql_fetch_row(res))) AddtoLocal(&a)`. -/
def addRows (entry : Row → Entry) : List Row → Handler Unit
  | [] => return ()
  | row :: rows => do
    let _ ← perform (.addtoLocal (entry row))
    addRows entry rows

/-- Query the newer rows on a node and add them, then go on; a failed query gives the node back
and ends the reload. -/
def fetchRows (node : Nat) (statement : Statement) (entry : Row → Entry) (next : Handler Int) :
    Handler Int := do
  match ← perform (.realQuery node statement) with
  | .failed _ =>
    perform (.releaseNode node)
    return -1
  | .done =>
    match ← perform (.storeResult node) with
    | none => faulty
    | some rows =>
      addRows entry rows
      next

/-- `UpdateLocalRegUserAndIotlist` after the users, on the node it has given back. -/
def updateLocalIotlist (node : Nat) : Handler Int := do
  match ← perform (.registedHead .iot) with
  | none => return 1
  | some _ =>
    perform (.lockMute .iot)
    match ← perform (.registedHead .iot) with
    | none => faulty
    | some top =>
      fetchRows node (.selectIotNodesAbove top.userKeyId) iotEntry do
        perform (.unlockMute .iot)
        perform (.releaseNode node)
        return 1

/-- `UpdateLocalRegUserAndIotlist`. -/
def updateLocalRegUserAndIotlist : Handler Int := do
  perform (.lockMute .user)
  let checkcode ← perform .uninitialisedText
  match ← perform (.registedHead .user) with
  | none => faulty
  | some top =>
    match ← perform .getDbConnect with
    | none => return 0
    | some node =>
      fetchRows node (.selectUsersAbove top.userKeyId) (userEntry checkcode) do
        perform (.unlockMute .user)
        perform (.releaseNode node)
        updateLocalIotlist node

/-- `UserRegiter` — a row in `user`, then one in `iotserverinfo`. -/
def userRegiter (a : CLN) : Handler Int := do
  match ← perform .getDbConnect with
  | none => return 0
  | some node =>
    match ← perform (.realQuery node
        (.insertUser (cstr a.userId) (cstr a.info) (cstr a.userPassword) (cstr a.data))) with
    | .failed _ =>
      perform (.releaseNode node)
      return -1
    | .done =>
      match ← perform (.realQuery node .insertServerInfo) with
      | .failed _ =>
        perform (.releaseNode node)
        return -1
      | .done => return 1

/-- `IotRegister` — a row in `iotnode`; a duplicate is no error. -/
def iotRegister (a : CLN) (devClass : Int) : Handler Int := do
  match ← perform .getDbConnect with
  | none => return 0
  | some node =>
    match ← perform (.realQuery node
        (.insertIotNode (cstr a.userId) devClass (cstr a.userPassword))) with
    | .failed false =>
      perform (.releaseNode node)
      return -1
    | _ =>
      perform (.releaseNode node)
      return 1

/-- `(int)a->info[3]`, the device class of a registration. -/
def CLN.info3 (a : CLN) : Int := (a.info.getD 3 0).toInt8.toInt

/-- The insertion `Register` chooses by its method. -/
def registerRow (a : CLN) (method : Int) : Handler Int :=
  if method = 1 then iotRegister a a.info3 else userRegiter a

/-- `Register` — refuse a known id, insert a row, reload the lists. -/
def register (a : CLN) (method : Int) : Handler Int := do
  let known : Int ← perform (.checkIdPwd 1 a.userId a.userPassword)
  if known = 1 then return -1
  else
    let inserted ← registerRow a method
    if inserted = -1 then return -1
    else
      let _ ← updateLocalRegUserAndIotlist
      return 1

/-- `Register` as a sequence of its parts. -/
theorem register_eq (a : CLN) (method : Int) :
    register a method = .call (.checkIdPwd 1 a.userId a.userPassword) fun (known : Int) =>
      if known = 1 then .ret (-1)
      else registerRow a method >>= fun inserted =>
        if inserted = -1 then .ret (-1)
        else updateLocalRegUserAndIotlist >>= fun _ => .ret 1 := rfl

/-- `UserRePwd` — the first node's password changes in memory only, another's in the table
first. -/
def userRePwd (a : CLN) : Handler Int := do
  let tag ← perform (.registedHead .user)
  let known : Int ← perform (.checkIdPwd 0 a.userId a.userPassword)
  if known = 1 then
    match tag with
    | none => return -1
    | some first =>
      if streq a.userId first.userId then
        perform (.setRegisterPassword a.userId a.reUserPassword)
        return 1
      else
        match ← perform (.findRegister .user (.name a.userId)) with
        | none => return 0
        | some _ =>
          match ← perform .getDbConnect with
          | none => return 0
          | some node =>
            match ← perform (.realQuery node
                (.updatePassword (cstr a.reUserPassword) a.userKeyId)) with
            | .failed _ =>
              perform (.releaseNode node)
              return -1
            | .done =>
              perform (.setRegisterPassword a.userId a.reUserPassword)
              perform (.releaseNode node)
              return 1
  else return -1

/-- The part of `initServer` that fills the lists: every row of `user`, then every row of
`iotnode`, whose `info` column is its id there. -/
def loadRegistry (userRows iotRows : List Row) : Lists :=
  let blank := zeros 18
  let users := userRows.foldl (fun lists row => lists.addtoLocal (userEntry blank row)) .empty
  iotRows.foldl
    (fun lists row => lists.addtoLocal { iotEntry row with info := column row 0 }) users

end UubangIot
