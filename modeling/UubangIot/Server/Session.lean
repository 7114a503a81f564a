import UubangIot.Server.Registry

/-!
# The online lists and signing in

What a removal and an insertion do to the online lists, and `SIGNIN` over them. A removal past
the first node unlinks the node it found and then frees the one that followed it.
-/

namespace UubangIot

open Effect

/-- The node of an id on a socket, as `delete_out_user` compares it. -/
def owns (userId : Bytes) (socket : Nat) (node : User) : Bool :=
  streq userId node.userId && socket = node.userSocket

/-- `free(Tag->next)` after the link has moved on: the node now in front loses its memory. It stays in
the list with what it held; a search that comes to it is undefined (`readsFreed`). -/
def freeFirst : List User → List User
  | [] => []
  | node :: rest => { node with allocated := false } :: rest

/-- `while(Tag->next != NULL)` of `delete_out_user`, over the nodes after `Tag`: none when no
node is the one searched for. -/
def unlinkLoop (userId : Bytes) (socket : Nat) : List User → Option (List User)
  | [] => none
  | next :: rest =>
    if owns userId socket next then some (freeFirst rest)
    else (unlinkLoop userId socket rest).map (next :: ·)

/-- The removal within one list: the first node is unlinked and freed itself. -/
def unlink (userId : Bytes) (socket : Nat) : List User → Option (List User)
  | [] => none
  | tag :: rest =>
    if owns userId socket tag then some rest
    else (unlinkLoop userId socket rest).map (tag :: ·)

/-- `delete_out_user` — 1 and the lists without the node, or 0; an id of fewer than six
characters is never removed. -/
def Lists.deleteOutUser (lists : Lists) (userId : Bytes) (socket : Nat) : Int × Lists :=
  if strlen userId < 6 then (0, lists)
  else
    let kind := kindOf userId
    match unlink userId socket (lists.head kind).nodes with
    | none => (0, lists)
    | some nodes => (1, lists.setHead kind ⟨(lists.head kind).onlineUserNum - 1, nodes⟩)

/-- The node `newOnlineUserOrIotDev` makes of a request. -/
def CLN.node (a : CLN) : User :=
  { userSocket := a.socket, userId := cstr a.userId, userKeyId := a.userKeyId
    userPassword := cstr a.userPassword, info := cstr a.info, connHandle := a.conn
    allocated := true }

/-- `newOnlineUserOrIotDev` — in front of the list its id length selects. -/
def Lists.newOnlineUserOrIotDev (lists : Lists) (a : CLN) : Lists :=
  let kind := kindOf a.userId
  lists.setHead kind ((lists.head kind).push a.node)

/-- A reply with a code and nothing else. -/
def reply (checkcode : String) : Frame := .user { checkcode := text checkcode }

/-- `SIGNIN` of an id that is not online. The key goes into the new node and is not read in the
request again. -/
def signInNew (kind : Kind) (a : CLN) : Handler Int := do
  match ← perform (.findRegister kind (.name a.userId)) with
  | none => return -1
  | some registered =>
    perform (.setConnUserKeyId a.conn registered.userKeyId)
    let _ ← perform (.newOnlineUserOrIotDev { a with userKeyId := registered.userKeyId })
    return 1

/-- `SIGNIN` over the online node of a user, which gives its key and is told to sign out. The source
reads the socket of the notice from the node after its removal. Here it is that of the search; where
the node is freed by then, at the head of its list, the send is undefined (`FoundNode.dangles`). -/
def replaceUser (a : CLN) (node : User) : Handler Int := do
  let _ ← perform (.deleteOutUser a.userId node.userSocket)
  let _ ← perform (.send node.userSocket (reply "STO"))
  let _ ← perform (.newOnlineUserOrIotDev { a with userKeyId := node.userKeyId })
  return 1

/-- `SIGNIN` over the online node of a device, whose key comes from its registration. -/
def replaceDevice (a : CLN) (node : User) : Handler Int := do
  match ← perform (.findRegister .iot (.name a.userId)) with
  | none =>
    let _ ← perform (.deleteOutUser a.userId node.userSocket)
    let _ ← perform (.newOnlineUserOrIotDev a)
    return 1
  | some registered =>
    perform (.setConnUserKeyId a.conn registered.userKeyId)
    let _ ← perform (.deleteOutUser a.userId node.userSocket)
    let _ ← perform (.newOnlineUserOrIotDev { a with userKeyId := registered.userKeyId })
    return 1

/-- `SIGNIN` after its search. -/
def signInFound (a : CLN) : Kind → Option User → Handler Int
  | kind, none => signInNew kind a
  | .user, some node => replaceUser a node
  | .iot, some node => replaceDevice a node

/-- `SIGNIN` for one kind of id. -/
def signInAs (kind : Kind) (a : CLN) : Handler Int := do
  let check : Int ← perform (.checkIdPwd 0 a.userId a.userPassword)
  let checkuser ← perform (.findOnline kind (.name a.userId))
  if check = -1 then return -1 else signInFound a kind checkuser

/-- `SIGNIN` as a sequence of its parts. -/
theorem signInAs_eq (kind : Kind) (a : CLN) :
    signInAs kind a = .call (.checkIdPwd 0 a.userId a.userPassword) fun (check : Int) =>
      .call (.findOnline kind (.name a.userId)) fun (checkuser : Option User) =>
        if check = -1 then .ret (-1) else signInFound a kind checkuser := rfl

/-- `SIGNIN`. -/
def signIn (a : CLN) : Handler Int := signInAs (kindOf a.userId) a

end UubangIot
