import UubangIot.Lib.LinkedCells
import UubangIot.Server.Session

/-!
# The nodes of users and devices in memory

The lists as the source walks them: nodes by their address, zero for NULL, and the two heads of a
registry with their links. Reading a node that is not allocated has no result, and neither has a loop
that has not ended within the given number of turns. A search tests the first node by itself and
then, in a loop, the node after the one it stands on; only `Check_Id_Pwd` for a registration tests the
node it stands on.
-/

namespace UubangIot

open LinkedCells

/-- `OnlineUserHead` with the address of the first node. -/
structure NodeHead where
  /-- `OnlineUserNum`. -/
  onlineUserNum : Int
  /-- `next`. -/
  next : Nat
  deriving DecidableEq, Repr

/-- The nodes in memory and the two heads of a registry. -/
structure UserNodes where
  /-- The allocated nodes. -/
  cells : Nat → Option (Cell User)
  /-- `RegistedUserHead` or `onlineUserHead`. -/
  users : NodeHead
  /-- `RegistedIotHead` or `onlineIotHead`. -/
  iots : NodeHead

namespace UserNodes

variable (nodes : UserNodes)

/-- The head of a kind. -/
def head : Kind → NodeHead
  | .user => nodes.users
  | .iot => nodes.iots

/-- The list behind a head. -/
def list (kind : Kind) : Linked User := ⟨nodes.cells, (nodes.head kind).next⟩

/-- Another list behind a head, in its memory, with another count. -/
def setList (kind : Kind) (list : Linked User) (onlineUserNum : Int) : UserNodes :=
  match kind with
  | .user => { nodes with cells := list.cells, users := ⟨onlineUserNum, list.first⟩ }
  | .iot => { nodes with cells := list.cells, iots := ⟨onlineUserNum, list.first⟩ }

end UserNodes

/-! ## Searches -/

/-- `while(Tag->next!=NULL)`: the address of the first node after `tag` that passes a test, or
zero. -/
def lookAhead (test : User → Bool) : (turns : Nat) → Linked User → (tag : Nat) → Option Nat
  | 0, _, _ => none
  | turns + 1, list, tag =>
    match list.next tag with
    | none => none
    | some next =>
      if next = 0 then some 0
      else
        match list.cells next with
        | none => none
        | some cell => if test cell.value then some next else lookAhead test turns list next

/-- A search: the first node, then the loop. -/
def searchNodes (test : User → Bool) (turns : Nat) (list : Linked User) : Option Nat :=
  if list.first = 0 then some 0
  else
    match list.cells list.first with
    | none => none
    | some cell =>
      if test cell.value then some list.first else lookAhead test turns list list.first

/-- `FindRegisterUserOrIotNode`: by id, or where that is NULL by key; the address, or zero. -/
def UserNodes.findRegisterUserOrIotNode (turns : Nat) (nodes : UserNodes) (n : Int)
    (userId : Option Bytes) (id : Int) : Option Nat :=
  let test (node : User) : Bool :=
    match userId with
    | some userId => streq userId node.userId
    | none => id = node.userKeyId
  if n = 10 then searchNodes test turns (nodes.list .iot)
  else if n = 0 then searchNodes test turns (nodes.list .user)
  else some 0

/-- The loop of `Check_Id_Pwd` for a registration: it tests the node it stands on and then looks
whether another follows. -/
def standingLoop (test : User → Bool) : (turns : Nat) → Linked User → (tag : Nat) → Option Int
  | 0, _, _ => none
  | turns + 1, list, tag =>
    match list.cells tag with
    | none => none
    | some cell =>
      if cell.next = 0 then some (-1)
      else if test cell.value then some 1
      else standingLoop test turns list cell.next

/-- `Check_Id_Pwd` for a registration within one list. -/
def checkRegister (test : User → Bool) (turns : Nat) (list : Linked User) : Option Int :=
  if list.first = 0 then some (-1)
  else
    match list.cells list.first with
    | none => none
    | some cell =>
      if test cell.value then some 1 else standingLoop test turns list list.first

/-- `Check_Id_Pwd` for a sign-in within one list. -/
def checkSign (test : User → Bool) (turns : Nat) (list : Linked User) : Option Int :=
  (searchNodes test turns list).map fun found => if found = 0 then -1 else 1

/-- `Check_Id_Pwd`. -/
def UserNodes.checkIdPwd (turns : Nat) (nodes : UserNodes) (n : Int) (a : CLN) : Option Int :=
  let list := if ¬strlen a.userId < 11 then nodes.list .user else nodes.list .iot
  if n = 0 then
    checkSign (fun node => streq a.userId node.userId && streq a.userPassword node.userPassword)
      turns list
  else checkRegister (fun node => streq a.userId node.userId) turns list

/-! ## Removal -/

/-- `free`, which does nothing for NULL. -/
def freeNodeAt (list : Linked User) (address : Nat) : Linked User :=
  if address = 0 then list else list.free address

/-- `while(Tag->next!=NULL)` of `delete_out_user`: the link moves past the node that was found, and
the node that the link leads to then is freed. -/
def unlinkAhead (test : User → Bool) :
    (turns : Nat) → Linked User → (tag : Nat) → Option (Int × Linked User)
  | 0, _, _ => none
  | turns + 1, list, tag =>
    match list.next tag with
    | none => none
    | some next =>
      if next = 0 then some (0, list)
      else
        match list.cells next with
        | none => none
        | some cell =>
          if test cell.value then
            let list := list.link tag cell.next
            (list.next tag).map fun freed => (1, freeNodeAt list freed)
          else unlinkAhead test turns list next

/-- The removal within one list: the first node is unlinked and freed itself. -/
def unlinkNodes (test : User → Bool) (turns : Nat) (list : Linked User) :
    Option (Int × Linked User) :=
  if list.first = 0 then some (0, list)
  else
    match list.cells list.first with
    | none => none
    | some cell =>
      if test cell.value then some (1, freeNodeAt { list with first := cell.next } list.first)
      else unlinkAhead test turns list list.first

/-- `delete_out_user`: what it returns, and the nodes. -/
def UserNodes.deleteOutUser (turns : Nat) (nodes : UserNodes) (userId : Bytes) (socket : Nat) :
    Option (Int × UserNodes) :=
  if strlen userId < 6 then some (0, nodes)
  else
    let kind := kindOf userId
    (unlinkNodes (owns userId socket) turns (nodes.list kind)).map fun (removed, list) =>
      (removed, nodes.setList kind list ((nodes.head kind).onlineUserNum - removed))

end UubangIot
