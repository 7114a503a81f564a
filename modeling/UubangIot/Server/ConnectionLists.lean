import UubangIot.Lib.LinkedCells
import UubangIot.Lib.Transition
import UubangIot.Server.Worker

/-!
# The lists of connections

`FreeOutConnMem.c` and the counter of `AcceptClient.c`: the cells behind `MallocHead` and `Head`, and
the tasks that take a connection from the one to the other. An accept, a ping pass, a task and a
free pass are one step each. What the sends answer, the state of a connection when a pass comes to
it and the address of a new cell are part of the step. No list is longer than the connections that
were accepted, so a loop has ended after one turn more than these.
-/

namespace UubangIot

open LinkedCells Transition

/-- The lists, with the connections that were freed. -/
structure ConnectionLists where
  /-- The connections accepted so far. -/
  accepted : Nat
  /-- `AcceptClientNum`. -/
  acceptClientNum : Int
  /-- `MallocHead`. -/
  mallocHead : Linked Waiting
  /-- The `addConnMemWait4Free` tasks that have not run. -/
  queued : List Nat
  /-- `Head`. -/
  head : Linked Waiting
  /-- The calls of `free(CONNHANDLE)`. -/
  freed : List Nat

/-- Before the first connection. -/
def ConnectionLists.initial : ConnectionLists := ⟨0, 0, .empty, [], .empty, []⟩

/-- `malloc` gives an address where no cell is. -/
def unusedAddress (list : Linked Waiting) (node : Nat) : Bool :=
  node ≠ 0 && (list.cells node).isNone

/-- `AcceptClient` and `addConnMemWait4Ping`, with the address of the new cell. -/
def ConnectionLists.accept (lists : ConnectionLists) (node : Nat) : Option ConnectionLists :=
  if 10000 ≤ lists.acceptClientNum then some lists
  else if unusedAddress lists.mallocHead node then
    (lists.mallocHead.append (lists.accepted + 1) node ⟨lists.accepted, 0, 0⟩).map fun mallocHead =>
      { lists with
        accepted := lists.accepted + 1
        acceptClientNum := lists.acceptClientNum + 1
        mallocHead }
  else none

/-- `PingMallocConnList` at a cell, with the sends to come (none where the mutex is taken) and the
connections it has given up. -/
def pingEntry (state : List (Option Int) × List Nat) (entry : Waiting) :
    (List (Option Int) × List Nat) × Option Waiting :=
  let failed := match state.1.headD none with
    | none => false
    | some len => sendFailed len
  let time := if failed then entry.time + 1 else entry.time
  if 1 < time then ((state.1.tail, state.2 ++ [entry.conn]), none)
  else ((state.1.tail, state.2), some { entry with time })

/-- `PingMallocConnList`. -/
def ConnectionLists.ping (lists : ConnectionLists) (lens : List (Option Int)) :
    Option ConnectionLists :=
  (lists.mallocHead.pass pingEntry (lists.accepted + 1) 0 (lens, [])).map fun passed =>
    { lists with mallocHead := passed.1, queued := lists.queued ++ passed.2.2 }

/-- `addConnMemWait4Free`: any of the tasks, with the address of the new cell. -/
def ConnectionLists.addConnMemWait4Free (lists : ConnectionLists) (index node : Nat) :
    Option ConnectionLists :=
  match lists.queued[index]? with
  | none => none
  | some conn =>
    if unusedAddress lists.head node then
      (lists.head.append (lists.accepted + 1) node ⟨conn, 0, 0⟩).map fun head =>
        { lists with queued := lists.queued.eraseIdx index, head }
    else none

/-- `freeConnMemWait4Free` at a cell, with `AcceptClientNum` and the connections it has freed. -/
def freeEntry (records : Nat → CLN) (state : Int × List Nat) (entry : Waiting) :
    (Int × List Nat) × Option Waiting :=
  if entry.due (records entry.conn) then ((state.1 - 1, state.2 ++ [entry.conn]), none)
  else (state, some (entry.kept (records entry.conn)))

/-- `freeConnMemWait4Free`, with the records as the pass reads them. -/
def ConnectionLists.freePass (lists : ConnectionLists) (records : Nat → CLN) :
    Option ConnectionLists :=
  (lists.head.pass (freeEntry records) (lists.accepted + 1) 0
    (lists.acceptClientNum, lists.freed)).map fun passed =>
      { lists with head := passed.1, acceptClientNum := passed.2.1, freed := passed.2.2 }

/-- The steps. -/
inductive ConnectionStep
  /-- A connection is accepted and registered. -/
  | accept (node : Nat)
  /-- A ping pass. -/
  | ping (lens : List (Option Int))
  /-- An `addConnMemWait4Free` task. -/
  | addConnMemWait4Free (index node : Nat)
  /-- A free pass. -/
  | freePass (records : Nat → CLN)

/-- One step. -/
def ConnectionLists.step (lists : ConnectionLists) : ConnectionStep → Option ConnectionLists
  | .accept node => lists.accept node
  | .ping lens => lists.ping lens
  | .addConnMemWait4Free index node => lists.addConnMemWait4Free index node
  | .freePass records => lists.freePass records

/-- The lists under their steps. -/
def connectionLists : System ConnectionLists ConnectionStep := ⟨ConnectionLists.step⟩

end UubangIot
