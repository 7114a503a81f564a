import UubangIot.Lib.Transition

/-!
# The link to the top server

`Send2OnlineUserViaAllServer.c`: `ConnectToTopServer` is called at start-up, by the monitor thread and
in manual mode, and every call that gets through creates a thread that runs
`ReceiveMsgFromTopServer`. The socket and `isConnected` are global. Each statement on them is a step; the
calls and the threads are in a list each, and a label says who moves and what the system answers.
`isShutDown` is 0 throughout.
-/

namespace UubangIot.TopServerLink

open Transition

/-- What a socket is connected to. -/
inductive Link
  /-- `socket` made it. -/
  | made
  /-- `connect` connected it. -/
  | connected
  /-- The connection broke. -/
  | failed
  /-- `closesocket` closed it. -/
  | closed
  deriving DecidableEq, Repr

/-- The next statement of a call of `ConnectToTopServer`. -/
inductive Call
  /-- `closesocket(LocalSocket);` -/
  | close
  /-- `isConnected = 0;` -/
  | clear
  /-- `if(isConnected) return;` -/
  | test
  /-- `LocalSocket = socket(…);` -/
  | socket
  /-- `if (ERROR == LocalSocket) … return;` -/
  | testSocket
  /-- `ret = connect(LocalSocket, …);` -/
  | connect
  /-- `if(ret<0) … return;` -/
  | testConnect (ret : Bool)
  /-- `CloseHandle(CreateThread(…));` -/
  | create
  /-- `isConnected = 1;` after the thread was created, when it was. -/
  | set (thread : Option Nat)
  /-- The call has returned. -/
  | returned
  deriving DecidableEq, Repr

/-- The next statement of a thread that runs `ReceiveMsgFromTopServer`. -/
inductive Receiver
  /-- `while(!isShutDown&&isConnected)` -/
  | test
  /-- `len = recv(LocalSocket, …);` -/
  | receive
  /-- `len = send(LocalSocket,"HBA",3,0);` -/
  | send
  /-- `closesocket(LocalSocket);` -/
  | close
  /-- `isConnected = 0;` -/
  | clear
  /-- `Sleep(1000); continue;` or the packet's task is queued. -/
  | again
  /-- The loop was left. -/
  | left
  deriving DecidableEq, Repr

/-- A thread is still in its loop. -/
def Receiver.inLoop (thread : Receiver) : Bool := thread ≠ .left

/-- The link with everybody who works on it. -/
structure State where
  /-- `LocalSocket`, none when `socket` failed. -/
  localSocket : Option Nat
  /-- The sockets that were made. -/
  sockets : List Link
  /-- `isConnected`. -/
  isConnected : Bool
  /-- `isShutDown`. -/
  isShutDown : Bool
  /-- The calls of `ConnectToTopServer`. -/
  calls : List Call
  /-- The threads that were created. -/
  receivers : List Receiver
  /-- The socket of the last call that has returned with `isConnected` 1. -/
  returned : Option Nat
  deriving DecidableEq, Repr

/-- Who moves, and what the system answers it. -/
inductive Label
  /-- Somebody calls `ConnectToTopServer`. -/
  | enter
  /-- A call takes its next statement; `socket`, `connect` or `CreateThread` succeeds or not. -/
  | call (c : Nat) (succeeds : Bool)
  /-- A thread takes its next statement; `recv` or `send` succeeds or not. -/
  | receiver (r : Nat) (succeeds : Bool)
  /-- The connection of a socket breaks. -/
  | fail (s : Nat)
  deriving DecidableEq, Repr

/-- `closesocket(LocalSocket)`. -/
def State.closeLocal (state : State) : State :=
  { state with sockets := state.localSocket.elim state.sockets fun s => state.sockets.set s .closed }

/-- The state of the local socket. -/
def State.localLink (state : State) : Option Link := state.localSocket.bind fun s => state.sockets[s]?

/-- A call goes to its next statement. -/
def State.goto (state : State) (c : Nat) (next : Call) : State :=
  { state with calls := state.calls.set c next }

/-- A call returns, with `isConnected` as it is. -/
def State.leave (state : State) (c : Nat) : State :=
  { state.goto c .returned with
    returned := if state.isConnected then state.localSocket else state.returned }

/-- A thread goes to its next statement. -/
def State.move (state : State) (r : Nat) (next : Receiver) : State :=
  { state with receivers := state.receivers.set r next }

/-- One statement of a call. -/
def State.stepCall (state : State) (c : Nat) (succeeds : Bool) : Call → Option State
  | .close => some (state.closeLocal.goto c .clear)
  | .clear => some ({ state with isConnected := false }.goto c .test)
  | .test => some (if state.isConnected then state.leave c else state.goto c .socket)
  | .socket =>
    if succeeds then
      some ({ state with
        localSocket := some state.sockets.length,
        sockets := state.sockets ++ [Link.made] }.goto c .testSocket)
    else some ({ state with localSocket := none }.goto c .testSocket)
  | .testSocket =>
    some (if state.localSocket.isNone then state.leave c else state.goto c .connect)
  | .connect =>
    if succeeds then
      -- only a socket that is not connected yet connects
      (state.localSocket.filter fun s => state.sockets[s]? = some .made).map fun s =>
        { state with sockets := state.sockets.set s .connected }.goto c (.testConnect true)
    else some (state.goto c (.testConnect false))
  | .testConnect ret => some (if ret then state.goto c .create else state.leave c)
  | .create =>
    if succeeds then
      some ({ state with receivers := state.receivers ++ [Receiver.test] }.goto c
        (.set (some state.receivers.length)))
    else some (state.goto c (.set none))
  | .set _ => some ({ state with isConnected := true }.leave c)
  | .returned => none

/-- One statement of a thread. Nothing is received or sent on a socket that is closed or was never
connected. -/
def State.stepReceiver (state : State) (r : Nat) (succeeds : Bool) : Receiver → Option State
  | .test =>
    some (state.move r (if !state.isShutDown && state.isConnected then .receive else .left))
  | .receive =>
    if succeeds then
      if state.localLink = some .connected ∨ state.localLink = some .failed then
        some (state.move r .again)
      else none
    else some (state.move r .send)
  | .send =>
    if succeeds then
      if state.localLink = some .connected ∨ state.localLink = some .failed then
        some (state.move r .again)
      else none
    else some (state.move r .close)
  | .close => some (state.closeLocal.move r .clear)
  | .clear => some ({ state with isConnected := false }.move r .test)
  | .again => some (state.move r .test)
  | .left => none

/-- Calls, threads and failures in any order. -/
def system : System State Label where
  step state label :=
    match label with
    | .enter => some { state with calls := state.calls ++ [.close] }
    | .call c succeeds => state.calls[c]?.bind (state.stepCall c succeeds)
    | .receiver r succeeds => state.receivers[r]?.bind (state.stepReceiver r succeeds)
    | .fail s =>
      if state.sockets[s]? = some .connected then
        some { state with sockets := state.sockets.set s .failed }
      else none

/-- Before the first call: `LocalSocket` is 0, which is no socket. -/
def initial : State := ⟨none, [], false, false, [], [], none⟩

end UubangIot.TopServerLink
