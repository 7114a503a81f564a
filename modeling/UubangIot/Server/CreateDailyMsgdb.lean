import UubangIot.Lib.Transition
import UubangIot.Server.Text

/-!
# The message table of the day

`CreateDailyMsgdb.c` and `NewUserMsgTalbleInSQL.c`. Time is counted in whole seconds and a day has
86400 of them, so the date of a table is its day's number. What is not the thread's own is part of
a poll: when each call reads the clock, what the database answers, and when the sleep ends.
-/

namespace UubangIot

open Transition

/-- The seconds of a day. -/
def daySeconds : Nat := 86400

/-- The day a time lies in. -/
def dayOf (time : Nat) : Nat := time / daySeconds

/-- `t1 - t`, the seconds to the midnight that ends the day. -/
def untilMidnight (time : Nat) : Nat := (dayOf time + 1) * daySeconds - time

/-- One call of `NewUserMsgTableInSQL`: the clock it reads, whether there is a node, and the error
of its statement. -/
structure TableCall where
  /-- `now_time`. -/
  time : Nat
  /-- `get_db_connect(MySqlConnPool) != NULL`. -/
  node : Bool
  /-- `mysql_error`, when the statement fails. -/
  error : Option Bytes
  deriving DecidableEq, Repr

/-- `NewUserMsgTableInSQL` — 1 for a table that was created, -1 for one that was there, else 0. -/
def newUserMsgTableInSQL (call : TableCall) : Int :=
  if call.node then
    match call.error with
    | none => 1
    | some err => if strstr err (text "already") then -1 else 0
  else 0

/-- The thread between two polls. -/
structure DailyThread where
  /-- The time of the next poll. -/
  now : Nat
  /-- The time of the poll before it. -/
  previous : Option Nat
  /-- `flag`. -/
  flag : Bool
  /-- The process has left through `exit(-12)`. -/
  exited : Bool
  /-- The days whose table was created or was there. -/
  tables : List Nat
  deriving DecidableEq, Repr

/-- The thread when it starts. -/
def DailyThread.start (now : Nat) : DailyThread := ⟨now, none, false, false, []⟩

/-- What a poll meets. -/
structure Poll where
  /-- The calls it makes, in their order. -/
  calls : Nat → TableCall
  /-- When `Sleep(1000*60)` returns. -/
  wakes : Nat

/-- The call of this number does not find or create a table. -/
def Poll.fails (poll : Poll) (number : Nat) : Prop := newUserMsgTableInSQL (poll.calls number) = 0

instance (poll : Poll) (number : Nat) : Decidable (poll.fails number) :=
  inferInstanceAs (Decidable (_ = _))

/-- `while(i++<100&&!flag)` with the tests that are left: `i` after it, the flag and the day of the
table. -/
def createLoop (poll : Poll) : Nat → Nat → Bool → Nat × Bool × Option Nat
  | 0, i, flag => (i + 1, flag, none)
  | left + 1, i, flag =>
    if flag then (i + 1, flag, none)
    else if poll.fails i then createLoop poll left (i + 1) flag
    else (i + 1, true, some (dayOf (poll.calls i).time))

/-- One round of `CreateDailyMsgdbThread`. -/
def DailyThread.poll (daily : DailyThread) (poll : Poll) : DailyThread :=
  let rest := untilMidnight daily.now
  if 0 < rest / 60 ∧ rest / 60 ≤ 24 * 60 then
    let (i, flag, created) := createLoop poll 100 0 daily.flag
    { now := poll.wakes, previous := some daily.now, flag, exited := decide (99 ≤ i)
      tables := created.toList ++ daily.tables }
  else { daily with now := poll.wakes, previous := some daily.now, flag := false }

/-- The clock of a poll: the calls come after it and a second apart, the sleep lasts a minute after
the last of them, and polls are at most 90 seconds apart. A process that exits does not sleep. -/
def Poll.timely (poll : Poll) (daily : DailyThread) : Prop :=
  (∀ number < 100, daily.now + number ≤ (poll.calls number).time) ∧
    ((daily.poll poll).exited = false →
      daily.now + 60 ≤ poll.wakes ∧ poll.wakes ≤ daily.now + 90 ∧
        ∀ number < 100, daily.flag = false → (∀ earlier < number, poll.fails earlier) →
          0 < untilMidnight daily.now / 60 → (poll.calls number).time + 60 ≤ poll.wakes)

instance (poll : Poll) (daily : DailyThread) : Decidable (poll.timely daily) :=
  inferInstanceAs (Decidable (_ ∧ _))

/-- `CreateDailyMsgdbThread`. -/
def createDailyMsgdbThread : System DailyThread Poll where
  step daily poll :=
    if daily.exited = false ∧ poll.timely daily then some (daily.poll poll) else none

end UubangIot
