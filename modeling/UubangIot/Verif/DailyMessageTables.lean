import Mathlib.Tactic.Common
import Mathlib.Data.List.Basic
import UubangIot.Server.CreateDailyMsgdb

/-!
# A message table for every day

The thread makes a table when its flag is down and takes the flag down in the last minute of a day.
Polls are at least a minute apart, so a poll need not fall into those 59 seconds: the flag then
stays up over midnight and the next day has no table. The other slip is in the count of attempts,
where a success at the 99th or 100th call is taken for a failure of all of them.
-/

namespace UubangIot

open Transition

/-! ## One poll -/

/-- The loop does nothing under a flag that is up. -/
theorem createLoop_flagged (poll : Poll) (left i : Nat) :
    createLoop poll (left + 1) i true = (i + 1, true, none) := rfl

/-- The loop fails at every call it has left, or stops at the first that does not. -/
theorem createLoop_cases (poll : Poll) (left i : Nat) :
    ((∀ number < left, poll.fails (i + number)) ∧
        createLoop poll left i false = (i + left + 1, false, none)) ∨
      ∃ number < left, (∀ earlier < number, poll.fails (i + earlier)) ∧
        ¬poll.fails (i + number) ∧ createLoop poll left i false =
          (i + number + 1, true, some (dayOf (poll.calls (i + number)).time)) := by
  induction left generalizing i with
  | zero => exact .inl ⟨by simp, rfl⟩
  | succ left ih =>
    by_cases failed : poll.fails i
    · have unrolled : createLoop poll (left + 1) i false = createLoop poll left (i + 1) false := by
        simp [createLoop, failed]
      have shifted (number : Nat) : i + 1 + number = i + (number + 1) := by omega
      rw [unrolled]
      rcases ih (i + 1) with ⟨all, looped⟩ | ⟨number, bound, earlier, success, looped⟩
      · refine .inl ⟨fun number bound => ?_, by rw [looped, shifted]⟩
        cases number with
        | zero => exact failed
        | succ number => exact shifted number ▸ all number (by omega)
      · refine .inr ⟨number + 1, by omega, fun before bound => ?_, ?_, ?_⟩
        · cases before with
          | zero => exact failed
          | succ before => exact shifted before ▸ earlier before (by omega)
        · exact shifted number ▸ success
        · rw [looped, shifted]
    · exact .inr ⟨0, by omega, by simp, failed, by simp [createLoop, failed]⟩

variable {daily after : DailyThread} {poll : Poll}

/-- Midnight is at most a day away. -/
theorem untilMidnight_bounds (time : Nat) :
    0 < untilMidnight time ∧ untilMidnight time ≤ 86400 := by
  unfold untilMidnight dayOf daySeconds
  omega

/-- In the last minute the flag is taken down. -/
theorem poll_lastMinute (late : untilMidnight daily.now < 60) :
    daily.poll poll =
      { daily with now := poll.wakes, previous := some daily.now, flag := false } := by
  have skipped : ¬(0 < untilMidnight daily.now / 60 ∧ untilMidnight daily.now / 60 ≤ 24 * 60) := by
    omega
  rw [DailyThread.poll, if_neg skipped]

/-- Before it the loop runs. -/
theorem poll_create (early : 60 ≤ untilMidnight daily.now) :
    daily.poll poll =
      { now := poll.wakes, previous := some daily.now
        flag := (createLoop poll 100 0 daily.flag).2.1
        exited := decide (99 ≤ (createLoop poll 100 0 daily.flag).1)
        tables := (createLoop poll 100 0 daily.flag).2.2.toList ++ daily.tables } := by
  have bounds := untilMidnight_bounds daily.now
  have taken : 0 < untilMidnight daily.now / 60 ∧ untilMidnight daily.now / 60 ≤ 24 * 60 := by
    omega
  rw [DailyThread.poll, if_pos taken]

/-- Under a flag that is up nothing is tried. -/
theorem poll_flagged (poll : Poll) (early : 60 ≤ untilMidnight daily.now) (up : daily.flag = true) :
    daily.poll poll = ⟨poll.wakes, some daily.now, true, false, daily.tables⟩ := by
  rw [poll_create early, up, createLoop_flagged]
  rfl

/-- Under a flag that is down every call fails and the process exits, or the first call that does
not fail has made the table of the day it was made in. -/
theorem poll_cases (poll : Poll) (early : 60 ≤ untilMidnight daily.now) (down : daily.flag = false) :
    ((∀ number < 100, poll.fails number) ∧
        daily.poll poll = ⟨poll.wakes, some daily.now, false, true, daily.tables⟩) ∨
      ∃ number < 100, (∀ earlier < number, poll.fails earlier) ∧ ¬poll.fails number ∧
        daily.poll poll = ⟨poll.wakes, some daily.now, true, decide (98 ≤ number),
          dayOf (poll.calls number).time :: daily.tables⟩ := by
  rw [poll_create early, down]
  have cases := createLoop_cases poll 100 0
  simp only [Nat.zero_add] at cases
  rcases cases with ⟨all, looped⟩ | ⟨number, bound, earlier, success, looped⟩
  · refine .inl ⟨all, ?_⟩
    rw [looped]
    rfl
  · refine .inr ⟨number, bound, earlier, success, ?_⟩
    rw [looped]
    simp only [Option.toList_some, List.singleton_append, DailyThread.mk.injEq, true_and, and_true,
      decide_eq_decide]
    omega

/-! ## The property and the condition -/

/-- After a poll: the process has exited only where all hundred calls were made and failed, and a
poll made more than a minute before midnight has left the table of its day or the process. -/
def Served (daily : DailyThread) (poll : Poll) (after : DailyThread) : Prop :=
  (after.exited = true → daily.flag = false ∧ ∀ number < 100, poll.fails number) ∧
    (60 < untilMidnight daily.now → after.exited = true ∨ dayOf daily.now ∈ after.tables)

/-- Every poll of a run is served. -/
def servedPoll (daily : DailyThread) (poll : Poll) : Prop :=
  ∀ after, createDailyMsgdbThread.step daily poll = some after → Served daily poll after

/-- The poll before a new day was made in the last minute of the old one. -/
def DailyThread.crossed (daily : DailyThread) : Prop :=
  ∀ previous ∈ daily.previous, dayOf previous ≠ dayOf daily.now → untilMidnight previous < 60

/-- Where the first 98 calls fail, so do the last two. -/
def Poll.decided (poll : Poll) : Prop :=
  (∀ number < 98, poll.fails number) → ∀ number < 100, poll.fails number

instance (daily : DailyThread) : Decidable daily.crossed :=
  inferInstanceAs (Decidable (∀ previous ∈ daily.previous, _ → _))

instance (poll : Poll) : Decidable poll.decided := inferInstanceAs (Decidable (_ → _))

/-- The condition on a poll; the calls count only where they are made. -/
def regularPoll (daily : DailyThread) (poll : Poll) : Prop :=
  daily.crossed ∧ (60 ≤ untilMidnight daily.now → daily.flag = false → poll.decided)

instance (daily : DailyThread) (poll : Poll) : Decidable (regularPoll daily poll) :=
  inferInstanceAs (Decidable (_ ∧ _))

/-! ## Runs -/

/-- Between two polls: how the flag and the tables stand to the poll before. -/
structure Scheduled (daily : DailyThread) : Prop where
  /-- Before the first poll nothing was done. -/
  begun : daily.previous = none → daily.flag = false
  /-- Polls are a minute to 90 seconds apart. -/
  gap : ∀ previous ∈ daily.previous, previous + 60 ≤ daily.now ∧ daily.now ≤ previous + 90
  /-- A poll before the last minute leaves the flag up and the table of its day. -/
  made : ∀ previous ∈ daily.previous, 60 ≤ untilMidnight previous →
    daily.flag = true ∧ dayOf previous ∈ daily.tables
  /-- A poll in the last minute leaves the flag down. -/
  lowered : ∀ previous ∈ daily.previous, untilMidnight previous < 60 → daily.flag = false
  /-- No table is ahead of the poll before. -/
  past : ∀ day ∈ daily.tables, ∀ previous ∈ daily.previous, day ≤ dayOf previous
  /-- There are no tables before the first poll. -/
  empty : daily.previous = none → daily.tables = []

/-- A thread that starts is on schedule. -/
theorem kept_start (now : Nat) : Scheduled (.start now) := by
  constructor <;> simp [DailyThread.start]

/-- The step of the thread. -/
theorem step_poll (stepped : createDailyMsgdbThread.step daily poll = some after) :
    daily.exited = false ∧ poll.timely daily ∧ after = daily.poll poll := by
  simp only [createDailyMsgdbThread] at stepped
  split at stepped
  · rename_i guard
    exact ⟨guard.1, guard.2, (Option.some.inj stepped).symm⟩
  · contradiction

/-- A flag that is up at a regular poll is up for the day's table. -/
theorem table_of_flag (kept : Scheduled daily) (crossed : daily.crossed) (up : daily.flag = true) :
    dayOf daily.now ∈ daily.tables := by
  cases polled : daily.previous with
  | none =>
    have down := kept.begun polled
    rw [up] at down
    contradiction
  | some previous =>
    have early : 60 ≤ untilMidnight previous := by
      by_contra late
      have down := kept.lowered previous polled (by omega)
      rw [up] at down
      contradiction
    have same : dayOf previous = dayOf daily.now := by
      by_contra other
      have late := crossed previous polled other
      omega
    rw [← same]
    exact (kept.made previous polled early).2

/-- A call made before the last minute, with a minute of sleep and at most 90 seconds to the next
poll, is made on the day of its poll. -/
theorem day_of_call {now call wakes : Nat} (early : 60 ≤ untilMidnight now) (begun : now ≤ call)
    (slept : call + 60 ≤ wakes) (close : wakes ≤ now + 90) : dayOf call = dayOf now := by
  unfold untilMidnight dayOf daySeconds at *
  omega

/-- Days do not run back. -/
theorem dayOf_le {first second : Nat} (ordered : first ≤ second) : dayOf first ≤ dayOf second :=
  Nat.div_le_div_right ordered

/-- The tables there are lie before the poll that is made. -/
theorem past_now (kept : Scheduled daily) : ∀ day ∈ daily.tables, day ≤ dayOf daily.now := by
  intro day member
  cases polled : daily.previous with
  | none =>
    rw [kept.empty polled] at member
    contradiction
  | some previous =>
    have gap := (kept.gap previous polled).1
    have ordered : dayOf previous ≤ dayOf daily.now := dayOf_le (by omega)
    exact (kept.past day member previous polled).trans ordered

/-- A poll that does not exit keeps the invariant. -/
theorem kept_poll (kept : Scheduled daily) (crossed : daily.crossed) (timely : poll.timely daily)
    (stays : (daily.poll poll).exited = false) : Scheduled (daily.poll poll) := by
  obtain ⟨calls, sleep⟩ := timely
  obtain ⟨minute, close, slept⟩ := sleep stays
  have past := past_now kept
  by_cases late : untilMidnight daily.now < 60
  · rw [poll_lastMinute late]
    constructor <;> simp only [Option.mem_some_iff, reduceCtorEq, false_implies, forall_eq']
    · exact ⟨minute, close⟩
    · omega
    · exact fun _ => trivial
    · exact past
  · have early : 60 ≤ untilMidnight daily.now := by omega
    cases flagged : daily.flag with
    | true =>
      rw [poll_flagged poll early flagged]
      constructor <;> simp only [Option.mem_some_iff, reduceCtorEq, false_implies, forall_eq']
      · exact ⟨minute, close⟩
      · exact fun _ => ⟨trivial, table_of_flag kept crossed flagged⟩
      · omega
      · exact past
    | false =>
      rcases poll_cases poll early flagged with ⟨-, polled⟩ |
        ⟨number, bound, earlier, -, polled⟩
      · rw [polled] at stays
        contradiction
      · have asleep := slept number bound flagged earlier (by omega)
        have begun : daily.now ≤ (poll.calls number).time := by
          have ordered := calls number bound
          omega
        have today := day_of_call early begun asleep close
        rw [polled, today]
        constructor <;> simp only [Option.mem_some_iff, reduceCtorEq, false_implies, forall_eq']
        · exact ⟨minute, close⟩
        · exact fun _ => ⟨trivial, List.mem_cons_self⟩
        · omega
        · intro day member
          rcases List.mem_cons.mp member with rfl | older
          · exact le_rfl
          · exact past day older

/-- A poll over a midnight that no poll of the last minute preceded finds the flag up, and the day
without its table. -/
theorem not_served_of_missed (kept : Scheduled daily) {previous : Nat}
    (polled : previous ∈ daily.previous) (other : dayOf previous ≠ dayOf daily.now)
    (early : 60 ≤ untilMidnight previous) : ¬Served daily poll (daily.poll poll) := by
  intro served
  have gap := kept.gap previous polled
  have ordered : dayOf previous ≤ dayOf daily.now := dayOf_le (by omega)
  have morning : 60 < untilMidnight daily.now := by
    unfold untilMidnight dayOf daySeconds at *
    omega
  have after := poll_flagged poll morning.le (kept.made previous polled early).1
  rw [after] at served
  rcases served.2 morning with exited | made
  · contradiction
  · have past := kept.past _ made previous polled
    omega

/-- A poll that is made is served exactly when it is regular. -/
theorem served_iff_regularPoll (kept : Scheduled daily)
    (made : ∃ after, createDailyMsgdbThread.step daily poll = some after) :
    servedPoll daily poll ↔ regularPoll daily poll := by
  obtain ⟨after, stepped⟩ := made
  obtain ⟨running, -, rfl⟩ := step_poll stepped
  constructor
  · intro served
    have here := served _ stepped
    constructor
    · intro previous polled other
      by_contra early
      exact not_served_of_missed kept polled other (by omega) here
    · intro early down first
      rcases poll_cases poll early down with ⟨all, -⟩ | ⟨number, -, -, success, polled⟩
      · exact all
      · have late : 98 ≤ number := by
          by_contra below
          exact success (first number (by omega))
        have exited : (daily.poll poll).exited = true := by
          rw [polled]
          exact decide_eq_true late
        exact (here.1 exited).2
  · rintro ⟨crossed, decided⟩ other again
    obtain ⟨-, timely, rfl⟩ := step_poll again
    by_cases late : untilMidnight daily.now < 60
    · rw [poll_lastMinute late]
      refine ⟨fun exited => ?_, by omega⟩
      rw [running] at exited
      contradiction
    · have early : 60 ≤ untilMidnight daily.now := by omega
      cases flagged : daily.flag with
      | true =>
        rw [poll_flagged poll early flagged]
        refine ⟨?_, fun _ => .inr (table_of_flag kept crossed flagged)⟩
        intro exited
        contradiction
      | false =>
        rcases poll_cases poll early flagged with ⟨all, polled⟩ |
          ⟨number, bound, earlier, success, polled⟩
        · rw [polled]
          exact ⟨fun _ => ⟨flagged, all⟩, fun _ => .inl rfl⟩
        · have soon : number < 98 := by
            by_contra late
            have failed := decided early flagged fun before below => earlier before (by omega)
            exact success (failed number bound)
          have stays : (daily.poll poll).exited = false := by
            rw [polled]
            exact decide_eq_false (by omega)
          have next := kept_poll kept crossed timely stays
          have made := next.made daily.now (by rw [polled]; rfl) early
          refine ⟨fun exited => ?_, fun _ => .inr made.2⟩
          rw [stays] at exited
          contradiction

/-- Every run that takes place, from any start: all its polls are served exactly when all of them
are regular. -/
theorem daily_tables_iff_regular (now : Nat) (polls : List Poll) (final : DailyThread)
    (ran : createDailyMsgdbThread.run (.start now) polls = some final) :
    createDailyMsgdbThread.Meets servedPoll (.start now) polls ↔
      createDailyMsgdbThread.Meets regularPoll (.start now) polls := by
  have same : ∀ daily poll, (∃ after, createDailyMsgdbThread.step daily poll = some after) →
      (daily.exited = false → Scheduled daily) → (servedPoll daily poll ↔ regularPoll daily poll) := by
    intro daily poll made kept
    obtain ⟨after, stepped⟩ := made
    exact served_iff_regularPoll (kept (step_poll stepped).1) ⟨after, stepped⟩
  have preserved : ∀ daily poll after,
      (∃ after, createDailyMsgdbThread.step daily poll = some after) → regularPoll daily poll →
      (daily.exited = false → Scheduled daily) → createDailyMsgdbThread.step daily poll = some after →
      after.exited = false → Scheduled after := by
    intro daily poll after made regular kept stepped stays
    obtain ⟨running, timely, rfl⟩ := step_poll stepped
    exact kept_poll (kept running) regular.1 timely stays
  exact System.meets_iff_of same preserved (fun _ => kept_start now) (System.meets_of_run ran)

/-- A database that answers every call at once. -/
def prompt (now wakes : Nat) : Poll := ⟨fun number => ⟨now + number, true, none⟩, wakes⟩

/-- A poll in the last minute, and one in the new day. -/
theorem daily_tables_over_midnight :
    createDailyMsgdbThread.Meets servedPoll (.start 86270)
      [prompt 86270 86350, prompt 86350 86430, prompt 86430 86490] := by
  have ran : ∃ final, createDailyMsgdbThread.run (.start 86270)
      [prompt 86270 86350, prompt 86350 86430, prompt 86430 86490] = some final :=
    Option.isSome_iff_exists.mp (by decide +kernel)
  obtain ⟨final, ran⟩ := ran
  exact (daily_tables_iff_regular _ _ final ran).mpr (by decide +kernel)

/-- A poll 60 seconds before midnight and one at midnight: the new day has no table. -/
theorem day_without_table :
    ∃ final, createDailyMsgdbThread.run (.start 86340)
        [prompt 86340 86400, prompt 86400 86460] = some final ∧
      ¬createDailyMsgdbThread.Meets servedPoll (.start 86340)
        [prompt 86340 86400, prompt 86400 86460] := by
  refine ⟨⟨86460, some 86400, true, false, [0]⟩, by decide +kernel, fun served => ?_⟩
  have first : createDailyMsgdbThread.step (.start 86340) (prompt 86340 86400) =
      some ⟨86400, some 86340, true, false, [0]⟩ := by decide +kernel
  have second : createDailyMsgdbThread.step ⟨86400, some 86340, true, false, [0]⟩
      (prompt 86400 86460) = some ⟨86460, some 86400, true, false, [0]⟩ := by decide +kernel
  have missed := ((served.2 _ first).1 _ second).2 (by decide)
  exact absurd missed (by decide)

end UubangIot
