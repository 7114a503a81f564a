import UubangIot.Lib.Transition
import UubangIot.Server.Database

/-!
# Status values of devices

`IotUpdateStatus` over the table `iotevtcache`, of which device and class are the key. A row is
inserted, or updated where the key is taken, and the number of affected rows decides what is
reported. That number is zero for a row that already is as it should be, and minus one for a statement
that has failed.
-/

namespace UubangIot

open Effect Effect.Prog Transition Transition.System

/-! ## The table -/

/-- A row of `iotevtcache` without its key. -/
structure EventRow where
  /-- `status`. -/
  status : Int
  /-- `content`. -/
  content : Bytes
  /-- `updateDate`. -/
  updateDate : Bytes
  deriving DecidableEq, Repr

/-- The table, and the number of affected rows that each connection reports. -/
structure EventTable where
  /-- The rows by device and class. -/
  rows : Int × Int → Option EventRow
  /-- `mysql_affected_rows`. -/
  affected : Nat → Int

/-- What a statement leaves on its connection. -/
def EventTable.report (table : EventTable) (node : Nat) (count : Int) : EventTable :=
  { table with affected := Function.update table.affected node count }

/-- The table with another row. -/
def EventTable.put (table : EventTable) (key : Int × Int) (row : EventRow) : EventTable :=
  { table with rows := Function.update table.rows key (some row) }

/-- `INSERT`: an existing key is refused. -/
def EventTable.insert (table : EventTable) (node : Nat) (key : Int × Int) (row : EventRow) :
    QueryResult → Option EventTable
  | .done =>
    if table.rows key = none then some ((table.put key row).report node 1) else none
  | .failed _ => some (table.report node (-1))

/-- `UPDATE` of the row of a key, which counts as affected when a value changes. -/
def EventTable.update (table : EventTable) (node : Nat) (key : Int × Int) (row : EventRow) :
    QueryResult → EventTable
  | .done =>
    match table.rows key with
    | none => table.report node 0
    | some old => (table.put key row).report node (if old = row then 0 else 1)
  | .failed _ => table.report node (-1)

/-- One operation, at a given time. -/
def EventTable.after (now : Bytes) (table : EventTable) : Happening → Option EventTable
  | ⟨.realQuery node (.insertEvent iotId evtClass status content), result⟩ =>
    table.insert node (iotId, evtClass) ⟨status, content, now⟩ result
  | ⟨.realQuery node (.updateEvent status content iotId evtClass), result⟩ =>
    some (table.update node (iotId, evtClass) ⟨status, content, now⟩ result)
  | ⟨.affectedRows node, count⟩ =>
    if (show Int from count) = table.affected node then some table else none
  | _ => some table

/-- The table under the operations of a handler. -/
def eventTable (now : Bytes) : System EventTable Happening := ⟨EventTable.after now⟩

/-! ## What is reported -/

/-- A row holds a status and a content. -/
def holdsEvent (row : Option EventRow) (status : Int) (content : Bytes) : Bool :=
  row.any fun row => row.status = status ∧ row.content = content

/-- A result is 1 exactly when the row of the key holds the values afterwards, and no other row has
changed. -/
structure HonestUpsert (a : CLN) (evtClass status : Int) (before after : EventTable) (result : Int) :
    Prop where
  /-- What is reported. -/
  reported : result = 1 ↔ holdsEvent (after.rows (a.userKeyId, evtClass)) status (cstr a.data) = true
  /-- The other rows. -/
  others : ∀ key, key ≠ (a.userKeyId, evtClass) → after.rows key = before.rows key

/-- The row was inserted. -/
def insertsEvent : Happening → Bool
  | ⟨.realQuery _ (.insertEvent _ _ _ _), result⟩ => (show QueryResult from result) = .done
  | _ => false

/-- What became of the update, if it was tried. -/
def updateResult : Happening → Option QueryResult
  | ⟨.realQuery _ (.updateEvent _ _ _ _), result⟩ => some result
  | _ => none

/-- A row is inserted; or it is updated and was not as it should be; or the update fails and the row
was as it should be; or neither statement comes to anything and the row did not hold the values. -/
def NewsworthyRow (before : Option EventRow) (status : Int) (content now : Bytes)
    (trace : List Happening) : Prop :=
  if trace.any insertsEvent then True
  else
    match trace.findSome? updateResult with
    | some .done => before ≠ some ⟨status, content, now⟩
    | some (.failed _) => holdsEvent before status content = true
    | none => holdsEvent before status content = false

variable {a : CLN} {evtClass status result : Int} {before after : EventTable} {now : Bytes}

/-- A table that has not changed. -/
theorem honest_unchanged (same : after.rows = before.rows) :
    HonestUpsert a evtClass status before after result ↔
      (result = 1 ↔
        holdsEvent (before.rows (a.userKeyId, evtClass)) status (cstr a.data) = true) := by
  constructor
  · intro honest
    rw [← same]
    exact honest.reported
  · intro reported
    refine ⟨?_, fun key _ => by rw [same]⟩
    rw [same]
    exact reported

/-- A table in which the row holds the values. -/
theorem honest_put
    (put : after.rows = Function.update before.rows (a.userKeyId, evtClass)
      (some ⟨status, cstr a.data, now⟩)) :
    HonestUpsert a evtClass status before after result ↔ result = 1 := by
  have holds : holdsEvent (after.rows (a.userKeyId, evtClass)) status (cstr a.data) = true := by
    rw [put, Function.update_self]
    simp [holdsEvent]
  constructor
  · exact fun honest => honest.reported.mpr holds
  · intro one
    refine ⟨iff_of_true one holds, fun key other => ?_⟩
    rw [put, Function.update_of_ne other]

/-- An update that was done. -/
theorem honest_updated {node : Nat} {count : Int}
    (updated : after.rows =
      (before.update node (a.userKeyId, evtClass) ⟨status, cstr a.data, now⟩ .done).rows)
    (counted : count =
      (before.update node (a.userKeyId, evtClass) ⟨status, cstr a.data, now⟩ .done).affected node) :
    HonestUpsert a evtClass status before after (if count = 0 then 0 else 1) ↔
      before.rows (a.userKeyId, evtClass) ≠ some ⟨status, cstr a.data, now⟩ := by
  rw [EventTable.update] at updated counted
  cases old : before.rows (a.userKeyId, evtClass) with
  | none =>
    rw [old] at updated counted
    have same : after.rows = before.rows := updated
    have zero : count = 0 := counted.trans (Function.update_self ..)
    rw [honest_unchanged same, old, if_pos zero]
    exact iff_of_true (iff_of_false (by decide) Bool.noConfusion) (Option.some_ne_none _).symm
  | some row =>
    rw [old] at updated counted
    have put : after.rows = Function.update before.rows (a.userKeyId, evtClass)
      (some ⟨status, cstr a.data, now⟩) := updated
    have changed : count = if row = ⟨status, cstr a.data, now⟩ then 0 else 1 :=
      counted.trans (Function.update_self ..)
    rw [honest_put put, changed, Ne, Option.some.injEq]
    by_cases same : row = ⟨status, cstr a.data, now⟩
    · rw [if_pos same, if_pos rfl]
      exact iff_of_false (by decide) (not_not.mpr same)
    · rw [if_neg same, if_neg one_ne_zero]
      exact iff_of_true rfl same

/-! ## The handler -/

variable {trace : List Happening}

/-- Other operations leave the table. -/
theorem eventTable_cons {happening : Happening}
    (run : (eventTable now).run before (happening :: trace) = some after) :
    ∃ middle, before.after now happening = some middle ∧
      (eventTable now).run middle trace = some after :=
  (run_cons _ _ _ _).mp run

/-- The update of the row, on a second connection. -/
def updateEvent (a : CLN) (evtClass status : Int) : Handler Int := do
  match ← perform .getDbConnect with
  | none => return 0
  | some node =>
    let _ ← perform (.realQuery node (.updateEvent status (cstr a.data) a.userKeyId evtClass))
    let affected : Int ← perform (.affectedRows node)
    perform (.releaseNode node)
    return if affected = 0 then 0 else 1

/-- Without a statement that has run, zero is honest when the row does not hold the values. -/
theorem honest_zero (same : after.rows = before.rows) :
    HonestUpsert a evtClass status before after 0 ↔
      holdsEvent (before.rows (a.userKeyId, evtClass)) status (cstr a.data) = false := by
  rw [honest_unchanged same, ← Bool.not_eq_true]
  exact ⟨fun reported holds => absurd (reported.mpr holds) (by decide),
    fun fails => iff_of_false (by decide) fails⟩

/-- One is honest when it does. -/
theorem honest_one (same : after.rows = before.rows) :
    HonestUpsert a evtClass status before after 1 ↔
      holdsEvent (before.rows (a.userKeyId, evtClass)) status (cstr a.data) = true := by
  rw [honest_unchanged same]
  exact ⟨fun reported => reported.mp rfl, fun holds => iff_of_true rfl holds⟩

/-- Only the rows before matter. -/
theorem honest_congr {other : EventTable} (same : before.rows = other.rows) :
    HonestUpsert a evtClass status before after result ↔
      HonestUpsert a evtClass status other after result := by
  constructor
  · intro honest
    exact ⟨honest.reported, same ▸ honest.others⟩
  · intro honest
    exact ⟨honest.reported, same ▸ honest.others⟩

/-- What the update does after an insertion was refused. -/
theorem updateEvent_honest {rest : List Happening}
    (path : (updateEvent a evtClass status).Path rest result)
    (run : (eventTable now).run before rest = some after) :
    HonestUpsert a evtClass status before after result ↔
      NewsworthyRow (before.rows (a.userKeyId, evtClass)) status (cstr a.data) now rest := by
  obtain ⟨node, _, rfl, path⟩ := path
  cases node with
  | none =>
    obtain ⟨rfl, rfl⟩ := path
    obtain rfl := Option.some.inj run
    exact honest_zero rfl
  | some node =>
    obtain ⟨query, _, rfl, count, _, rfl, _, _, rfl, rfl, rfl⟩ := path
    obtain ⟨_, first, fromNode⟩ := eventTable_cons run
    obtain rfl := Option.some.inj first
    obtain ⟨middle, updated, fromUpdate⟩ := eventTable_cons fromNode
    obtain ⟨last, counted, fromCount⟩ := eventTable_cons fromUpdate
    obtain rfl : before.update node (a.userKeyId, evtClass) ⟨status, cstr a.data, now⟩ query = middle :=
      Option.some.inj updated
    obtain ⟨counts, same⟩ := Option.ite_none_right_eq_some.mp counted
    obtain rfl := Option.some.inj same
    obtain rfl := Option.some.inj fromCount
    cases query with
    | done => exact honest_updated rfl counts
    | failed duplicate =>
      have one : (if (show Int from count) = 0 then (0 : Int) else 1) = 1 := by
        refine if_neg fun zero => ?_
        have minus := counts.symm.trans zero
        exact absurd ((Function.update_self ..).symm.trans minus) (by decide)
      rw [one]
      exact honest_one rfl

/-- A device that reports its status. -/
def reporting : CLN := { CLN.zero with userKeyId := 7, data := text "status" ++ [0] }

/-- A table without rows. -/
def noEvents : EventTable := ⟨fun _ => none, fun _ => 0⟩

end UubangIot
