import Mathlib.Data.Nat.ModEq
import UubangIot.Verif.SqlLeases

/-!
# The scan for a connection

`get_db_connect` looks at the nodes in the order of the array from a random start on, each once, and
stops at the first that is free, connected or reconnected, and answers the ping. The free nodes before
it have failed; they are left unlocked and disconnected, and no other node has changed.
-/

namespace UubangIot.SqlPool

variable {outcomes : Outcomes} {sp later : SqlConnPool} {start i rounds index : Nat}

/-! ## One round -/

/-- One round of the scan at a node: whether it stops there, and the pool. -/
def scanRound (outcomes : Outcomes) (i index : Nat) (sp : SqlConnPool) : Bool × SqlConnPool :=
  if (sp.sqlPool index).lock then (false, sp)
  else
    let sp := sp.setNode index { sp.sqlPool index with lock := true }
    let (res, sp) := reconnect sp index (outcomes.connects i)
    if res = 0 then (false, releaseNode sp index)
    else if outcomes.pings i then
      (true, { sp.setNode index { sp.sqlPool index with used := 1 } with
        busyNumber := sp.busyNumber + 1 })
    else (false, releaseNode (sp.setNode index { sp.sqlPool index with sqlState := .dbDisconn }) index)

/-- The loop by its rounds. -/
theorem getDbConnectLoop_round (outcomes : Outcomes) (start rounds i : Nat) (sp : SqlConnPool) :
    getDbConnectLoop outcomes start (rounds + 1) i sp =
      match scanRound outcomes i ((start + i) % sp.poolNumber) sp with
      | (true, later) => (some ((start + i) % sp.poolNumber), later)
      | (false, later) => getDbConnectLoop outcomes start rounds (i + 1) later := by
  rw [getDbConnectLoop, scanRound]
  dsimp only
  split
  · rfl
  · split
    · rfl
    · split
      · rfl
      · rfl

/-- A node is connected or reconnects in a round, and answers the ping. -/
def answers (outcomes : Outcomes) (sp : SqlConnPool) (i index : Nat) : Bool :=
  ((sp.sqlPool index).sqlState = .dbConn ∨ outcomes.connects i = true) ∧ outcomes.pings i = true

/-- The other nodes of a pool have not changed, and it is as large and as open as before. -/
structure Elsewhere (sp later : SqlConnPool) (index : Nat) : Prop where
  /-- The size of the pool. -/
  number : later.poolNumber = sp.poolNumber
  /-- It is as open as before. -/
  shutdown : later.shutdown = sp.shutdown
  /-- The other nodes. -/
  others : ∀ other, other ≠ index → later.sqlPool other = sp.sqlPool other

/-- A pool that has not changed is as before elsewhere. -/
theorem Elsewhere.refl (sp : SqlConnPool) (index : Nat) : Elsewhere sp sp index :=
  ⟨rfl, rfl, fun _ _ => rfl⟩

/-- One more change at the node. -/
theorem Elsewhere.set (elsewhere : Elsewhere sp later index) (node : SqlNode) :
    Elsewhere sp (later.setNode index node) index where
  number := elsewhere.number
  shutdown := elsewhere.shutdown
  others other different :=
    (Function.update_of_ne different _ _).trans (elsewhere.others other different)

/-- A node that is given back is the only one that changes. -/
theorem Elsewhere.release (elsewhere : Elsewhere sp later index) :
    Elsewhere sp (releaseNode later index) index :=
  ⟨elsewhere.number, elsewhere.shutdown, (elsewhere.set _).others⟩

/-- A reconnect: of a connected node, and of one that is not. -/
theorem Elsewhere.reconnect (elsewhere : Elsewhere sp later index) (running : sp.shutdown ≠ 1)
    (connected : Bool) :
    Elsewhere sp (reconnect later index connected).2 index ∧
      ((reconnect later index connected).1 = 0 ↔
        (later.sqlPool index).sqlState = .dbDisconn ∧ connected = false) ∧
      ((reconnect later index connected).1 = 0 →
        ((reconnect later index connected).2.sqlPool index).sqlState = .dbDisconn) ∧
      ((reconnect later index connected).1 ≠ 0 →
        ((reconnect later index connected).2.sqlPool index).sqlState = .dbConn) := by
  have still : later.shutdown ≠ 1 := elsewhere.shutdown ▸ running
  rw [SqlPool.reconnect]
  cases state : (later.sqlPool index).sqlState with
  | dbConn =>
    rw [if_neg SqlState.noConfusion]
    refine ⟨elsewhere, iff_of_false one_ne_zero (fun both => SqlState.noConfusion both.1), ?_, ?_⟩
    · exact fun zero => absurd zero one_ne_zero
    · exact fun _ => state
  | dbDisconn =>
    rw [if_pos rfl, createDbConnect, if_neg still]
    cases connected with
    | true =>
      refine ⟨elsewhere.set _, iff_of_false one_ne_zero (fun both => Bool.noConfusion both.2), ?_, ?_⟩
      · exact fun zero => absurd zero one_ne_zero
      · intro _
        simp [SqlConnPool.setNode]
    | false =>
      refine ⟨elsewhere.set _, iff_of_true rfl ⟨rfl, rfl⟩, ?_, ?_⟩
      · intro _
        simp [SqlConnPool.setNode]
      · exact fun nonzero => absurd rfl nonzero

/-- A round at a locked node. -/
theorem scanRound_locked (locked : (sp.sqlPool index).lock = true) :
    scanRound outcomes i index sp = (false, sp) := by
  rw [scanRound, if_pos locked]

/-- What a round at a free node makes of it. -/
structure RoundFree (outcomes : Outcomes) (i index : Nat) (sp : SqlConnPool)
    (result : Bool × SqlConnPool) : Prop where
  /-- It stops where the node answers. -/
  stops : result.1 = answers outcomes sp i index
  /-- No other node changes. -/
  elsewhere : Elsewhere sp result.2 index
  /-- A node that answers is connected and used. -/
  got : answers outcomes sp i index = true →
    (result.2.sqlPool index).sqlState = .dbConn ∧ (result.2.sqlPool index).used = 1
  /-- A node that fails is free and disconnected. -/
  left : answers outcomes sp i index = false →
    (result.2.sqlPool index).lock = false ∧ (result.2.sqlPool index).sqlState = .dbDisconn

/-- A round at a free node. -/
theorem scanRound_free (running : sp.shutdown ≠ 1) (free : (sp.sqlPool index).lock = false) :
    RoundFree outcomes i index sp (scanRound outcomes i index sp) := by
  have locks := (Elsewhere.refl sp index).set { sp.sqlPool index with lock := true }
  have state : ((sp.setNode index { sp.sqlPool index with lock := true }).sqlPool index).sqlState =
      (sp.sqlPool index).sqlState := by
    simp [SqlConnPool.setNode]
  obtain ⟨elsewhere, refused, disconnected, connected⟩ := locks.reconnect running (outcomes.connects i)
  rw [state] at refused
  rw [scanRound, free, if_neg Bool.false_ne_true]
  dsimp only
  generalize SqlPool.reconnect _ _ _ = result at elsewhere refused disconnected connected
  obtain ⟨res, now⟩ := result
  dsimp only at elsewhere refused disconnected connected ⊢
  by_cases zero : res = 0
  · have fails : answers outcomes sp i index = false := by
      refine decide_eq_false fun right => ?_
      obtain ⟨down, refuses⟩ := refused.mp zero
      rcases right.1 with up | connects
      · exact SqlState.noConfusion (up.symm.trans down)
      · exact Bool.noConfusion (connects.symm.trans refuses)
    rw [if_pos zero]
    refine ⟨fails.symm, elsewhere.release, fun right => ?_, fun _ => ⟨?_, ?_⟩⟩
    · rw [fails] at right
      contradiction
    · simp [releaseNode, SqlConnPool.setNode]
    · simp [releaseNode, SqlConnPool.setNode, disconnected zero]
  · have linked : (sp.sqlPool index).sqlState = .dbConn ∨ outcomes.connects i = true := by
      by_contra neither
      obtain ⟨down, refuses⟩ := not_or.mp neither
      refine zero (refused.mpr ⟨?_, Bool.eq_false_of_not_eq_true refuses⟩)
      cases other : (sp.sqlPool index).sqlState with
      | dbConn => exact absurd other down
      | dbDisconn => rfl
    rw [if_neg zero]
    by_cases pings : outcomes.pings i = true
    · have right : answers outcomes sp i index = true := decide_eq_true ⟨linked, pings⟩
      rw [if_pos pings]
      refine ⟨right.symm, ⟨elsewhere.number, elsewhere.shutdown, (elsewhere.set _).others⟩,
        fun _ => ⟨?_, ?_⟩, fun fails => ?_⟩
      · simp [SqlConnPool.setNode, connected zero]
      · simp [SqlConnPool.setNode]
      · rw [right] at fails
        contradiction
    · have fails : answers outcomes sp i index = false :=
        decide_eq_false fun right => pings right.2
      rw [if_neg pings]
      refine ⟨fails.symm, (elsewhere.set _).release, fun right => ?_, fun _ => ⟨?_, ?_⟩⟩
      · rw [fails] at right
        contradiction
      · simp [releaseNode, SqlConnPool.setNode]
      · simp [releaseNode, SqlConnPool.setNode]

/-! ## The scan -/

/-- The nodes at which a scan tries the lock. -/
def examined (outcomes : Outcomes) (start : Nat) : Nat → Nat → SqlConnPool → List Nat
  | 0, _, _ => []
  | rounds + 1, i, sp =>
    let index := (start + i) % sp.poolNumber
    match scanRound outcomes i index sp with
    | (true, _) => [index]
    | (false, later) => index :: examined outcomes start rounds (i + 1) later

/-- The nodes that `get_db_connect` examines. -/
def SqlConnPool.examines (sp : SqlConnPool) (outcomes : Outcomes) : List Nat :=
  examined outcomes (outcomes.rand % sp.poolNumber) sp.poolNumber 0 sp

/-- The rounds of a scan come to different nodes. -/
theorem scanned_injective {first second : Nat} (inside : first < sp.poolNumber)
    (inside' : second < sp.poolNumber)
    (same : scanned sp outcomes first = scanned sp outcomes second) : first = second := by
  have equal : outcomes.rand % sp.poolNumber + first ≡ outcomes.rand % sp.poolNumber + second
      [MOD sp.poolNumber] := same
  exact Nat.ModEq.eq_of_lt_of_lt (Nat.ModEq.add_left_cancel' _ equal) inside inside'

/-- The node of a round is free and answers. -/
def usable (sp : SqlConnPool) (outcomes : Outcomes) (i : Nat) : Bool :=
  (sp.sqlPool (scanned sp outcomes i)).lock = false ∧
    answers outcomes sp i (scanned sp outcomes i) = true

/-- A scan of a pool from a round on, that started with another state of it: the result, and the
nodes that were examined. -/
structure Scan (sp : SqlConnPool) (outcomes : Outcomes) (i : Nat) (now : SqlConnPool)
    (result : Option Nat × SqlConnPool) (seen : List Nat) : Prop where
  /-- A node that was got is that of a usable round. -/
  got : ∀ index, result.1 = some index → ∃ k, i ≤ k ∧ k < sp.poolNumber ∧
    index = scanned sp outcomes k ∧ usable sp outcomes k = true ∧
      (result.2.sqlPool index).sqlState = .dbConn ∧ (result.2.sqlPool index).used = 1
  /-- Without one no round is. -/
  none : result.1 = none → ∀ j, i ≤ j → j < sp.poolNumber → usable sp outcomes j = false
  /-- The nodes are those of later rounds. -/
  order : ∀ index ∈ seen, ∃ j, i ≤ j ∧ j < sp.poolNumber ∧ index = scanned sp outcomes j
  /-- Each is examined once. -/
  once : seen.Nodup
  /-- A free node that was examined and not got is left free and disconnected. -/
  passed : ∀ index ∈ seen, result.1 ≠ some index → (sp.sqlPool index).lock = false →
    (result.2.sqlPool index).lock = false ∧ (result.2.sqlPool index).sqlState = .dbDisconn
  /-- The other nodes do not change. -/
  frame : ∀ index ∉ seen, result.2.sqlPool index = now.sqlPool index

/-- A pool whose nodes are still the same in the rounds to come. -/
structure Ahead (sp : SqlConnPool) (outcomes : Outcomes) (i : Nat) (now : SqlConnPool) : Prop where
  /-- The size of the pool. -/
  number : now.poolNumber = sp.poolNumber
  /-- It is as open as before. -/
  shutdown : now.shutdown = sp.shutdown
  /-- The nodes to come. -/
  same : ∀ j, i ≤ j → j < sp.poolNumber →
    now.sqlPool (scanned sp outcomes j) = sp.sqlPool (scanned sp outcomes j)

variable {now : SqlConnPool}

/-- A round at its own node leaves the rounds to come. -/
theorem Ahead.next (ahead : Ahead sp outcomes i now) (inside : i < sp.poolNumber)
    (elsewhere : Elsewhere now later (scanned sp outcomes i)) : Ahead sp outcomes (i + 1) later where
  number := elsewhere.number.trans ahead.number
  shutdown := elsewhere.shutdown.trans ahead.shutdown
  same j after bound := by
    have different : scanned sp outcomes j ≠ scanned sp outcomes i := fun equal => by
      have := scanned_injective bound inside equal
      omega
    rw [elsewhere.others _ different]
    exact ahead.same j (Nat.le_of_succ_le after) bound

/-- A scan that goes on after a round in which its node was not got. -/
theorem Scan.cons {result : Option Nat × SqlConnPool} {seen : List Nat}
    (scan : Scan sp outcomes (i + 1) later result seen) (inside : i < sp.poolNumber)
    (unusable : usable sp outcomes i = false)
    (elsewhere : Elsewhere now later (scanned sp outcomes i))
    (left : (sp.sqlPool (scanned sp outcomes i)).lock = false →
      (later.sqlPool (scanned sp outcomes i)).lock = false ∧
        (later.sqlPool (scanned sp outcomes i)).sqlState = .dbDisconn) :
    Scan sp outcomes i now result (scanned sp outcomes i :: seen) := by
  have new : scanned sp outcomes i ∉ seen := fun member => by
    obtain ⟨j, after, bound, equal⟩ := scan.order _ member
    have := scanned_injective inside bound equal
    omega
  constructor
  · intro index found
    obtain ⟨k, after, rest⟩ := scan.got index found
    exact ⟨k, Nat.le_of_succ_le after, rest⟩
  · intro none j after bound
    by_cases here : j = i
    · rw [here]
      exact unusable
    · exact scan.none none j (by omega) bound
  · intro index member
    rcases List.mem_cons.mp member with rfl | member
    · exact ⟨i, le_rfl, inside, rfl⟩
    · obtain ⟨j, after, rest⟩ := scan.order index member
      exact ⟨j, Nat.le_of_succ_le after, rest⟩
  · exact List.nodup_cons.mpr ⟨new, scan.once⟩
  · intro index member missed free
    rcases List.mem_cons.mp member with rfl | member
    · rw [scan.frame _ new]
      exact left free
    · exact scan.passed index member missed free
  · intro index absent
    rw [List.mem_cons, not_or] at absent
    rw [scan.frame index absent.2, elsewhere.others index absent.1]

/-- A scan that stops at its first node. -/
theorem scan_stops (inside : i < sp.poolNumber) (right : usable sp outcomes i = true)
    (elsewhere : Elsewhere now later (scanned sp outcomes i))
    (got : (later.sqlPool (scanned sp outcomes i)).sqlState = .dbConn ∧
      (later.sqlPool (scanned sp outcomes i)).used = 1) :
    Scan sp outcomes i now (some (scanned sp outcomes i), later) [scanned sp outcomes i] := by
  constructor
  · intro index found
    obtain rfl := Option.some.inj found
    exact ⟨i, le_rfl, inside, rfl, right, got⟩
  · intro none
    contradiction
  · intro index member
    exact ⟨i, le_rfl, inside, List.mem_singleton.mp member⟩
  · exact List.nodup_cons.mpr ⟨List.not_mem_nil, List.nodup_nil⟩
  · intro index member missed
    exact absurd (congrArg some (List.mem_singleton.mp member).symm) missed
  · intro index absent
    exact elsewhere.others index fun same => absent (List.mem_singleton.mpr same)

/-- The loop of `get_db_connect` scans the nodes ahead, from whatever round it is in. -/
theorem scan_loop (running : sp.shutdown ≠ 1) (ahead : Ahead sp outcomes i now)
    (left : rounds + i = sp.poolNumber) :
    Scan sp outcomes i now
      (getDbConnectLoop outcomes (outcomes.rand % sp.poolNumber) rounds i now)
      (examined outcomes (outcomes.rand % sp.poolNumber) rounds i now) := by
  induction rounds generalizing i now with
  | zero =>
    constructor
    · intro index found
      contradiction
    · intro _ j after bound
      omega
    · intro index member
      contradiction
    · exact List.nodup_nil
    · intro index member
      contradiction
    · exact fun _ _ => rfl
  | succ rounds ih =>
    have inside : i < sp.poolNumber := by omega
    have rest : rounds + (i + 1) = sp.poolNumber := by omega
    have index : (outcomes.rand % sp.poolNumber + i) % now.poolNumber = scanned sp outcomes i := by
      rw [ahead.number]
      rfl
    have here := ahead.same i le_rfl inside
    rw [getDbConnectLoop_round, examined, index]
    cases lock : (sp.sqlPool (scanned sp outcomes i)).lock with
    | true =>
      have locked : (now.sqlPool (scanned sp outcomes i)).lock = true := here ▸ lock
      rw [scanRound_locked locked]
      refine (ih (ahead.next inside (.refl now _)) rest).cons inside ?_ (.refl now _) ?_
      · exact decide_eq_false fun both => Bool.noConfusion (both.1.symm.trans lock)
      · intro free
        rw [lock] at free
        contradiction
    | false =>
      have free : (now.sqlPool (scanned sp outcomes i)).lock = false := here ▸ lock
      have round : RoundFree outcomes i (scanned sp outcomes i) now
        (scanRound outcomes i (scanned sp outcomes i) now) :=
        scanRound_free (ahead.shutdown ▸ running) free
      have same : answers outcomes now i (scanned sp outcomes i) =
          answers outcomes sp i (scanned sp outcomes i) := by
        rw [answers, answers, here]
      have tells : usable sp outcomes i = answers outcomes now i (scanned sp outcomes i) := by
        rw [usable, same, lock]
        simp
      generalize scanRound outcomes i (scanned sp outcomes i) now = result at round
      obtain ⟨stops, later⟩ := result
      cases stops with
      | true =>
        have right := round.stops.symm
        exact scan_stops inside (tells.trans right) round.elsewhere (round.got right)
      | false =>
        have wrong := round.stops.symm
        exact (ih (ahead.next inside round.elsewhere) rest).cons inside (tells.trans wrong)
          round.elsewhere fun _ => round.left wrong

/-! ## The call -/

/-- `get_db_connect` finds a usable connection. -/
structure FindsUsable (sp : SqlConnPool) (outcomes : Outcomes) : Prop where
  /-- The node it returns was unlocked, answered the ping and is now connected and used. -/
  got : ∀ index, (getDbConnect sp outcomes).1 = some index → ∃ i < sp.poolNumber,
    index = scanned sp outcomes i ∧ (sp.sqlPool index).lock = false ∧ outcomes.pings i = true ∧
      ((getDbConnect sp outcomes).2.sqlPool index).sqlState = .dbConn ∧
      ((getDbConnect sp outcomes).2.sqlPool index).used = 1
  /-- It returns one when some node is unlocked and would connect and answer. -/
  found : (∃ i < sp.poolNumber, (sp.sqlPool (scanned sp outcomes i)).lock = false ∧
      answers outcomes sp i (scanned sp outcomes i) = true) →
    ((getDbConnect sp outcomes).1).isSome = true
  /-- It returns NULL only when every node is locked or fails. -/
  null : (getDbConnect sp outcomes).1 = none → ∀ i < sp.poolNumber,
    (sp.sqlPool (scanned sp outcomes i)).lock = true ∨
      answers outcomes sp i (scanned sp outcomes i) = false
  /-- The rounds come to all nodes. -/
  all : ∀ index < sp.poolNumber, ∃ i < sp.poolNumber, index = scanned sp outcomes i
  /-- It examines nodes of the pool, each at most once. -/
  once : (sp.examines outcomes).Nodup ∧ ∀ index ∈ sp.examines outcomes, index < sp.poolNumber
  /-- The free nodes it passes over end unlocked and disconnected. -/
  passed : ∀ index ∈ sp.examines outcomes, (getDbConnect sp outcomes).1 ≠ some index →
    (sp.sqlPool index).lock = false →
    ((getDbConnect sp outcomes).2.sqlPool index).lock = false ∧
      ((getDbConnect sp outcomes).2.sqlPool index).sqlState = .dbDisconn

/-- The rounds come to all nodes. -/
theorem scanned_surjective (inhabited : 0 < sp.poolNumber) (outcomes : Outcomes)
    (inside : index < sp.poolNumber) : ∃ i < sp.poolNumber, index = scanned sp outcomes i := by
  have below := Nat.mod_lt outcomes.rand inhabited
  refine ⟨(index + (sp.poolNumber - outcomes.rand % sp.poolNumber)) % sp.poolNumber,
    Nat.mod_lt _ inhabited, ?_⟩
  rw [scanned, Nat.add_mod_mod]
  have sum : outcomes.rand % sp.poolNumber +
      (index + (sp.poolNumber - outcomes.rand % sp.poolNumber)) = index + sp.poolNumber := by omega
  rw [sum, Nat.add_mod_right, Nat.mod_eq_of_lt inside]

/-- In every open pool with a node, `get_db_connect` finds a usable connection whenever there is
one. -/
theorem finds_usable (sp : SqlConnPool) (running : sp.shutdown ≠ 1) (inhabited : 1 ≤ sp.poolNumber)
    (outcomes : Outcomes) : FindsUsable sp outcomes := by
  have scan : Scan sp outcomes 0 sp (getDbConnect sp outcomes) (sp.examines outcomes) := by
    rw [getDbConnect, if_neg running]
    exact scan_loop running ⟨rfl, rfl, fun _ _ _ => rfl⟩ rfl
  have fails (none : (getDbConnect sp outcomes).1 = none) : ∀ i < sp.poolNumber,
      (sp.sqlPool (scanned sp outcomes i)).lock = true ∨
        answers outcomes sp i (scanned sp outcomes i) = false := by
    intro i inside
    have unusable := of_decide_eq_false (scan.none none i (Nat.zero_le i) inside)
    cases lock : (sp.sqlPool (scanned sp outcomes i)).lock with
    | true => exact .inl rfl
    | false => exact .inr (Bool.eq_false_of_not_eq_true fun right => unusable ⟨lock, right⟩)
  constructor
  · intro index found
    obtain ⟨i, -, inside, rfl, right, connected, used⟩ := scan.got index found
    obtain ⟨free, answered⟩ := of_decide_eq_true right
    exact ⟨i, inside, rfl, free, (of_decide_eq_true answered).2, connected, used⟩
  · rintro ⟨i, inside, free, right⟩
    rw [Option.isSome_iff_ne_none]
    intro none
    rcases fails none i inside with locked | wrong
    · exact Bool.noConfusion (free.symm.trans locked)
    · exact Bool.noConfusion (right.symm.trans wrong)
  · exact fails
  · exact fun index inside => scanned_surjective inhabited outcomes inside
  · refine ⟨scan.once, fun index member => ?_⟩
    obtain ⟨j, -, -, rfl⟩ := scan.order index member
    exact Nat.mod_lt _ inhabited
  · exact scan.passed

/-- Three nodes: the first locked, the second disconnected and refused, the third connected. -/
def mixedPool : SqlConnPool where
  shutdown := 0
  sqlPool index :=
    if index = 0 then ⟨true, true, 1, 0, .dbConn⟩
    else if index = 1 then ⟨false, false, 0, 1, .dbDisconn⟩
    else ⟨true, false, 0, index, .dbConn⟩
  poolNumber := 3
  busyNumber := 1

/-- From the first node on, nothing reconnects and every ping is answered. -/
def refusing : Outcomes := ⟨0, fun _ => false, fun _ => true⟩

/-- The third node is returned. -/
theorem finds_usable_third : (getDbConnect mixedPool refusing).1 = some 2 ∧
    mixedPool.examines refusing = [0, 1, 2] ∧ FindsUsable mixedPool refusing :=
  ⟨by decide +kernel, by decide +kernel, finds_usable mixedPool (by decide) (by decide) refusing⟩

end UubangIot.SqlPool
