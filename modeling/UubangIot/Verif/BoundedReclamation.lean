import UubangIot.Verif.ConnectionLifeCycle
import UubangIot.Verif.SharedMemory

/-!
# How long a connection waits to be freed

A connection that was given up waits in the list of the free passes. A pass that finds it busy
counts that, and of two passes in a row that find it idle the second frees it. So whatever its tasks
do, it is in the list when a pass begins at most 201 times, and the last of these passes frees it.
-/

namespace UubangIot

open Effect Transition Transition.System

/-! ## Statement -/

/-- The connections that a turn takes up: those in the list when a free pass begins. -/
def takenUp (server : ServerState) : Turn → List Nat
  | .event .beginPass => server.passed.map Waiting.conn
  | _ => []

/-- At most 201 passes take up a connection, and it is gone when the last of them has come to it. -/
def ReclaimedInTime (now : ServerState × List Nat) : Prop :=
  ∀ conn, now.2.count conn ≤ 201 ∧
    (now.2.count conn = 201 → conn ∉ now.1.ahead.map Waiting.conn →
      now.1.memory.conns conn = none)

/-! ## Entries -/

/-- The connections in the lists. -/
def ServerState.waits (server : ServerState) : List Nat :=
  server.pinged.map Waiting.conn ++ server.queued ++ server.ahead.map Waiting.conn ++
    server.passed.map Waiting.conn

/-- How many passes an entry can have outlived. -/
def Waiting.spent (entry : Waiting) : Nat := 2 * entry.leftTime + entry.time

/-- An entry as passes leave it. -/
def Waiting.Patient (entry : Waiting) : Prop := entry.time ≤ 1 ∧ entry.spent ≤ 200

section

variable {config : Config} {server next : ServerState} {taken : List Nat} {turn : Turn}
  {conn : Nat} {entry : Waiting} {record : CLN}

/-- A pass that leaves an entry is one that it has outlived. -/
theorem Waiting.Patient.kept (patient : entry.Patient) (early : entry.due record = false) :
    (entry.kept record).Patient ∧ entry.spent + 1 ≤ (entry.kept record).spent := by
  have waits : ¬((entry.time = 1 ∧ record.info2 = 0) ∨ 100 ≤ entry.leftTime) :=
    of_decide_eq_false early
  have short : entry.leftTime < 100 := by
    by_contra long
    exact waits (.inr (by omega))
  have time := patient.1
  by_cases busy : record.info2 ≠ 0
  · rw [Waiting.kept, if_pos busy]
    simp only [Waiting.Patient, Waiting.spent]
    omega
  · have first : entry.time = 0 := by
      by_contra late
      exact waits (.inl ⟨by omega, not_not.mp busy⟩)
    rw [Waiting.kept, if_neg busy]
    simp only [Waiting.Patient, Waiting.spent]
    omega

/-- An entry that has outlived two hundred passes is due. -/
theorem Waiting.Patient.due (patient : entry.Patient) (long : 200 ≤ entry.spent) :
    entry.due record = true := by
  have time := patient.1
  have left : 100 ≤ entry.leftTime := by
    rw [Waiting.spent] at long
    omega
  exact decide_eq_true (.inr left)

/-! ## Every turn -/

/-- What a run keeps: connections wait in one place, and the passes that have taken up a connection
are those its entry has outlived. -/
structure Paced (now : ServerState × List Nat) : Prop where
  single : now.1.waits.Nodup
  numbered : ∀ conn ∈ now.1.waits, conn < now.1.accepted
  seen : ∀ conn ∈ now.2, conn < now.1.accepted
  /-- Before the list of the free passes. -/
  early : ∀ conn ∈ now.1.pinged.map Waiting.conn ++ now.1.queued, conn ∉ now.2
  /-- An entry that the pass has still to visit. -/
  ahead : ∀ entry ∈ now.1.ahead, entry.Patient ∧ now.2.count entry.conn ≤ entry.spent + 1
  /-- An entry that it has visited. -/
  passed : ∀ entry ∈ now.1.passed, entry.Patient ∧ now.2.count entry.conn ≤ entry.spent
  bound : ∀ conn, now.2.count conn ≤ 201
  freed : ∀ conn, now.2.count conn = 201 → conn ∉ now.1.ahead.map Waiting.conn →
    now.1.memory.conns conn = none

/-- Before the first connection nothing waits. -/
theorem paced_initial : Paced (.initial, []) where
  single := List.nodup_nil
  numbered _ member := by cases member
  seen _ member := by cases member
  early _ member := by cases member
  ahead _ member := by cases member
  passed _ member := by cases member
  bound _ := Nat.zero_le _
  freed _ count := by cases count

/-- A turn that leaves the lists and brings no connection back. -/
theorem Paced.same (paced : Paced (server, taken)) (pinged : next.pinged = server.pinged)
    (queued : next.queued = server.queued) (ahead : next.ahead = server.ahead)
    (passed : next.passed = server.passed) (accepted : next.accepted = server.accepted)
    (gone : ∀ conn, server.memory.conns conn = none → next.memory.conns conn = none) :
    Paced (next, taken) := by
  have waits : next.waits = server.waits := by
    rw [ServerState.waits, ServerState.waits, pinged, queued, ahead, passed]
  refine ⟨?_, ?_, ?_, ?_, ?_, ?_, paced.bound, ?_⟩
  · exact waits ▸ paced.single
  · rw [waits, accepted]
    exact paced.numbered
  · rw [accepted]
    exact paced.seen
  · rw [pinged, queued]
    exact paced.early
  · rw [ahead]
    exact paced.ahead
  · rw [passed]
    exact paced.passed
  · rw [ahead]
    exact fun conn count left => gone conn (paced.freed conn count left)

/-- A connection that is accepted is not waiting yet, so the pace is kept. -/
theorem Paced.accept (paced : Paced (server, taken)) (socket : Nat) :
    Paced (server.accept socket, taken) := by
  have perm : (server.accept socket).waits.Perm (server.accepted :: server.waits) := by
    simp only [ServerState.waits, ServerState.accept, List.map_append, List.map_cons, List.map_nil,
      List.append_assoc, List.singleton_append]
    exact List.perm_middle
  have unknown : server.accepted ∉ server.waits := fun member =>
    lt_irrefl _ (paced.numbered _ member)
  have unseen : server.accepted ∉ taken := fun member => lt_irrefl _ (paced.seen _ member)
  refine ⟨?_, fun conn member => ?_, fun conn member => ?_, fun conn member => ?_, paced.ahead,
    paced.passed, paced.bound, fun conn count left => ?_⟩
  · exact perm.nodup_iff.mpr (List.nodup_cons.mpr ⟨unknown, paced.single⟩)
  · rcases List.mem_cons.mp (perm.mem_iff.mp member) with rfl | old
    · exact Nat.lt_succ_self _
    · exact Nat.lt_succ_of_lt (paced.numbered conn old)
  · exact Nat.lt_succ_of_lt (paced.seen conn member)
  · by_cases new : conn = server.accepted
    · exact new ▸ unseen
    · apply paced.early conn
      simp only [ServerState.accept, List.map_append, List.mem_append, List.map_cons, List.map_nil,
        List.mem_singleton] at member ⊢
      tauto
  · have known : conn ∈ taken := List.count_pos_iff.mp (count.symm ▸ Nat.succ_pos _)
    have other : conn ≠ server.accepted := fun same => unseen (same ▸ known)
    have old := paced.freed conn count left
    exact (Function.update_of_ne other _ server.memory.conns).trans old

/-- A ping pass gives connections up. -/
theorem Paced.ping (paced : Paced (server, taken)) (lens : List (Option Int)) :
    Paced (server.ping lens, taken) := by
  have moved := pingLoop_perm server.pinged lens
  have before : ((server.ping lens).pinged.map Waiting.conn ++ (server.ping lens).queued).Perm
      (server.pinged.map Waiting.conn ++ server.queued) := by
    have swapped : ((pingLoop server.pinged lens).1.map Waiting.conn ++
        (server.queued ++ (pingLoop server.pinged lens).2)).Perm
          ((pingLoop server.pinged lens).1.map Waiting.conn ++
            (pingLoop server.pinged lens).2 ++ server.queued) := by
      rw [List.append_assoc]
      exact List.perm_append_comm.append_left _
    exact swapped.trans (moved.append_right _)
  have perm : (server.ping lens).waits.Perm server.waits :=
    (before.append_right _).append_right _
  refine ⟨perm.nodup_iff.mpr paced.single, fun conn member => ?_, paced.seen, fun conn member => ?_,
    paced.ahead, paced.passed, paced.bound, paced.freed⟩
  · exact paced.numbered conn (perm.mem_iff.mp member)
  · exact paced.early conn (before.mem_iff.mp member)

/-- A connection joins the list of the free passes. -/
theorem Paced.addConnMemWait4Free (paced : Paced (server, taken)) {allocated : Bool}
    (added : server.addConnMemWait4Free allocated = some next) : Paced (next, taken) := by
  unfold ServerState.addConnMemWait4Free at added
  split at added
  · rename_i first rest queue none
    obtain rfl := Option.some.inj added
    have new : first ∉ taken := paced.early first (by simp [queue])
    have early (conn : Nat) (member : conn ∈ server.pinged.map Waiting.conn ++ rest) :
        conn ∉ taken := by
      apply paced.early conn
      rw [queue]
      simp only [List.mem_append, List.mem_cons] at member ⊢
      tauto
    cases allocated with
    | false =>
      have fewer : ({ server with queued := rest } : ServerState).waits.Sublist server.waits := by
        rw [ServerState.waits, ServerState.waits, queue]
        exact (((List.sublist_cons_self first rest).append_left _).append_right _).append_right _
      exact ⟨paced.single.sublist fewer, fun conn member =>
        paced.numbered conn (fewer.subset member), paced.seen, early, paced.ahead, paced.passed,
        paced.bound, paced.freed⟩
    | true =>
      have perm : ({ server with queued := rest, passed := server.passed ++ [⟨first, 0, 0⟩] } :
          ServerState).waits.Perm server.waits := by
        simp only [ServerState.waits, queue, List.map_append, List.map_cons, List.map_nil,
          List.append_assoc, List.cons_append]
        apply List.Perm.append_left
        rw [← List.append_assoc, ← List.append_assoc]
        exact List.perm_append_comm.trans (by simp)
      refine ⟨perm.nodup_iff.mpr paced.single, fun conn member => ?_, paced.seen, early,
        paced.ahead, fun entry member => ?_, paced.bound, paced.freed⟩
      · exact paced.numbered conn (perm.mem_iff.mp member)
      · rcases List.mem_append.mp member with old | joins
        · exact paced.passed entry old
        · obtain rfl := List.mem_singleton.mp joins
          have count : taken.count first = 0 := List.count_eq_zero.mpr new
          exact ⟨⟨Nat.zero_le _, Nat.zero_le _⟩, count.le⟩
  · cases added

/-- A pass begins: it takes up every connection of its list. -/
theorem Paced.beginPass (paced : Paced (server, taken)) (began : server.beginPass = some next) :
    Paced (next, taken ++ server.passed.map Waiting.conn) := by
  unfold ServerState.beginPass at began
  split at began
  · rename_i none
    obtain rfl := Option.some.inj began
    have waits : ({ server with ahead := server.passed, passed := [] } : ServerState).waits =
        server.waits := by
      simp only [ServerState.waits, none, List.map_nil, List.append_nil]
    have once : (server.passed.map Waiting.conn).Nodup :=
      paced.single.sublist (List.sublist_append_right _ _)
    have one (conn : Nat) : (server.passed.map Waiting.conn).count conn ≤ 1 :=
      List.nodup_iff_count_le_one.mp once conn
    have apart (conn : Nat)
        (member : conn ∈ server.pinged.map Waiting.conn ++ server.queued) :
        conn ∉ server.passed.map Waiting.conn := by
      intro listed
      have disjoint := (List.nodup_append.mp paced.single).2.2
      have placed : conn ∈ server.pinged.map Waiting.conn ++ server.queued ++
          server.ahead.map Waiting.conn := List.mem_append_left _ member
      exact disjoint conn placed conn listed rfl
    refine ⟨waits ▸ paced.single, fun conn member => ?_, fun conn member => ?_,
      fun conn member => ?_, fun entry member => ?_, fun entry member => ?_, fun conn => ?_,
      fun conn count left => ?_⟩
    · exact paced.numbered conn (waits ▸ member)
    · rcases List.mem_append.mp member with old | taken
      · exact paced.seen conn old
      · exact paced.numbered conn (List.mem_append_right _ taken)
    · intro known
      rcases List.mem_append.mp known with old | taken
      · exact paced.early conn member old
      · exact apart conn member taken
    · have held := paced.passed entry member
      refine ⟨held.1, ?_⟩
      have counted := one entry.conn
      rw [List.count_append]
      have spent := held.2
      dsimp only at spent
      omega
    · cases member
    · rw [List.count_append]
      by_cases listed : conn ∈ server.passed.map Waiting.conn
      · obtain ⟨entry, member, rfl⟩ := List.mem_map.mp listed
        have held := paced.passed entry member
        have counted := one entry.conn
        have spent := held.2
        have patient := held.1.2
        dsimp only at spent
        omega
      · have old := paced.bound conn
        rw [List.count_eq_zero.mpr listed]
        exact old
    · rw [List.count_append, List.count_eq_zero.mpr left, Nat.add_zero] at count
      apply paced.freed conn count
      rw [none]
      exact List.not_mem_nil
  · cases began

/-- A connection that is gone stays so where a connection is freed. -/
theorem freeConn_gone {memory : Memory} {freed : Nat} (gone : memory.conns conn = none) :
    (memory.freeConn freed record).conns conn = none := by
  by_contra alive
  obtain ⟨last, known⟩ := Option.ne_none_iff_exists'.mp alive
  exact Option.some_ne_none _ ((freeConn_record known).2.symm.trans gone)

/-- A pass leaves out an entry whose connection is gone. -/
theorem Paced.drop (paced : Paced (server, taken)) {rest : List Waiting} {memory : Memory}
    (list : server.ahead = entry :: rest)
    (gone : ∀ conn, server.memory.conns conn = none → memory.conns conn = none)
    (none : memory.conns entry.conn = none) :
    Paced ({ server with memory := memory, ahead := rest }, taken) := by
  have fewer : ({ server with memory := memory, ahead := rest } : ServerState).waits.Sublist
      server.waits := by
    rw [ServerState.waits, ServerState.waits, list]
    exact ((List.sublist_cons_self entry.conn _).append_left _).append_right _
  refine ⟨paced.single.sublist fewer, fun conn member => paced.numbered conn (fewer.subset member),
    paced.seen, paced.early, fun other member => paced.ahead other (by simp [list, member]),
    paced.passed, paced.bound, fun conn count after => ?_⟩
  by_cases own : conn = entry.conn
  · exact own ▸ none
  · apply gone
    apply paced.freed conn count
    simp [list, own, after]

/-- A pass keeps an entry, which was not due. -/
theorem Paced.keep (paced : Paced (server, taken)) {rest : List Waiting}
    (list : server.ahead = entry :: rest) (early : entry.due record = false) :
    Paced ({ server with ahead := rest, passed := server.passed ++ [entry.kept record] },
      taken) := by
  have held : entry.Patient ∧ taken.count entry.conn ≤ entry.spent + 1 :=
    paced.ahead entry (by simp [list])
  obtain ⟨patient, outlived⟩ := held.1.kept early
  have perm : ({ server with ahead := rest, passed := server.passed ++ [entry.kept record] } :
      ServerState).waits.Perm server.waits := by
    simp only [ServerState.waits, list, List.map_append, List.map_cons, List.map_nil,
      Waiting.kept_conn, List.append_assoc, List.cons_append]
    apply List.Perm.append_left
    apply List.Perm.append_left
    rw [← List.append_assoc]
    exact List.perm_append_comm.trans (by simp)
  refine ⟨perm.nodup_iff.mpr paced.single, fun conn member =>
    paced.numbered conn (perm.mem_iff.mp member), paced.seen, paced.early,
    fun other member => paced.ahead other (by simp [list, member]), fun other member => ?_,
    paced.bound, fun conn count after => ?_⟩
  · rcases List.mem_append.mp member with old | kept
    · exact paced.passed other old
    · obtain rfl := List.mem_singleton.mp kept
      rw [Waiting.kept_conn]
      exact ⟨patient, held.2.trans outlived⟩
  · by_cases own : conn = entry.conn
    · subst own
      have spent : 200 ≤ entry.spent := by
        have counted := held.2
        dsimp only at count
        omega
      rw [held.1.due spent] at early
      cases early
    · apply paced.freed conn count
      simp [list, own, after]

/-- A pass comes to its next entry. -/
theorem Paced.visit (paced : Paced (server, taken)) (visited : server.visit = some next) :
    Paced (next, taken) := by
  obtain ⟨entry, rest, list, outcome⟩ := visit_cases visited
  rcases outcome with ⟨none, rfl⟩ | ⟨record, known, ⟨due, rfl⟩ | ⟨early, rfl⟩⟩
  · exact paced.drop list (fun _ gone => gone) none
  · exact paced.drop list (fun _ gone => freeConn_gone gone)
      (Function.update_self _ _ server.memory.conns)
  · exact paced.keep list early

/-- A record that is put back is that of a connection there was. -/
theorem store_gone {other : Nat} (known : server.memory.conns conn ≠ none)
    (gone : server.memory.conns other = none) :
    (server.store conn record).memory.conns other = none := by
  have apart : other ≠ conn := fun same => known (same ▸ gone)
  exact (Function.update_of_ne apart _ server.memory.conns).trans gone

/-- A turn keeps the pace of the reclamation. -/
theorem paced_turn (config : Config) (now : ServerState × List Nat) (turn : Turn)
    (after : ServerState × List Nat) (paced : Paced now)
    (turned : ((interleaved config).observed takenUp).step now turn = some after) :
    Paced after := by
  obtain ⟨stepped, shown⟩ := observed_step.mp turned
  obtain ⟨server, taken⟩ := now
  obtain ⟨next, later⟩ := after
  dsimp only at stepped shown
  subst shown
  have quiet (none : takenUp server turn = []) (paced : Paced (next, taken)) :
      Paced (next, taken ++ takenUp server turn) := by
    rw [none, List.append_nil]
    exact paced
  cases turn with
  | event event =>
    cases event with
    | accept socket =>
      obtain rfl := Option.some.inj stepped
      exact quiet rfl (paced.accept socket)
    | receive conn packet allocated =>
      apply quiet rfl
      have received : server.receive config conn packet allocated = some next := stepped
      obtain ⟨record, known, ⟨-, rfl⟩ | ⟨-, -, rfl⟩ | ⟨later, -, rfl⟩ |
        ⟨-, -, later, request, -, -, -, rfl⟩⟩ := receive_cases received
      · exact paced
      · exact paced.same rfl rfl rfl rfl rfl fun _ gone => gone
      · exact paced.same rfl rfl rfl rfl rfl fun _ gone => store_gone (by simp [known]) gone
      · exact paced.same rfl rfl rfl rfl rfl fun _ gone => store_gone (by simp [known]) gone
    | ping lens =>
      obtain rfl := Option.some.inj stepped
      exact quiet rfl (paced.ping lens)
    | addConnMemWait4Free allocated => exact quiet rfl (paced.addConnMemWait4Free stepped)
    | beginPass => exact paced.beginPass stepped
    | visit => exact quiet rfl (paced.visit stepped)
  | step index answer =>
    apply quiet rfl
    have performed : server.step index answer = some next := stepped
    obtain ⟨task, op, rest, response, memory, -, -, -, changed, rfl⟩ := step_cases performed
    refine paced.same rfl rfl rfl rfl rfl fun conn gone => ?_
    by_contra alive
    obtain ⟨record, known⟩ := Option.ne_none_iff_exists'.mp alive
    obtain ⟨before, was, -⟩ := after_record changed known
    exact Option.some_ne_none _ (was.symm.trans gone)
  | leave index =>
    apply quiet rfl
    have left : server.leave index = some next := stepped
    obtain ⟨task, -, -, rfl⟩ := leave_cases left
    exact paced.same rfl rfl rfl rfl rfl fun _ gone => gone

/-- In every run, at most 201 free passes begin with a connection in their list, and the last of
them frees it, whatever the tasks of the connection do. -/
theorem reclaimed_in_time (config : Config) (turns : List Turn) :
    ((interleaved config).observed takenUp).Always ReclaimedInTime (.initial, []) turns :=
  always_of_preserved (fun _ paced conn => ⟨paced.bound conn, paced.freed conn⟩)
    (paced_turn config) paced_initial

end

end UubangIot
