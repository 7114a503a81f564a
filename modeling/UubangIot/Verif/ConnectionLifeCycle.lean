import Mathlib.Data.List.Perm.Basic
import UubangIot.Server.ConnectionLists

/-!
# The life cycle of a connection

From its accept to its end a connection is in one place: in the ping list, in a task, in the free
list or freed. Each step takes some connections from one place to the next, and the four places
together are always a rearrangement of the connections that were accepted.
-/

namespace UubangIot

open LinkedCells Transition Transition.System

/-- A step that the lists allow: `malloc` gives a new address, and the task is there. -/
def ConnectionLists.allows (lists : ConnectionLists) : ConnectionStep → Prop
  | .accept node => unusedAddress lists.mallocHead node = true
  | .addConnMemWait4Free index node =>
    index < lists.queued.length ∧ unusedAddress lists.head node = true
  | .ping _ | .freePass _ => True

/-- Every accepted connection is in one place, and `AcceptClientNum` counts those not freed. -/
def ConnectionLists.LivesOnce (lists : ConnectionLists) : Prop :=
  ∃ pinged waiting, Holds lists.mallocHead pinged ∧ Holds lists.head waiting ∧
    (∀ conn < lists.accepted, (pinged.map Waiting.conn).count conn + lists.queued.count conn +
      (waiting.map Waiting.conn).count conn + lists.freed.count conn = 1) ∧
    lists.acceptClientNum = (List.range lists.accepted).countP fun conn => conn ∉ lists.freed

/-! ## The passes over entries -/

/-- A ping at one entry, by the time it then has. -/
theorem ping_cons (entry : Waiting) (rest : List Waiting) (lens : List (Option Int)) :
    ∃ time, (∀ given, pingEntry (lens, given) entry =
        if 1 < time then ((lens.tail, given ++ [entry.conn]), none)
        else ((lens.tail, given), some { entry with time })) ∧
      pingLoop (entry :: rest) lens =
        if 1 < time then ((pingLoop rest lens.tail).1, entry.conn :: (pingLoop rest lens.tail).2)
        else ({ entry with time } :: (pingLoop rest lens.tail).1, (pingLoop rest lens.tail).2) :=
  ⟨_, fun _ => rfl, rfl⟩

/-- A ping pass over linked cells is the one over a list of entries. -/
theorem sweep_pingEntry (entries : List Waiting) (lens : List (Option Int)) (given : List Nat) :
    (sweep pingEntry entries (lens, given)).1 = (pingLoop entries lens).1 ∧
      (sweep pingEntry entries (lens, given)).2.2 = given ++ (pingLoop entries lens).2 := by
  induction entries generalizing lens given with
  | nil => exact ⟨rfl, (List.append_nil _).symm⟩
  | cons entry rest ih =>
    obtain ⟨time, visited, loop⟩ := ping_cons entry rest lens
    rw [loop]
    by_cases late : 1 < time
    · have later := ih lens.tail (given ++ [entry.conn])
      rw [List.append_assoc, List.singleton_append] at later
      rw [sweep_dropped ((visited given).trans (if_pos late)), if_pos late]
      exact later
    · have later := ih lens.tail given
      rw [sweep_kept ((visited given).trans (if_neg late)), if_neg late]
      exact ⟨congrArg _ later.1, later.2⟩

/-- What a ping pass keeps and gives up is what there was. -/
theorem pingLoop_perm (entries : List Waiting) (lens : List (Option Int)) :
    ((pingLoop entries lens).1.map Waiting.conn ++ (pingLoop entries lens).2).Perm
      (entries.map Waiting.conn) := by
  induction entries generalizing lens with
  | nil => exact List.Perm.refl _
  | cons entry rest ih =>
    obtain ⟨time, -, loop⟩ := ping_cons entry rest lens
    rw [loop]
    split
    · exact List.perm_middle.trans ((ih lens.tail).cons entry.conn)
    · exact (ih lens.tail).cons entry.conn

/-- A kept entry is for the same connection. -/
theorem Waiting.kept_conn (entry : Waiting) (record : CLN) : (entry.kept record).conn = entry.conn := by
  unfold Waiting.kept
  split <;> rfl

/-- A free pass counts down once for every connection it frees, and what it keeps and frees is what
there was. -/
theorem sweep_freeEntry (records : Nat → CLN) (entries : List Waiting) (num : Int)
    (freed : List Nat) :
    ∃ gone, (sweep (freeEntry records) entries (num, freed)).2 = (num - gone.length, freed ++ gone) ∧
      ((sweep (freeEntry records) entries (num, freed)).1.map Waiting.conn ++ gone).Perm
        (entries.map Waiting.conn) := by
  induction entries generalizing num freed with
  | nil =>
    refine ⟨[], ?_, List.Perm.refl _⟩
    rw [List.append_nil]
    exact Prod.ext (Int.sub_zero num).symm rfl
  | cons entry rest ih =>
    by_cases due : entry.due (records entry.conn) = true
    · obtain ⟨gone, counted, perm⟩ := ih (num - 1) (freed ++ [entry.conn])
      rw [sweep_dropped (if_pos due)]
      refine ⟨entry.conn :: gone, ?_, List.perm_middle.trans (perm.cons entry.conn)⟩
      rw [List.append_assoc, List.singleton_append] at counted
      refine counted.trans (Prod.ext ?_ rfl)
      change num - 1 - (gone.length : Int) = num - ((gone.length + 1 : Nat) : Int)
      omega
    · obtain ⟨gone, counted, perm⟩ := ih num freed
      rw [sweep_kept (if_neg due)]
      refine ⟨gone, counted, ?_⟩
      change (((entry.kept (records entry.conn)).conn :: _) ++ gone).Perm _
      rw [Waiting.kept_conn]
      exact perm.cons entry.conn

/-! ## The invariant -/

/-- The four places of the lists and their entries. -/
def ConnectionLists.places (lists : ConnectionLists) (pinged waiting : List Waiting) : List Nat :=
  pinged.map Waiting.conn ++ (lists.queued ++ (waiting.map Waiting.conn ++ lists.freed))

/-- The places together are the accepted connections. -/
structure Sorted (lists : ConnectionLists) (pinged waiting : List Waiting) : Prop where
  /-- The ping list. -/
  mallocHead : Holds lists.mallocHead pinged
  /-- The free list. -/
  head : Holds lists.head waiting
  /-- All places. -/
  places : (lists.places pinged waiting).Perm (List.range lists.accepted)
  /-- `AcceptClientNum`. -/
  count : lists.acceptClientNum = lists.accepted - lists.freed.length

variable {lists next : ConnectionLists} {pinged waiting : List Waiting}

/-- Both lists are empty at the start. -/
theorem sorted_initial : Sorted .initial [] [] :=
  ⟨holds_empty, holds_empty, List.Perm.refl _, rfl⟩

/-- Neither list is longer than the accepted connections. -/
theorem Sorted.short (sorted : Sorted lists pinged waiting) :
    pinged.length < lists.accepted + 1 ∧ waiting.length < lists.accepted + 1 := by
  have whole := sorted.places.length_eq
  simp only [ConnectionLists.places, List.length_append, List.length_map, List.length_range] at whole
  omega

/-- No connection is in two places. -/
theorem Sorted.livesOnce (sorted : Sorted lists pinged waiting) : lists.LivesOnce := by
  refine ⟨pinged, waiting, sorted.mallocHead, sorted.head, fun conn below => ?_, ?_⟩
  · have once : (lists.places pinged waiting).count conn = 1 := by
      rw [sorted.places.count_eq]
      exact List.count_eq_one_of_mem List.nodup_range (List.mem_range.mpr below)
    simp only [ConnectionLists.places, List.count_append] at once
    omega
  · have apart : (pinged.map Waiting.conn ++ (lists.queued ++ waiting.map Waiting.conn) ++
        lists.freed).Perm (List.range lists.accepted) := by
      have places := sorted.places
      rwa [ConnectionLists.places, ← List.append_assoc lists.queued, ← List.append_assoc] at places
    have disjoint := List.disjoint_of_nodup_append (apart.nodup_iff.mpr List.nodup_range)
    have outside : (pinged.map Waiting.conn ++ (lists.queued ++ waiting.map Waiting.conn)).countP
        (fun conn => conn ∉ lists.freed) =
        (pinged.map Waiting.conn ++ (lists.queued ++ waiting.map Waiting.conn)).length :=
      List.countP_eq_length.mpr fun conn member => decide_eq_true (disjoint member)
    have inside : lists.freed.countP (fun conn => conn ∉ lists.freed) = 0 :=
      List.countP_eq_zero.mpr fun conn member => by simpa using member
    have total := apart.length_eq
    rw [List.length_append, List.length_range] at total
    rw [← apart.countP_eq, List.countP_append, outside, inside, sorted.count]
    omega

/-- A connection that is accepted joins the sorted list. -/
theorem Sorted.accept (sorted : Sorted lists pinged waiting) {node : Nat}
    (unused : unusedAddress lists.mallocHead node = true) :
    ∃ later entries, lists.accept node = some later ∧ Sorted later entries waiting := by
  unfold ConnectionLists.accept
  rw [if_pos unused]
  split
  · exact ⟨lists, pinged, rfl, sorted⟩
  · have address : node ≠ 0 ∧ lists.mallocHead.cells node = none := by
      rwa [unusedAddress, Bool.and_eq_true, decide_eq_true_eq, Option.isNone_iff_eq_none] at unused
    obtain ⟨list, appended, holds⟩ := Linked.append_holds sorted.mallocHead sorted.short.1 address.1
      address.2 ⟨lists.accepted, 0, 0⟩
    rw [appended]
    refine ⟨_, pinged ++ [⟨lists.accepted, 0, 0⟩], rfl, holds, sorted.head, ?_, ?_⟩
    · have moved := List.perm_middle.trans (sorted.places.cons lists.accepted)
      rw [ConnectionLists.places, List.map_append, List.map_singleton, List.append_assoc,
        List.singleton_append, List.range_succ]
      exact moved.trans (List.perm_append_singleton _ _).symm
    · have count := sorted.count
      change lists.acceptClientNum + 1 = ((lists.accepted + 1 : Nat) : Int) - lists.freed.length
      omega

/-- A ping pass keeps the lists sorted. -/
theorem Sorted.ping (sorted : Sorted lists pinged waiting) (lens : List (Option Int)) :
    ∃ later entries, lists.ping lens = some later ∧ Sorted later entries waiting := by
  obtain ⟨list, passed, holds⟩ := Linked.pass_holds pingEntry sorted.mallocHead sorted.short.1 (lens, [])
  obtain ⟨kept, given⟩ := sweep_pingEntry pinged lens []
  rw [List.nil_append] at given
  rw [kept] at holds
  rw [ConnectionLists.ping, passed]
  refine ⟨_, (pingLoop pinged lens).1, rfl, holds, sorted.head, ?_, sorted.count⟩
  refine List.Perm.trans ?_ sorted.places
  change ((pingLoop pinged lens).1.map Waiting.conn ++
    (lists.queued ++ (sweep pingEntry pinged (lens, [])).2.2 ++
      (waiting.map Waiting.conn ++ lists.freed))).Perm _
  rw [given, ConnectionLists.places]
  have rest := (pingLoop_perm pinged lens).append_right
    (lists.queued ++ (waiting.map Waiting.conn ++ lists.freed))
  rw [List.append_assoc] at rest
  refine List.Perm.trans (List.Perm.append_left _ ?_) rest
  rw [← List.append_assoc (pingLoop pinged lens).2]
  exact List.perm_append_comm.append_right _

/-- A task that hands a connection over keeps the lists sorted. -/
theorem Sorted.addConnMemWait4Free (sorted : Sorted lists pinged waiting) {index node : Nat}
    (inside : index < lists.queued.length) (unused : unusedAddress lists.head node = true) :
    ∃ later entries, lists.addConnMemWait4Free index node = some later ∧
      Sorted later pinged entries := by
  have address : node ≠ 0 ∧ lists.head.cells node = none := by
    rwa [unusedAddress, Bool.and_eq_true, decide_eq_true_eq, Option.isNone_iff_eq_none] at unused
  obtain ⟨list, appended, holds⟩ := Linked.append_holds sorted.head sorted.short.2 address.1
    address.2 ⟨lists.queued[index], 0, 0⟩
  have task : lists.queued[index]? = some lists.queued[index] := List.getElem?_eq_getElem inside
  unfold ConnectionLists.addConnMemWait4Free
  rw [task]
  dsimp only
  rw [if_pos unused, appended]
  refine ⟨_, waiting ++ [⟨lists.queued[index], 0, 0⟩], rfl, sorted.mallocHead, holds, ?_, sorted.count⟩
  refine List.Perm.trans (List.Perm.append_left _ ?_) sorted.places
  have taken : (lists.queued[index] :: lists.queued.eraseIdx index).Perm lists.queued :=
    List.getElem_cons_eraseIdx_perm inside
  have rest := taken.append_right (waiting.map Waiting.conn ++ lists.freed)
  refine List.Perm.trans ?_ rest
  rw [List.map_append, List.map_singleton, List.append_assoc, List.singleton_append,
    List.cons_append]
  refine List.Perm.trans (List.Perm.append_left _ List.perm_middle) ?_
  exact List.perm_middle

/-- A free pass keeps the lists sorted. -/
theorem Sorted.freePass (sorted : Sorted lists pinged waiting) (records : Nat → CLN) :
    ∃ later entries, lists.freePass records = some later ∧ Sorted later pinged entries := by
  obtain ⟨list, passed, holds⟩ := Linked.pass_holds (freeEntry records) sorted.head
    sorted.short.2 (lists.acceptClientNum, lists.freed)
  obtain ⟨gone, counted, perm⟩ := sweep_freeEntry records waiting lists.acceptClientNum lists.freed
  rw [counted] at passed
  rw [ConnectionLists.freePass, passed]
  refine ⟨_, _, rfl, sorted.mallocHead, holds, ?_, ?_⟩
  · refine List.Perm.trans (List.Perm.append_left _ (List.Perm.append_left _ ?_)) sorted.places
    have rest := perm.append_right lists.freed
    rw [List.append_assoc] at rest
    exact (List.Perm.append_left _ List.perm_append_comm).trans rest
  · have count := sorted.count
    change lists.acceptClientNum - gone.length =
      lists.accepted - ((lists.freed ++ gone).length : Int)
    rw [List.length_append]
    omega

/-- Every step that the lists allow takes place. -/
theorem Sorted.step (sorted : Sorted lists pinged waiting) {label : ConnectionStep}
    (allowed : lists.allows label) :
    ∃ later before behind, lists.step label = some later ∧ Sorted later before behind := by
  cases label with
  | accept node =>
    obtain ⟨later, entries, stepped, after⟩ := sorted.accept allowed
    exact ⟨later, entries, waiting, stepped, after⟩
  | ping lens =>
    obtain ⟨later, entries, stepped, after⟩ := sorted.ping lens
    exact ⟨later, entries, waiting, stepped, after⟩
  | addConnMemWait4Free index node =>
    obtain ⟨later, entries, stepped, after⟩ := sorted.addConnMemWait4Free allowed.1 allowed.2
    exact ⟨later, pinged, entries, stepped, after⟩
  | freePass records =>
    obtain ⟨later, entries, stepped, after⟩ := sorted.freePass records
    exact ⟨later, pinged, entries, stepped, after⟩

/-- A step that takes place was allowed, or changed nothing. -/
theorem allows_of_step {label : ConnectionStep} (stepped : lists.step label = some next) :
    lists.allows label ∨ next = lists := by
  cases label with
  | accept node =>
    change lists.accept node = some next at stepped
    unfold ConnectionLists.accept at stepped
    split at stepped
    · exact .inr (Option.some.inj stepped).symm
    · exact .inl (Option.ite_none_right_eq_some.mp stepped).1
  | ping lens => exact .inl trivial
  | addConnMemWait4Free index node =>
    change lists.addConnMemWait4Free index node = some next at stepped
    unfold ConnectionLists.addConnMemWait4Free at stepped
    split at stepped
    · contradiction
    · rename_i conn task
      have inside : index < lists.queued.length := (List.getElem?_eq_some_iff.mp task).1
      exact .inl ⟨inside, (Option.ite_none_right_eq_some.mp stepped).1⟩
  | freePass records => exact .inl trivial

/-- In every run every accepted connection is in one place, `AcceptClientNum` counts those that are
not freed, and every step that the lists allow takes place. -/
theorem connections_live_once (steps : List ConnectionStep) :
    connectionLists.Always (fun lists => lists.LivesOnce ∧
      ∀ label, lists.allows label → ∃ later, connectionLists.step lists label = some later)
      .initial steps := by
  have implied (lists : ConnectionLists) (kept : ∃ pinged waiting, Sorted lists pinged waiting) :
      lists.LivesOnce ∧
        ∀ label, lists.allows label → ∃ later, connectionLists.step lists label = some later := by
    obtain ⟨pinged, waiting, sorted⟩ := kept
    refine ⟨sorted.livesOnce, fun label allowed => ?_⟩
    obtain ⟨later, -, -, stepped, -⟩ := sorted.step allowed
    exact ⟨later, stepped⟩
  refine always_of_preserved implied (fun lists label next kept stepped => ?_)
    ⟨[], [], sorted_initial⟩
  obtain ⟨pinged, waiting, sorted⟩ := kept
  rcases allows_of_step stepped with allowed | rfl
  · obtain ⟨later, before, behind, taken, after⟩ := sorted.step allowed
    obtain rfl := Option.some.inj (taken.symm.trans stepped)
    exact ⟨before, behind, after⟩
  · exact ⟨pinged, waiting, sorted⟩

end UubangIot
