import UubangIot.Verif.TaskAccounting

/-!
# When a free pass frees a connection

A free pass frees a connection that it has seen idle before and finds idle again, or one that it has
found busy a hundred times. In the runs whose tasks count themselves off, the first are connections
without a task; so a pass frees a connection under a task exactly where it comes for the hundredth
time to one that is still busy.
-/

namespace UubangIot

open Effect Effect.Prog Transition Transition.System

/-- The next operation of a task misses the device it looks for, and the task returns there. -/
def Task.missesAt (task : Task) (answer : Answer) : Bool :=
  match task.program with
  | .ret _ => false
  | .call op _ => (op.read answer).any fun response => task.request.misses ⟨op, response⟩

/-- Every task counts itself off once: the requests that are taken up do not return early. -/
def CountsOff (server : ServerState) : Turn → Prop
  | .event (.receive conn packet allocated) => readable packet = true → allocated = true →
    ∀ record ∈ server.memory.conns conn, admitted conn record packet = true →
      (snapshot conn record packet).1.early = false
  | .step index answer => ∀ task ∈ server.tasks[index]?, task.missesAt answer = false
  | _ => True

/-- A free pass frees no connection with a task. -/
def FreesIdle (server : ServerState) : Turn → Prop
  | .event .visit => ∀ entry ∈ server.ahead.head?, ∀ record ∈ server.memory.conns entry.conn,
    entry.due record = true → server.running entry.conn = 0
  | _ => True

/-- A free pass that comes to a connection after a hundred times finds it idle. -/
def AwaitsIdle (server : ServerState) : Turn → Prop
  | .event .visit => ∀ entry ∈ server.ahead.head?, ∀ record ∈ server.memory.conns entry.conn,
    100 ≤ entry.leftTime → record.info2 = 0
  | _ => True

instance (server : ServerState) : (turn : Turn) → Decidable (FreesIdle server turn)
  | .event .visit => inferInstanceAs (Decidable (∀ entry ∈ _, ∀ record ∈ _, _ → _))
  | .event (.accept _) | .event (.receive _ _ _) | .event (.ping _)
  | .event (.addConnMemWait4Free _) | .event .beginPass | .step _ _ | .leave _ =>
    inferInstanceAs (Decidable True)

instance (server : ServerState) : (turn : Turn) → Decidable (CountsOff server turn)
  | .event (.receive _ _ _) => inferInstanceAs (Decidable (_ → _ → ∀ record ∈ _, _ → _))
  | .step _ _ => inferInstanceAs (Decidable (∀ task ∈ _, _))
  | .event (.accept _) | .event (.ping _) | .event (.addConnMemWait4Free _) | .event .beginPass
  | .event .visit | .leave _ => inferInstanceAs (Decidable True)

/-! ## Requests without memory -/

/-- The server but for the use of a null request. -/
def ServerState.sound (server : ServerState) : ServerState := { server with nullUsed := false }

variable {config : Config} {server next : ServerState} {turn : Turn}

/-- A turn does not depend on a null request that was used, and uses one only where there is no
memory for a request. -/
theorem turn_sound (turned : server.turn config turn = some next)
    (memory : ∀ conn packet, turn = .event (.receive conn packet false) → readable packet = false) :
    server.sound.turn config turn = some next.sound := by
  cases turn with
  | event event =>
    cases event with
    | accept socket =>
      obtain rfl := Option.some.inj turned
      rfl
    | receive conn packet allocated =>
      change server.receive config conn packet allocated = some next at turned
      change server.sound.receive config conn packet allocated = some next.sound
      unfold ServerState.receive at turned ⊢
      cases known : server.memory.conns conn with
      | none => simp [known] at turned
      | some record =>
        have same : server.sound.memory.conns conn = some record := known
        simp only [known] at turned
        simp only [same]
        cases worked : serverWork conn record packet allocated with
        | closed =>
          rw [worked] at turned
          obtain rfl := Option.some.inj turned
          rfl
        | nullRequest sent =>
          rcases serverWork_cases conn record packet allocated with ⟨-, other⟩ |
            ⟨read, missing, -⟩ | ⟨-, -, -, later, others, -, other⟩ |
            ⟨-, -, -, later, others, request, -, -, -, other⟩
          · exact Work.noConfusion (worked.symm.trans other)
          · subst missing
            exact Bool.noConfusion ((memory conn packet rfl).symm.trans read)
          · exact Work.noConfusion (worked.symm.trans other)
          · exact Work.noConfusion (worked.symm.trans other)
        | refused later sent =>
          rw [worked] at turned
          obtain rfl := Option.some.inj turned
          rfl
        | dispatched later sent request =>
          rw [worked] at turned
          obtain rfl := Option.some.inj turned
          rfl
    | ping lens =>
      obtain rfl := Option.some.inj turned
      rfl
    | addConnMemWait4Free allocated =>
      change server.addConnMemWait4Free allocated = some next at turned
      change server.sound.addConnMemWait4Free allocated = some next.sound
      unfold ServerState.addConnMemWait4Free at turned ⊢
      split at turned
      · rename_i conn rest queued ahead
        obtain rfl := Option.some.inj turned
        simp only [ServerState.sound, queued, ahead]
      · contradiction
    | beginPass =>
      obtain ⟨done, answered⟩ := Option.ite_none_right_eq_some.mp turned
      obtain rfl := Option.some.inj answered
      exact if_pos done
    | visit =>
      change server.visit = some next at turned
      change server.sound.visit = some next.sound
      unfold ServerState.visit at turned ⊢
      cases list : server.ahead with
      | nil => simp [list] at turned
      | cons entry rest =>
        simp only [list] at turned
        simp only [ServerState.sound, list]
        cases known : server.memory.conns entry.conn with
        | none =>
          simp only [known] at turned
          obtain rfl := Option.some.inj turned
          rfl
        | some record =>
          simp only [known] at turned
          dsimp only
          split at turned
          · rename_i due
            obtain rfl := Option.some.inj turned
            exact if_pos due
          · rename_i early
            obtain rfl := Option.some.inj turned
            exact if_neg early
  | step index answer =>
    change server.step index answer = some next at turned
    change server.sound.step index answer = some next.sound
    obtain ⟨task, op, rest, response, memory, found, program, read, after, rfl⟩ := step_cases turned
    have there : server.sound.tasks[index]? = some task := found
    simp only [ServerState.step, there, program, read, Option.bind_some]
    rw [show server.sound.memory = server.memory from rfl, after]
    rfl
  | leave index =>
    change server.leave index = some next at turned
    change server.sound.leave index = some next.sound
    unfold ServerState.leave at turned ⊢
    split at turned
    · rename_i request object value ended found
      have there : server.sound.tasks[index]? = some ⟨request, object, .ret value, ended⟩ := found
      rw [there]
      obtain rfl := Option.some.inj turned
      rfl
    · contradiction

/-- A request without memory changes nothing else. -/
theorem null_sound {conn : Nat} {packet : Bytes}
    (turned : server.turn config (.event (.receive conn packet false)) = some next) :
    next.sound = server.sound := by
  change server.receive config conn packet false = some next at turned
  unfold ServerState.receive at turned
  cases known : server.memory.conns conn with
  | none => simp [known] at turned
  | some record =>
    simp only [known] at turned
    rcases serverWork_cases conn record packet false with ⟨-, worked⟩ | ⟨-, -, sent, worked⟩ |
      ⟨-, impossible, -⟩ | ⟨-, impossible, -⟩
    · rw [worked] at turned
      obtain rfl := Option.some.inj turned
      rfl
    · rw [worked] at turned
      obtain rfl := Option.some.inj turned
      rfl
    · exact Bool.noConfusion impossible
    · exact Bool.noConfusion impossible

/-- The books are kept whether or not there was memory for every request. -/
theorem Books.countsOff (books : Books server.sound) (counts : CountsOff server turn)
    (turned : server.turn config turn = some next) : Books next.sound := by
  by_cases starved : ∃ conn packet, turn = .event (.receive conn packet false)
  · obtain ⟨conn, packet, rfl⟩ := starved
    rw [null_sound turned]
    exact books
  · have moved := turn_sound turned fun conn packet starves => absurd ⟨conn, packet, starves⟩ starved
    refine Books.turn config server.sound turn next.sound ?_ books moved
    cases turn with
    | event event =>
      cases event with
      | receive conn packet allocated =>
        cases allocated with
        | false => exact absurd ⟨conn, packet, rfl⟩ starved
        | true => exact fun read => ⟨rfl, counts read rfl⟩
      | _ => trivial
    | step index answer =>
      intro task op rest response found program read
      have present := counts task found
      rw [Task.missesAt, program] at present
      dsimp only at present
      rw [read] at present
      exact present
    | leave index => trivial

/-- With the books kept, a pass frees an idle connection exactly where it has waited for that. -/
theorem freesIdle_iff (books : Books server.sound) : FreesIdle server turn ↔ AwaitsIdle server turn := by
  cases turn with
  | event event =>
    cases event with
    | visit =>
      refine forall_congr' fun entry => forall_congr' fun _ => forall_congr' fun record =>
        forall_congr' fun known => ?_
      have counter : record.info2 = server.running entry.conn :=
        books.accounted.counter entry.conn record known
      constructor
      · intro idle long
        have due : entry.due record = true := decide_eq_true (.inr long)
        rw [counter, idle due]
        rfl
      · intro patient due
        have quiet : record.info2 = 0 := by
          rcases of_decide_eq_true due with ⟨-, quiet⟩ | long
          · exact quiet
          · exact patient long
        rw [counter] at quiet
        exact Int.ofNat_eq_zero.mp quiet
    | _ => exact Iff.rfl
  | step index answer => exact Iff.rfl
  | leave index => exact Iff.rfl

/-- In every run whose tasks count themselves off, the free passes free no connection with a task
exactly when they come to no busy one after a hundred times. -/
theorem reclaims_idle_iff (config : Config) (turns : List Turn)
    (counts : (interleaved config).Meets CountsOff .initial turns) :
    (interleaved config).Meets FreesIdle .initial turns ↔
      (interleaved config).Meets AwaitsIdle .initial turns := by
  have same (server : ServerState) (turn : Turn) (_ : CountsOff server turn)
      (books : Books server.sound) : FreesIdle server turn ↔ AwaitsIdle server turn :=
    freesIdle_iff books
  have kept (server : ServerState) (turn : Turn) (next : ServerState)
      (counted : CountsOff server turn) (_ : AwaitsIdle server turn) (books : Books server.sound)
      (turned : (interleaved config).step server turn = some next) : Books next.sound :=
    books.countsOff counted turned
  exact meets_iff_of same kept books_initial counts

/-- The pings of a connection fail and it is added to the free list. -/
def losingPings : List Turn :=
  [.event (.ping [some (-1)]), .event (.ping [some (-1)]), .event (.addConnMemWait4Free true)]

/-- A number of free passes over one connection. -/
def freePasses (count : Nat) : List Turn :=
  (List.replicate count [.event .beginPass, .event .visit]).flatten

/-- A connection is lost while its first task runs. The task ends after two passes, and the second
pass after that frees the connection. -/
def endingInTime : List Turn :=
  greeting ++ losingPings ++ freePasses 2 ++
    [.step 0 (.int 721), .step 0 .unit, .step 0 .unit] ++ freePasses 2

/-- There the connection is freed without a task. -/
theorem reclaims_idle_iff_ended :
    (interleaved bareConfig).Meets CountsOff .initial endingInTime ∧
      ((interleaved bareConfig).Meets FreesIdle .initial endingInTime ↔
        (interleaved bareConfig).Meets AwaitsIdle .initial endingInTime) ∧
      ((interleaved bareConfig).run .initial endingInTime).map
        (fun server => (server.memory.conns 0).isNone) = some true := by
  have counts : (interleaved bareConfig).Meets CountsOff .initial endingInTime := by
    decide +kernel
  exact ⟨counts, reclaims_idle_iff bareConfig endingInTime counts, by decide +kernel⟩

/-- A task that takes longer than a hundred passes loses its connection. -/
theorem busy_connection_freed :
    (interleaved bareConfig).Meets CountsOff .initial
        (greeting ++ losingPings ++ freePasses 101) ∧
      ¬(interleaved bareConfig).Meets FreesIdle .initial
        (greeting ++ losingPings ++ freePasses 101) := by
  constructor
  · decide +kernel
  · decide +kernel

end UubangIot
