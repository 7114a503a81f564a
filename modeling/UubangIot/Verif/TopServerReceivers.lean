import Mathlib.Data.List.Basic
import UubangIot.Server.TopServerLink

/-!
# One receiver for a link

`ConnectToTopServer` sets `isConnected` after it has created the thread that tests it, and the threads
of earlier links test the same flag. A thread that comes to its loop before the flag is set leaves at
once; one that comes back to it after the next link was made stays. With calls that do not overlap, a
thread that waits for the flag and earlier threads that have left by then, a link has exactly one
receiver until it fails or is closed.
-/

namespace UubangIot.TopServerLink

open Transition

variable {state next : State} {label : Label} {c r s : Nat} {succeeds : Bool}

/-- The link of the last call that returned with `isConnected` 1 has neither failed nor been closed. -/
def State.Up (state : State) : Prop :=
  ∃ s, state.returned = some s ∧ state.sockets[s]? = some .connected

/-- While a link is up, exactly one thread is in its loop. -/
def OneReceiver (state : State) : Prop :=
  state.Up → state.receivers.countP Receiver.inLoop = 1

/-! ## The order of the steps -/

/-- A call creates its thread, and sets the flag when the threads of earlier links have left. -/
def Call.Orderly (state : State) (succeeds : Bool) : Call → Prop
  | .create => succeeds = true
  | .set (some r) => ∀ other < state.receivers.length, other ≠ r →
    state.receivers[other]? = some .left
  | _ => True

/-- The conditions on the order: no call begins during another, a thread does not test the flag before
its creator has set it, and those on the statements of the calls. -/
def Orderly (state : State) : Label → Prop
  | .enter => ∀ call ∈ state.calls, call = .returned
  | .call c succeeds => ∀ call ∈ state.calls[c]?, call.Orderly state succeeds
  | .receiver r _ => state.receivers[r]? = some .test → .set (some r) ∉ state.calls
  | .fail _ => True

instance (state : State) (succeeds : Bool) :
    (call : Call) → Decidable (call.Orderly state succeeds)
  | .create => inferInstanceAs (Decidable (succeeds = true))
  | .set (some r) => inferInstanceAs (Decidable (∀ other < state.receivers.length, other ≠ r →
    state.receivers[other]? = some .left))
  | .set none => .isTrue trivial
  | .close => .isTrue trivial
  | .clear => .isTrue trivial
  | .test => .isTrue trivial
  | .socket => .isTrue trivial
  | .testSocket => .isTrue trivial
  | .connect => .isTrue trivial
  | .testConnect _ => .isTrue trivial
  | .returned => .isTrue trivial

instance (state : State) : (label : Label) → Decidable (Orderly state label)
  | .enter => inferInstanceAs (Decidable (∀ call ∈ state.calls, call = .returned))
  | .call c succeeds =>
    inferInstanceAs (Decidable (∀ call ∈ state.calls[c]?, call.Orderly state succeeds))
  | .receiver r _ =>
    inferInstanceAs (Decidable (state.receivers[r]? = some .test → .set (some r) ∉ state.calls))
  | .fail _ => .isTrue trivial

/-! ## What a call knows -/

/-- What holds when a call is before a statement. -/
def Call.Knows (state : State) : Call → Prop
  | .close => True
  | .clear => ¬ state.Up
  | .test => ¬ state.Up ∧ state.isConnected = false
  | .socket => ¬ state.Up ∧ state.isConnected = false
  | .testSocket => ¬ state.Up ∧ state.isConnected = false
  | .connect => ¬ state.Up ∧ state.isConnected = false
  | .testConnect ret => ¬ state.Up ∧ state.isConnected = false ∧
    (ret = true → state.localLink ≠ some .made)
  | .create => ¬ state.Up ∧ state.isConnected = false ∧ state.localLink ≠ some .made
  -- its thread has not tested the flag yet
  | .set thread => ¬ state.Up ∧ state.localLink ≠ some .made ∧
    ∃ r, thread = some r ∧ state.receivers[r]? = some .test
  | .returned => True

/-- What a call knows is not changed by the others. -/
theorem Call.Knows.mono {call : Call} (knows : call.Knows state) (fewer : next.Up → state.Up)
    (cleared : state.isConnected = false → next.isConnected = false)
    (link : next.localLink = some .made → state.localLink = some .made)
    (waits : ∀ r, call = .set (some r) → next.receivers[r]? = state.receivers[r]?) :
    call.Knows next := by
  cases call with
  | close => trivial
  | clear => exact fun up => knows (fewer up)
  | test => exact ⟨fun up => knows.1 (fewer up), cleared knows.2⟩
  | socket => exact ⟨fun up => knows.1 (fewer up), cleared knows.2⟩
  | testSocket => exact ⟨fun up => knows.1 (fewer up), cleared knows.2⟩
  | connect => exact ⟨fun up => knows.1 (fewer up), cleared knows.2⟩
  | testConnect ret =>
    exact ⟨fun up => knows.1 (fewer up), cleared knows.2.1,
      fun done made => knows.2.2 done (link made)⟩
  | create =>
    exact ⟨fun up => knows.1 (fewer up), cleared knows.2.1, fun made => knows.2.2 (link made)⟩
  | set thread =>
    obtain ⟨down, unmade, r, rfl, waiting⟩ := knows
    exact ⟨fun up => down (fewer up), fun made => unmade (link made), r, rfl,
      (waits r rfl).trans waiting⟩
  | returned => trivial

/-- What holds while a link is up. -/
structure Served (state : State) : Prop where
  /-- It is the one that everybody uses. -/
  current : state.localSocket = state.returned
  connected : state.isConnected = true
  /-- One thread is in its loop. -/
  one : state.receivers.countP Receiver.inLoop = 1
  /-- It is not about to clear the flag. -/
  stays : .clear ∉ state.receivers

/-- The invariant of the orderly runs. -/
structure Sound (state : State) : Prop where
  running : state.isShutDown = false
  /-- At most one call is under way. -/
  single : ∀ (first second : Nat) (call other : Call), state.calls[first]? = some call →
    call ≠ .returned → first ≠ second → state.calls[second]? = some other → other = .returned
  knows : ∀ call ∈ state.calls, call.Knows state
  served : state.Up → Served state
  /-- The sockets that were made. -/
  inside : ∀ s, state.localSocket = some s → s < state.sockets.length
  /-- The link of a call that returned was connected. -/
  unmade : ∀ s, state.returned = some s → s < state.sockets.length ∧
    state.sockets[s]? ≠ some .made

/-! ## Entries that were replaced -/

/-- The entry that was replaced. -/
theorem set_get {entries : List α} {i : Nat} {entry found : α}
    (here : (entries.set i entry)[i]? = some found) : found = entry := by
  have inside : i < (entries.set i entry).length := (List.getElem?_eq_some_iff.mp here).1
  rw [List.length_set] at inside
  rw [List.getElem?_set_self inside] at here
  exact (Option.some.inj here).symm

/-- A socket that is not just made stays so. -/
theorem set_unmade {sockets : List Link} {link : Link} (other : link ≠ .made) (used s : Nat)
    (unmade : sockets[s]? ≠ some .made) : (sockets.set used link)[s]? ≠ some .made := by
  intro made
  by_cases equal : used = s
  · rw [equal] at made
    exact other (set_get made).symm
  · rw [List.getElem?_set_ne equal] at made
    exact unmade made

/-! ## Steps of the calls -/

/-- A call moves on: the others have returned. -/
theorem Sound.called {call : Call} (sound : Sound state) (after : Call)
    (here : state.calls[c]? = some call) (active : call ≠ .returned) (moved : next.calls = state.calls.set c after)
    (knows : after.Knows next) (running : next.isShutDown = state.isShutDown)
    (served : next.Up → Served next)
    (inside : ∀ s, next.localSocket = some s → s < next.sockets.length)
    (unmade : ∀ s, next.returned = some s → s < next.sockets.length ∧
      next.sockets[s]? ≠ some .made) : Sound next := by
  have before {i : Nat} {x : Call} (found : next.calls[i]? = some x) (apart : i ≠ c) :
      x = .returned := by
    rw [moved, List.getElem?_set_ne apart.symm] at found
    exact sound.single c i call x here active apart.symm found
  constructor
  · rw [running]
    exact sound.running
  · intro first second x other found busy apart also
    by_cases same : second = c
    · rw [same] at apart
      exact absurd (before found apart) busy
    · exact before also same
  · intro x member
    obtain ⟨i, found⟩ := List.mem_iff_getElem?.mp member
    by_cases same : i = c
    · rw [same, moved] at found
      rw [set_get found]
      exact knows
    · rw [before found same]
      trivial
  · exact served
  · exact inside
  · exact unmade

/-- Closing the socket that everybody uses takes the link down. -/
theorem Sound.closeLocal_down (sound : Sound state) : ¬ state.closeLocal.Up := by
  rintro ⟨s, returned, connected⟩
  cases current : state.localSocket with
  | none =>
    have up : state.Up := by
      refine ⟨s, returned, ?_⟩
      rw [State.closeLocal, current] at connected
      exact connected
    have same := (sound.served up).current
    rw [current] at same
    rw [show state.returned = some s from returned] at same
    contradiction
  | some used =>
    rw [State.closeLocal, current] at connected
    replace connected : (state.sockets.set used .closed)[s]? = some .connected := connected
    by_cases equal : used = s
    · rw [equal] at connected
      exact Link.noConfusion (set_get connected)
    · rw [List.getElem?_set_ne equal] at connected
      have same := (sound.served ⟨s, returned, connected⟩).current
      rw [current, show state.returned = some s from returned] at same
      exact equal (Option.some.inj same)

/-- A closed socket is not one that was just made. -/
theorem closeLocal_link (state : State) : state.closeLocal.localLink ≠ some .made := by
  intro made
  rw [State.localLink, State.closeLocal] at made
  cases current : state.localSocket with
  | none =>
    rw [current] at made
    contradiction
  | some used =>
    rw [current] at made
    replace made : (state.sockets.set used .closed)[used]? = some .made := made
    exact Link.noConfusion (set_get made)

/-- A closed socket stays in its place. -/
theorem closeLocal_length (state : State) :
    state.closeLocal.sockets.length = state.sockets.length := by
  rw [State.closeLocal]
  cases state.localSocket with
  | none => rfl
  | some used => exact List.length_set

/-- Closing keeps what is known of the sockets. -/
theorem Sound.closeLocal_unmade (sound : Sound state) (s : Nat) (returned : state.returned = some s) :
    s < state.closeLocal.sockets.length ∧ state.closeLocal.sockets[s]? ≠ some .made := by
  rw [closeLocal_length]
  refine ⟨(sound.unmade s returned).1, ?_⟩
  rw [State.closeLocal]
  cases state.localSocket with
  | none => exact (sound.unmade s returned).2
  | some used => exact set_unmade Link.noConfusion used s (sound.unmade s returned).2

/-- A call returns without having connected. -/
theorem Sound.leave {call : Call} (sound : Sound state) (here : state.calls[c]? = some call)
    (active : call ≠ .returned) (down : ¬ state.Up) (off : state.isConnected = false) :
    Sound (state.leave c) := by
  have returned : (state.leave c).returned = state.returned := by
    rw [State.leave, off]
    rfl
  refine sound.called .returned here active rfl trivial rfl ?_ ?_ ?_
  · rintro ⟨s, last, connected⟩
    rw [returned] at last
    exact absurd ⟨s, last, connected⟩ down
  · exact sound.inside
  · intro s last
    rw [returned] at last
    exact sound.unmade s last

/-- One thread waits and the others have left. -/
theorem countP_alone {receivers : List Receiver} (here : receivers[r]? = some .test)
    (others : ∀ other < receivers.length, other ≠ r → receivers[other]? = some .left) :
    receivers.countP Receiver.inLoop = 1 := by
  have gone (rest : List Receiver) (all : ∀ other < rest.length, rest[other]? = some .left) :
      rest.countP Receiver.inLoop = 0 := by
    rw [List.countP_eq_zero]
    intro thread member
    obtain ⟨i, inside, found⟩ := List.mem_iff_getElem.mp member
    have left := all i inside
    rw [List.getElem?_eq_getElem inside, found] at left
    rw [Option.some.inj left]
    decide
  induction receivers generalizing r with
  | nil => contradiction
  | cons thread rest ih =>
    cases r with
    | zero =>
      obtain rfl := Option.some.inj here
      have none := gone rest fun other inside => others (other + 1) (by simpa) (by omega)
      rw [List.countP_cons, none]
      rfl
    | succ r =>
      obtain rfl := Option.some.inj (others 0 (by simp) (by omega))
      have one := ih here fun other inside apart => others (other + 1) (by simpa) (by omega)
      rw [List.countP_cons, one]
      rfl

/-- A statement of a call. -/
theorem Sound.stepCall {call : Call} (sound : Sound state) (here : state.calls[c]? = some call)
    (orderly : call.Orderly state succeeds) (stepped : state.stepCall c succeeds call = some next) :
    Sound next := by
  have knows := sound.knows call (List.mem_of_getElem? here)
  cases call with
  | close =>
    obtain rfl := Option.some.inj stepped
    have down := sound.closeLocal_down
    refine sound.called .clear here Call.noConfusion rfl down rfl ?_ ?_ ?_
    · exact fun up => absurd up down
    · intro s current
      exact (closeLocal_length state).symm ▸ sound.inside s current
    · exact sound.closeLocal_unmade
  | clear =>
    obtain rfl := Option.some.inj stepped
    refine sound.called .test here Call.noConfusion rfl ⟨knows, rfl⟩ rfl ?_ ?_ ?_
    · exact fun up => absurd up knows
    · exact sound.inside
    · exact sound.unmade
  | test =>
    rw [State.stepCall, knows.2] at stepped
    obtain rfl := Option.some.inj stepped
    refine sound.called .socket here Call.noConfusion rfl knows rfl ?_ ?_ ?_
    · exact fun up => absurd up knows.1
    · exact sound.inside
    · exact sound.unmade
  | socket =>
    cases succeeds with
    | true =>
      obtain rfl := Option.some.inj stepped
      -- the new socket is behind the others
      have before {s : Nat} (returned : state.returned = some s) :
          (state.sockets ++ [Link.made])[s]? = state.sockets[s]? :=
        List.getElem?_append_left (sound.unmade s returned).1
      have down : ¬ State.Up ({ state with
          localSocket := some state.sockets.length,
          sockets := state.sockets ++ [Link.made] }.goto c .testSocket) := by
        rintro ⟨s, returned, connected⟩
        exact knows.1 ⟨s, returned, (before returned).symm.trans connected⟩
      refine sound.called .testSocket here Call.noConfusion rfl ⟨down, knows.2⟩ rfl ?_ ?_ ?_
      · exact fun up => absurd up down
      · intro s current
        obtain rfl := Option.some.inj current
        show _ < (state.sockets ++ [Link.made]).length
        rw [List.length_append]
        exact Nat.lt_succ_self _
      · intro s returned
        have bound := (sound.unmade s returned).1
        refine ⟨?_, fun made => (sound.unmade s returned).2 ((before returned).symm.trans made)⟩
        show _ < (state.sockets ++ [Link.made]).length
        rw [List.length_append]
        omega
    | false =>
      obtain rfl := Option.some.inj stepped
      refine sound.called .testSocket here Call.noConfusion rfl knows rfl ?_ ?_ ?_
      · exact fun up => absurd up knows.1
      · intro s current
        contradiction
      · exact sound.unmade
  | testSocket =>
    rw [State.stepCall] at stepped
    obtain rfl := Option.some.inj stepped
    split_ifs
    · exact sound.leave here Call.noConfusion knows.1 knows.2
    · refine sound.called .connect here Call.noConfusion rfl knows rfl ?_ ?_ ?_
      · exact fun up => absurd up knows.1
      · exact sound.inside
      · exact sound.unmade
  | connect =>
    cases succeeds with
    | true =>
      obtain ⟨used, filtered, rfl⟩ := Option.map_eq_some_iff.mp stepped
      obtain ⟨current, made⟩ := Option.filter_eq_some_iff.mp filtered
      rw [decide_eq_true_eq] at made
      have down : ¬ State.Up ({ state with sockets := state.sockets.set used .connected }.goto c
          (.testConnect true)) := by
        rintro ⟨s, returned, connected⟩
        by_cases equal : used = s
        · exact (sound.unmade s returned).2 (equal ▸ made)
        · refine knows.1 ⟨s, returned, ?_⟩
          replace connected : (state.sockets.set used .connected)[s]? = some .connected := connected
          rw [List.getElem?_set_ne equal] at connected
          exact connected
      refine sound.called (.testConnect true) here Call.noConfusion rfl ?_ rfl ?_ ?_ ?_
      · refine ⟨down, knows.2, fun _ link => ?_⟩
        replace link : (state.localSocket.bind fun s =>
          (state.sockets.set used .connected)[s]?) = some .made := link
        rw [current] at link
        exact Link.noConfusion (set_get link)
      · exact fun up => absurd up down
      · intro s same
        show s < (state.sockets.set used .connected).length
        rw [List.length_set]
        exact sound.inside s same
      · intro s returned
        show s < (state.sockets.set used .connected).length ∧ _
        rw [List.length_set]
        have before := sound.unmade s returned
        exact ⟨before.1, set_unmade Link.noConfusion used s before.2⟩
    | false =>
      obtain rfl := Option.some.inj stepped
      refine sound.called (.testConnect false) here Call.noConfusion rfl
        ⟨knows.1, knows.2, fun done => Bool.noConfusion done⟩ rfl ?_ ?_ ?_
      · exact fun up => absurd up knows.1
      · exact sound.inside
      · exact sound.unmade
  | testConnect ret =>
    obtain rfl := Option.some.inj stepped
    cases ret with
    | true =>
      refine sound.called .create here Call.noConfusion rfl ⟨knows.1, knows.2.1, knows.2.2 rfl⟩ rfl
        ?_ ?_ ?_
      · exact fun up => absurd up knows.1
      · exact sound.inside
      · exact sound.unmade
    | false => exact sound.leave here Call.noConfusion knows.1 knows.2.1
  | create =>
    have created : succeeds = true := orderly
    rw [State.stepCall, if_pos created] at stepped
    obtain rfl := Option.some.inj stepped
    have waits : (state.receivers ++ [Receiver.test])[state.receivers.length]? = some .test := by
      rw [List.getElem?_append_right (Nat.le_refl _), Nat.sub_self]
      rfl
    refine sound.called (.set (some state.receivers.length)) here Call.noConfusion rfl
      ⟨knows.1, knows.2.2, _, rfl, waits⟩ rfl ?_ ?_ ?_
    · exact fun up => absurd up knows.1
    · exact sound.inside
    · exact sound.unmade
  | set thread =>
    obtain ⟨-, unmade, r, rfl, waiting⟩ := knows
    obtain rfl := Option.some.inj stepped
    refine sound.called .returned here Call.noConfusion rfl trivial rfl ?_ ?_ ?_
    · intro _
      refine ⟨rfl, rfl, countP_alone waiting orderly, fun member => ?_⟩
      obtain ⟨i, found⟩ := List.mem_iff_getElem?.mp member
      by_cases same : i = r
      · rw [same] at found
        exact Receiver.noConfusion (Option.some.inj (waiting.symm.trans found))
      · have left := orderly i (List.getElem?_eq_some_iff.mp found).1 same
        exact Receiver.noConfusion (Option.some.inj (left.symm.trans found))
    · exact sound.inside
    · intro s current
      replace current : state.localSocket = some s := current
      refine ⟨sound.inside s current, fun made => unmade ?_⟩
      rw [State.localLink, current]
      exact made
  | returned => contradiction

/-! ## Steps of the threads -/

/-- A thread moves on: the calls keep what they know. -/
theorem Sound.threaded {thread : Receiver} (sound : Sound state) (after : Receiver)
    (here : state.receivers[r]? = some thread)
    (orderly : thread = .test → .set (some r) ∉ state.calls) (calls : next.calls = state.calls)
    (receivers : next.receivers = state.receivers.set r after)
    (running : next.isShutDown = state.isShutDown) (fewer : next.Up → state.Up)
    (cleared : state.isConnected = false → next.isConnected = false)
    (link : next.localLink = some .made → state.localLink = some .made)
    (served : next.Up → Served next)
    (inside : ∀ s, next.localSocket = some s → s < next.sockets.length)
    (unmade : ∀ s, next.returned = some s → s < next.sockets.length ∧
      next.sockets[s]? ≠ some .made) : Sound next := by
  constructor
  · rw [running]
    exact sound.running
  · rw [calls]
    exact sound.single
  · intro call member
    rw [calls] at member
    have knows := sound.knows call member
    refine knows.mono fewer cleared link fun other created => ?_
    rw [receivers]
    by_cases same : r = other
    · -- the thread that waits for the flag does not move
      rw [created] at knows member
      obtain ⟨-, -, waiter, found, waiting⟩ := knows
      rw [← Option.some.inj found, ← same, here] at waiting
      rw [← same] at member
      exact absurd member (orderly (Option.some.inj waiting))
    · exact List.getElem?_set_ne same
  · exact served
  · exact inside
  · exact unmade

/-- A thread in its loop stays there. -/
theorem Served.move {thread after : Receiver} (served : Served state)
    (here : state.receivers[r]? = some thread) (looping : thread ≠ .left) (stays : after ≠ .left)
    (keeps : after ≠ .clear) : Served (state.move r after) := by
  constructor
  · exact served.current
  · exact served.connected
  · obtain ⟨inside, same⟩ := List.getElem?_eq_some_iff.mp here
    have before : thread.inLoop = true := decide_eq_true looping
    have now : after.inLoop = true := decide_eq_true stays
    show (state.receivers.set r after).countP Receiver.inLoop = 1
    rw [List.countP_set inside, same, before, now, served.one]
    rfl
  · intro member
    rcases List.mem_or_eq_of_mem_set member with kept | replaced
    · exact served.stays kept
    · exact keeps replaced.symm

/-- A thread that stays in its loop. -/
theorem Sound.move {thread after : Receiver} (sound : Sound state)
    (here : state.receivers[r]? = some thread)
    (orderly : thread = .test → .set (some r) ∉ state.calls) (looping : thread ≠ .left)
    (stays : after ≠ .left) (keeps : after ≠ .clear) : Sound (state.move r after) :=
  sound.threaded after here orderly rfl rfl rfl id id id
    (fun up => (sound.served up).move here looping stays keeps) sound.inside sound.unmade

/-- A statement of a thread. -/
theorem Sound.stepReceiver {thread : Receiver} (sound : Sound state)
    (here : state.receivers[r]? = some thread)
    (orderly : thread = .test → .set (some r) ∉ state.calls)
    (stepped : state.stepReceiver r succeeds thread = some next) : Sound next := by
  cases thread with
  | test =>
    obtain rfl := Option.some.inj stepped
    rw [sound.running]
    cases on : state.isConnected with
    | true => exact sound.move here orderly Receiver.noConfusion Receiver.noConfusion Receiver.noConfusion
    | false =>
      have down : ¬ state.Up := fun up => by
        have connected := (sound.served up).connected
        rw [on] at connected
        contradiction
      exact sound.threaded .left here orderly rfl rfl rfl id id id (fun up => absurd up down)
        sound.inside sound.unmade
  | receive =>
    cases succeeds with
    | true =>
      obtain ⟨-, moved⟩ := Option.ite_none_right_eq_some.mp stepped
      obtain rfl := Option.some.inj moved
      exact sound.move here orderly Receiver.noConfusion Receiver.noConfusion Receiver.noConfusion
    | false =>
      obtain rfl := Option.some.inj stepped
      exact sound.move here orderly Receiver.noConfusion Receiver.noConfusion Receiver.noConfusion
  | send =>
    cases succeeds with
    | true =>
      obtain ⟨-, moved⟩ := Option.ite_none_right_eq_some.mp stepped
      obtain rfl := Option.some.inj moved
      exact sound.move here orderly Receiver.noConfusion Receiver.noConfusion Receiver.noConfusion
    | false =>
      obtain rfl := Option.some.inj stepped
      exact sound.move here orderly Receiver.noConfusion Receiver.noConfusion Receiver.noConfusion
  | close =>
    obtain rfl := Option.some.inj stepped
    have down := sound.closeLocal_down
    refine sound.threaded .clear here orderly rfl rfl rfl (fun up => absurd up down) id
      (fun made => absurd made (closeLocal_link state)) (fun up => absurd up down) ?_ ?_
    · intro s current
      exact (closeLocal_length state).symm ▸ sound.inside s current
    · exact sound.closeLocal_unmade
  | clear =>
    obtain rfl := Option.some.inj stepped
    have down : ¬ state.Up := fun up => (sound.served up).stays (List.mem_of_getElem? here)
    exact sound.threaded .test here orderly rfl rfl rfl id (fun _ => rfl) id
      (fun up => absurd up down) sound.inside sound.unmade
  | again =>
    obtain rfl := Option.some.inj stepped
    exact sound.move here orderly Receiver.noConfusion Receiver.noConfusion Receiver.noConfusion
  | left => contradiction

/-! ## Orderly runs -/

/-- A call begins when the others have returned. -/
theorem Sound.enter (sound : Sound state) (orderly : ∀ call ∈ state.calls, call = .returned) :
    Sound { state with calls := state.calls ++ [Call.close] } := by
  constructor
  · exact sound.running
  · intro first second call other found busy apart also
    by_cases new : second < state.calls.length
    · rw [List.getElem?_append_left new] at also
      exact orderly other (List.mem_of_getElem? also)
    · have last : second = state.calls.length := by
        have bound := (List.getElem?_eq_some_iff.mp also).1
        rw [List.length_append] at bound
        exact Nat.le_antisymm (Nat.lt_succ_iff.mp bound) (Nat.not_lt.mp new)
      have old : first < state.calls.length := by
        have bound := (List.getElem?_eq_some_iff.mp found).1
        rw [List.length_append] at bound
        have small : first ≤ state.calls.length := Nat.lt_succ_iff.mp bound
        omega
      rw [List.getElem?_append_left old] at found
      exact absurd (orderly call (List.mem_of_getElem? found)) busy
  · intro call member
    rcases List.mem_append.mp member with old | new
    · rw [orderly call old]
      trivial
    · rw [List.mem_singleton.mp new]
      trivial
  · intro up
    obtain ⟨current, connected, one, stays⟩ := sound.served up
    exact ⟨current, connected, one, stays⟩
  · exact sound.inside
  · exact sound.unmade

/-- The connection of a socket breaks. -/
theorem Sound.fail (sound : Sound state) (s : Nat) :
    Sound { state with sockets := state.sockets.set s .failed } := by
  have fewer : State.Up { state with sockets := state.sockets.set s .failed } → state.Up := by
    rintro ⟨used, returned, connected⟩
    replace connected : (state.sockets.set s .failed)[used]? = some .connected := connected
    by_cases equal : s = used
    · rw [equal] at connected
      exact Link.noConfusion (set_get connected)
    · rw [List.getElem?_set_ne equal] at connected
      exact ⟨used, returned, connected⟩
  constructor
  · exact sound.running
  · exact sound.single
  · intro call member
    refine (sound.knows call member).mono fewer id (fun made => ?_) fun _ _ => rfl
    by_contra unmade
    rw [State.localLink] at made unmade
    dsimp only at made
    cases current : state.localSocket with
    | none =>
      rw [current] at made
      contradiction
    | some used =>
      rw [current] at made unmade
      exact set_unmade Link.noConfusion s used unmade made
  · intro up
    obtain ⟨current, connected, one, stays⟩ := sound.served (fewer up)
    exact ⟨current, connected, one, stays⟩
  · intro used current
    show used < (state.sockets.set s .failed).length
    rw [List.length_set]
    exact sound.inside used current
  · intro used returned
    show used < (state.sockets.set s .failed).length ∧ _
    rw [List.length_set]
    have before := sound.unmade used returned
    exact ⟨before.1, set_unmade Link.noConfusion s used before.2⟩

/-- A step in its order. -/
theorem Sound.step (orderly : Orderly state label) (sound : Sound state)
    (stepped : system.step state label = some next) : Sound next := by
  cases label with
  | enter =>
    obtain rfl := Option.some.inj stepped
    exact sound.enter orderly
  | call c succeeds =>
    obtain ⟨call, here, moved⟩ := Option.bind_eq_some_iff.mp stepped
    exact sound.stepCall here (orderly call here) moved
  | receiver r succeeds =>
    obtain ⟨thread, here, moved⟩ := Option.bind_eq_some_iff.mp stepped
    exact sound.stepReceiver here (fun waits => orderly (waits ▸ here)) moved
  | fail s =>
    obtain ⟨-, moved⟩ := Option.ite_none_right_eq_some.mp stepped
    obtain rfl := Option.some.inj moved
    exact sound.fail s

/-- Before the first call there is no receiver and no socket. -/
theorem initial_sound : Sound initial := by
  constructor
  · rfl
  · intro first second call other found
    contradiction
  · intro call member
    contradiction
  · rintro ⟨s, returned, -⟩
    contradiction
  · intro s current
    contradiction
  · intro s returned
    contradiction

/-- In every run in which calls do not overlap, threads are created and test `isConnected` after their
creator has set it, and earlier threads have left by then, a link that is up has exactly one
receiver in every state. -/
theorem one_receiver (labels : List Label) (orderly : system.Meets Orderly initial labels) :
    system.Always OneReceiver initial labels :=
  System.always_of_meets (fun _ sound up => (sound.served up).one)
    (fun _ _ _ orderly sound stepped => sound.step orderly stepped) initial_sound orderly

/-- The statements of a call that gets through, up to `CreateThread`. -/
def connects (c : Nat) : List Label :=
  .enter :: List.replicate 8 (.call c true)

/-- A link is made, its thread receives, the link fails, the thread leaves, and the next link is made. -/
def reconnected : List Label :=
  connects 0 ++ [.call 0 true, .receiver 0 true, .receiver 0 true, .receiver 0 true,
    .receiver 0 true, .fail 0, .receiver 0 false, .receiver 0 false, .receiver 0 true,
    .receiver 0 true, .receiver 0 true] ++ connects 1 ++ [.call 1 true]

/-- The second link of an orderly run is up and has one receiver, in every state of it. -/
theorem one_receiver_reconnected : system.Meets Orderly initial reconnected ∧
    ((system.run initial reconnected).map fun state => (state.returned, state.sockets,
      state.receivers)) = some (some 1, [.closed, .connected], [.left, .test]) ∧
    system.Always OneReceiver initial reconnected :=
  ⟨by decide +kernel, by decide +kernel, one_receiver reconnected (by decide +kernel)⟩

/-- The first call: the new thread tests `isConnected` before the call sets it, and leaves. The call
returns, the link is up, and nobody receives. -/
theorem early_test_leaves_none : ∃ state,
    system.run initial (connects 0 ++ [.receiver 0 true, .call 0 true]) = some state ∧
      state.isConnected = true ∧ state.Up ∧ state.receivers = [.left] ∧ ¬ OneReceiver state := by
  have reached : (system.run initial (connects 0 ++ [.receiver 0 true, .call 0 true])) =
      some ⟨some 0, [.connected], true, false, [.returned], [.left], some 0⟩ := by
    decide +kernel
  refine ⟨_, reached, rfl, ⟨0, rfl, rfl⟩, rfl, fun one => ?_⟩
  have count := one ⟨0, rfl, rfl⟩
  contradiction

end UubangIot.TopServerLink
