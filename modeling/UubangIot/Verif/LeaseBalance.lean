import UubangIot.Lib.Transition
import UubangIot.Verif.Roles

/-!
# Leases and locks across database operations

A monitor follows what a call does to the pool nodes it holds and to the mutexes of the
registered lists, and refuses a query or a release on a node that is not held. A call is
balanced when the monitor returns to rest. A status update always is. A registration is only
when it ends before the reload, or when it inserted no user row and the reload finds the device
list empty.
-/

namespace UubangIot

open Effect

/-- Nodes held and mutexes locked. -/
structure Holdings where
  /-- Pool nodes obtained and not yet released. -/
  held : List Nat
  /-- `RegistedUserHead->mute` is locked. -/
  userMute : Bool
  /-- `RegistedIotHead->mute` is locked. -/
  iotMute : Bool
  deriving DecidableEq, Repr

/-- Nothing held, nothing locked. -/
def Holdings.rest : Holdings := ⟨[], false, false⟩

/-- Lock or unlock a mutex. -/
def Holdings.setMute (holdings : Holdings) (kind : Kind) (locked : Bool) : Holdings :=
  match kind with
  | .user => { holdings with userMute := locked }
  | .iot => { holdings with iotMute := locked }

/-- A mutex is locked. -/
def Holdings.mute (holdings : Holdings) : Kind → Bool
  | .user => holdings.userMute
  | .iot => holdings.iotMute

/-- One happening: `get_db_connect` hands out a free node, a query or release needs a held one,
and a locked mutex cannot be locked. -/
def Holdings.after (holdings : Holdings) : Happening → Option Holdings
  | ⟨.getDbConnect, response⟩ =>
    match (response : Option Nat) with
    | none => some holdings
    | some node =>
      if node ∈ holdings.held then none else some { holdings with held := node :: holdings.held }
  | ⟨.releaseNode node, _⟩ =>
    if node ∈ holdings.held then some { holdings with held := holdings.held.erase node } else none
  | ⟨.realQuery node _, _⟩ | ⟨.storeResult node, _⟩ | ⟨.affectedRows node, _⟩ =>
    if node ∈ holdings.held then some holdings else none
  | ⟨.lockMute kind, _⟩ =>
    if holdings.mute kind then none else some (holdings.setMute kind true)
  | ⟨.unlockMute kind, _⟩ => some (holdings.setMute kind false)
  | _ => some holdings

/-- The monitor. -/
def holdingMonitor : Transition.System Holdings Happening := ⟨Holdings.after⟩

/-- The monitor takes one happening after the other. -/
@[simp]
theorem holdingMonitor_cons (holdings : Holdings) (event : Happening) (trace : List Happening) :
    holdingMonitor.run holdings (event :: trace) =
      (holdings.after event).bind fun next => holdingMonitor.run next trace := rfl

/-- The call returns to rest, having used only nodes it held. -/
def Balanced (trace : List Happening) : Prop :=
  holdingMonitor.run .rest trace = some .rest

/-- The statement inserts the row of a registration. -/
def insertsRow : Statement → Bool
  | .insertUser _ _ _ _ | .insertServerInfo | .insertIotNode _ _ _ => true
  | _ => false

/-- A result is 1. -/
def isOne (result : Int) : Bool := result = 1

/-- A query was done. -/
def isDone (result : QueryResult) : Bool := result = .done

/-- The id is already registered. -/
def alreadyKnown : Happening → Bool
  | ⟨.checkIdPwd _ _ _, answer⟩ => isOne answer
  | _ => false

/-- The row is refused; a duplicate device is not. -/
def rowRefused (method : Int) : Happening → Bool
  | ⟨.realQuery _ statement, answer⟩ =>
    insertsRow statement && match (answer : QueryResult) with
      | .failed duplicate => !(duplicate && method = 1)
      | .done => false
  | _ => false

/-- A user row and its companion are in. -/
def userInserted : Happening → Bool
  | ⟨.realQuery _ .insertServerInfo, answer⟩ => isDone answer
  | _ => false

/-- The reload meets an empty device list. -/
def noDevices : Happening → Bool
  | ⟨.registedHead .iot, top⟩ => (top : Option User).isNone
  | _ => false

/-- The answers under which `Register` keeps its books: the id is already known, the row is
refused, or no user row goes in and the reload meets an empty device list. -/
def benign (method : Int) (trace : List Happening) : Bool :=
  trace.any alreadyKnown || trace.any (rowRefused method) ||
    (!trace.any userInserted && trace.any noDevices)

/-- Only insertions into the lists. -/
def addsLocal : Op → Prop
  | .addtoLocal _ => True
  | _ => False

/-- The row loop only inserts into the lists. -/
theorem addRows_only (entry : Row → Entry) (rows : List Row) :
    (addRows entry rows).Only addsLocal := by
  induction rows with
  | nil => trivial
  | cons row rows ih => exact ⟨trivial, fun _ => ih⟩

/-- The row loop on a path: only insertions, then what follows it. -/
theorem addRows_path {α : Type} {entry : Row → Entry} {rows : List Row} {next : Handler α}
    {trace : List Happening} {result : α}
    (path : ((addRows entry rows) >>= fun _ => next).Path trace result) :
    ∃ added after, trace = added ++ after ∧ (∀ event ∈ added, addsLocal event.1) ∧
      next.Path after result := by
  obtain ⟨added, value, after, rfl, loop, rest⟩ := (Prog.path_bind _ _ _ _).mp path
  exact ⟨added, after, rfl, (addRows_only entry rows).path loop, rest⟩

/-- Insertions into the lists are nothing to the monitor. -/
theorem holdingMonitor_addsLocal {holdings : Holdings} {added : List Happening}
    (adds : ∀ event ∈ added, addsLocal event.1) (after : List Happening) :
    holdingMonitor.run holdings (added ++ after) = holdingMonitor.run holdings after := by
  induction added with
  | nil => rfl
  | cons event added ih =>
    obtain ⟨op, response⟩ := event
    have head : addsLocal op := adds ⟨op, response⟩ List.mem_cons_self
    cases op <;> first
      | exact head.elim
      | exact ih fun later member => adds later (List.mem_cons_of_mem _ member)

/-- Insertions into the lists are no empty device list. -/
theorem noDevices_addsLocal {added : List Happening}
    (adds : ∀ event ∈ added, addsLocal event.1) : added.any noDevices = false := by
  rw [List.any_eq_false]
  rintro ⟨op, response⟩ member
  have only : addsLocal op := adds _ member
  cases op <;> first
    | exact only.elim
    | exact Bool.false_ne_true

/-- What the device part of a reload does to holdings without the node it was given: nothing
over an empty list, and a query on a released node otherwise. -/
theorem updateLocalIotlist_holdings {node : Nat} (holdings : Holdings)
    (released : node ∉ holdings.held) {trace : List Happening} {result : Int}
    (path : (updateLocalIotlist node).Path trace result) :
    (trace.any noDevices = true ∧ holdingMonitor.run holdings trace = some holdings) ∨
      (trace.any noDevices = false ∧ holdingMonitor.run holdings trace = none) := by
  obtain ⟨top, rest, rfl, path⟩ := path
  cases top with
  | none =>
    obtain ⟨rfl, -⟩ := path
    exact Or.inl ⟨rfl, rfl⟩
  | some top =>
    obtain ⟨locked, rest, rfl, top, rest, rfl, path⟩ := path
    cases top with
    | none =>
      obtain ⟨response, -⟩ := path
      exact response.elim
    | some top =>
      obtain ⟨answer, rest, rfl, path⟩ := path
      have absent : rest.any noDevices = false := by
        cases answer with
        | failed duplicate =>
          obtain ⟨-, -, rfl, rfl, -⟩ := path
          rfl
        | done =>
          obtain ⟨stored, rest, rfl, path⟩ := path
          cases stored with
          | none =>
            obtain ⟨response, -⟩ := path
            exact response.elim
          | some rows =>
            obtain ⟨added, after, rfl, adds, -, -, rfl, -, -, rfl, rfl, -⟩ := addRows_path path
            simp [noDevices, noDevices_addsLocal adds]
      have unheld : node ∉ (holdings.setMute .iot true).held := released
      refine Or.inr ⟨by simpa [noDevices] using absent, ?_⟩
      by_cases lock : holdings.mute .iot = true
      · simp [Holdings.after, lock]
      · simp [Holdings.after, lock, unheld]

/-- What a reload does to holdings with both mutexes free: over an empty device list it restores
them; it may be handed a node already held; otherwise it uses a node it has released or leaves
the user mutex locked. -/
theorem updateLocal_holdings (held : List Nat) {trace : List Happening} {result : Int}
    (path : updateLocalRegUserAndIotlist.Path trace result) :
    (trace.any noDevices = true ∧
      holdingMonitor.run ⟨held, false, false⟩ trace = some ⟨held, false, false⟩) ∨
    (held ≠ [] ∧ holdingMonitor.run ⟨held, false, false⟩ trace = none) ∨
    (trace.any noDevices = false ∧ ∀ final,
      holdingMonitor.run ⟨held, false, false⟩ trace = some final → final.userMute = true) := by
  obtain ⟨-, rest, rfl, checkcode, rest, rfl, top, rest, rfl, path⟩ := path
  cases top with
  | none =>
    obtain ⟨response, -⟩ := path
    exact response.elim
  | some top =>
    obtain ⟨got, rest, rfl, path⟩ := path
    cases got with
    | none =>
      obtain ⟨rfl, -⟩ := path
      refine Or.inr (Or.inr ⟨rfl, fun final reached => ?_⟩)
      obtain rfl := Option.some.inj reached
      rfl
    | some node =>
      obtain ⟨answer, rest, rfl, path⟩ := path
      by_cases again : node ∈ held
      · refine Or.inr (Or.inl ⟨List.ne_nil_of_mem again, ?_⟩)
        simp [Holdings.after, Holdings.mute, Holdings.setMute, again]
      cases answer with
      | failed duplicate =>
        obtain ⟨-, -, rfl, rfl, -⟩ := path
        refine Or.inr (Or.inr ⟨rfl, fun final reached => ?_⟩)
        simp [Holdings.after, Holdings.mute, Holdings.setMute, again] at reached
        rw [← reached]
      | done =>
        obtain ⟨stored, rest, rfl, path⟩ := path
        cases stored with
        | none =>
          obtain ⟨response, -⟩ := path
          exact response.elim
        | some rows =>
          obtain ⟨added, after, rfl, adds, _, _, rfl, _, devices, rfl, later⟩ := addRows_path path
          have absent := noDevices_addsLocal adds
          -- the user part gives everything back, so the device part starts where it did
          rcases updateLocalIotlist_holdings ⟨held, false, false⟩ again later with
            ⟨empty, unchanged⟩ | ⟨nonempty, stuck⟩
          · refine Or.inl ⟨by simp only [List.any_append, List.any_cons, absent, empty]; rfl, ?_⟩
            simp [Holdings.after, Holdings.mute, Holdings.setMute, again,
              holdingMonitor_addsLocal adds, unchanged]
          · refine Or.inr (Or.inr
              ⟨by simp only [List.any_append, List.any_cons, absent, nonempty]; rfl, ?_⟩)
            simp [Holdings.after, Holdings.mute, Holdings.setMute, again,
              holdingMonitor_addsLocal adds, stuck]

/-- A registered user row leaves its node held; every other insertion gives its node back. -/
theorem registerRow_holdings {a : CLN} {method : Int} {trace : List Happening} {result : Int}
    (path : (registerRow a method).Path trace result) :
    trace.any alreadyKnown = false ∧ trace.any noDevices = false ∧
      ((trace.any (rowRefused method) = true ∧ result = -1) ∨
        (trace.any (rowRefused method) = false ∧ result ≠ -1)) ∧
      ((trace.any userInserted = true ∧ result = 1 ∧ ∃ node, holdingMonitor.run .rest trace =
          some ⟨[node], false, false⟩) ∨
        (trace.any userInserted = false ∧ holdingMonitor.run .rest trace = some .rest)) := by
  by_cases device : method = 1
  · rw [registerRow, if_pos device] at path
    obtain ⟨got, rest, rfl, path⟩ := path
    cases got with
    | none =>
      obtain ⟨rfl, rfl⟩ := path
      exact ⟨rfl, rfl, Or.inr ⟨rfl, by decide⟩, Or.inr ⟨rfl, rfl⟩⟩
    | some node =>
      obtain ⟨answer, rest, rfl, path⟩ := path
      rcases answer with - | - | - <;> obtain ⟨_, _, rfl, rfl, rfl⟩ := path <;>
        simp [Holdings.after, Holdings.rest, rowRefused, insertsRow, alreadyKnown, noDevices,
          userInserted, device]
  · rw [registerRow, if_neg device] at path
    obtain ⟨got, rest, rfl, path⟩ := path
    cases got with
    | none =>
      obtain ⟨rfl, rfl⟩ := path
      exact ⟨rfl, rfl, Or.inr ⟨rfl, by decide⟩, Or.inr ⟨rfl, rfl⟩⟩
    | some node =>
      obtain ⟨answer, rest, rfl, path⟩ := path
      cases answer with
      | failed duplicate =>
        obtain ⟨_, _, rfl, rfl, rfl⟩ := path
        simp [Holdings.after, Holdings.rest, rowRefused, insertsRow, alreadyKnown, noDevices,
          userInserted, device]
      | done =>
        obtain ⟨answer, rest, rfl, path⟩ := path
        cases answer with
        | failed duplicate =>
          obtain ⟨_, _, rfl, rfl, rfl⟩ := path
          simp [Holdings.after, Holdings.rest, rowRefused, insertsRow, alreadyKnown, noDevices,
            userInserted, isDone, device]
        | done =>
          obtain ⟨rfl, rfl⟩ := path
          simp [Holdings.after, Holdings.rest, rowRefused, insertsRow, alreadyKnown, noDevices,
            userInserted, isDone]

/-- What a reload may do: it neither checks an id nor inserts a row. -/
def reloads : Op → Prop
  | .checkIdPwd _ _ _ => False
  | .realQuery _ statement => insertsRow statement = false
  | _ => True

/-- What the reload of the lists does. -/
theorem reloads_of_reloading {op : Op} (again : op.reloading = true) : reloads op := by
  cases op with
  | checkIdPwd n userId userPassword => cases again
  | realQuery node statement => cases statement <;> first | rfl | cases again
  | _ => trivial

/-- `UpdateLocalRegUserAndIotlist` makes only the operations of a reload. -/
theorem updateLocal_reloads : updateLocalRegUserAndIotlist.Only reloads :=
  updateLocalRegUserAndIotlist_reloading.mono fun _ again => reloads_of_reloading again

/-- A reload gives none of the answers about the id or the row. -/
theorem reloads_silent (method : Int) {trace : List Happening}
    (only : ∀ event ∈ trace, reloads event.1) :
    trace.any alreadyKnown = false ∧ trace.any (rowRefused method) = false ∧
      trace.any userInserted = false := by
  have silent : ∀ event : Happening, reloads event.1 →
      alreadyKnown event = false ∧ rowRefused method event = false ∧
        userInserted event = false := by
    rintro ⟨op, response⟩ allowed
    cases op with
    | checkIdPwd n userId userPassword => exact allowed.elim
    | realQuery node statement =>
      have plain : insertsRow statement = false := allowed
      cases statement <;> first
        | exact ⟨rfl, rfl, rfl⟩
        | exact absurd plain (Bool.noConfusion ·)
    | _ => exact ⟨rfl, rfl, rfl⟩
  simp only [List.any_eq_false, Bool.not_eq_true]
  exact ⟨fun event member => (silent event (only event member)).1,
    fun event member => (silent event (only event member)).2.1,
    fun event member => (silent event (only event member)).2.2⟩

/-- `Register` is balanced exactly under benign answers. -/
theorem register_holdings {a : CLN} {method : Int} {trace : List Happening} {result : Int}
    (path : (register a method).Path trace result) :
    Balanced trace ↔ benign method trace = true := by
  rw [register_eq] at path
  obtain ⟨(known : Int), rest, rfl, path⟩ := path
  dsimp only at path
  by_cases registered : known = 1
  · rw [if_pos registered] at path
    obtain ⟨rfl, -⟩ := path
    subst registered
    exact iff_of_true rfl rfl
  rw [if_neg registered] at path
  have unknown : alreadyKnown ⟨.checkIdPwd 1 a.userId a.userPassword, known⟩ = false :=
    decide_eq_false registered
  obtain ⟨inserting, inserted, after, rfl, insertion, path⟩ := (Prog.path_bind _ _ _ _).mp path
  obtain ⟨notKnown, noList, refusal, books⟩ := registerRow_holdings insertion
  have checked : ∀ later, holdingMonitor.run .rest
      (⟨.checkIdPwd 1 a.userId a.userPassword, known⟩ :: later) =
        holdingMonitor.run .rest later := fun _ => rfl
  by_cases failed : inserted = -1
  · rw [if_pos failed] at path
    obtain ⟨rfl, -⟩ := path
    obtain ⟨refused, -⟩ | ⟨-, wrong⟩ := refusal
    · obtain ⟨-, one, -⟩ | ⟨-, rested⟩ := books
      · rw [failed] at one
        contradiction
      · refine iff_of_true ?_ ?_
        · rw [Balanced, checked, List.append_nil, rested]
        · rw [benign, List.append_nil, List.any_cons (f := rowRefused method), refused]
          simp
    · exact absurd failed wrong
  rw [if_neg failed] at path
  obtain ⟨reload, value, done, rfl, reloading, rfl, -⟩ := (Prog.path_bind _ _ _ _).mp path
  obtain ⟨silentKnown, silentRow, silentUser⟩ :=
    reloads_silent method (updateLocal_reloads.path reloading)
  obtain ⟨-, wrong⟩ | ⟨accepted, -⟩ := refusal
  · exact absurd wrong failed
  have condition : benign method (⟨.checkIdPwd 1 a.userId a.userPassword, known⟩ ::
      (inserting ++ (reload ++ []))) = (!inserting.any userInserted && reload.any noDevices) := by
    have other : ∀ p : Happening → Bool, p ⟨.checkIdPwd 1 a.userId a.userPassword, known⟩ = false →
        List.any (⟨.checkIdPwd 1 a.userId a.userPassword, known⟩ :: (inserting ++ (reload ++ []))) p =
          (inserting.any p || reload.any p) := by
      intro p quiet
      rw [List.any_cons, quiet, List.append_nil, List.any_append, Bool.false_or]
    rw [benign, other _ unknown, other (rowRefused method) rfl, other userInserted rfl,
      other noDevices rfl, notKnown, silentKnown, accepted, silentRow, silentUser, noList]
    simp
  rw [condition, Balanced, checked, List.append_nil, Transition.System.run_append_eq]
  rcases books with ⟨user, -, node, leaked⟩ | ⟨noUser, rested⟩
  · rw [user, leaked, Option.bind_some]
    refine iff_of_false (fun restored => ?_) Bool.false_ne_true
    rcases updateLocal_holdings [node] reloading with ⟨-, same⟩ | ⟨-, stuck⟩ | ⟨-, locked⟩
    · rw [same] at restored
      cases restored
    · rw [stuck] at restored
      contradiction
    · exact Bool.false_ne_true (locked _ restored)
  · rw [noUser, rested, Option.bind_some, Bool.not_false, Bool.true_and]
    rcases updateLocal_holdings [] reloading with ⟨empty, same⟩ | ⟨wrong, -⟩ | ⟨devices, locked⟩
    · exact iff_of_true same empty
    · exact absurd rfl wrong
    · rw [devices]
      exact iff_of_false (fun restored => Bool.false_ne_true (locked _ restored))
        Bool.false_ne_true

/-- `IotUpdateStatus` is balanced whatever MySQL answers. -/
theorem iotUpdateStatus_balanced {a : CLN} {evtClass status : Int} {trace : List Happening}
    {result : Int} (path : (iotUpdateStatus a evtClass status).Path trace result) :
    Balanced trace := by
  obtain ⟨got, rest, rfl, path⟩ := path
  cases got with
  | none =>
    obtain ⟨rfl, -⟩ := path
    rfl
  | some node =>
    obtain ⟨answer, rest, rfl, path⟩ := path
    rcases answer with _ | _ | _
    · obtain ⟨_, _, rfl, rfl, -⟩ := path
      simp [Balanced, Holdings.after, Holdings.rest]
    · obtain ⟨_, _, rfl, rfl, -⟩ := path
      simp [Balanced, Holdings.after, Holdings.rest]
    · obtain ⟨_, rest, rfl, got, rest, rfl, path⟩ := path
      cases got with
      | none =>
        obtain ⟨rfl, -⟩ := path
        simp [Balanced, Holdings.after, Holdings.rest]
      | some node =>
        obtain ⟨_, _, rfl, _, _, rfl, _, _, rfl, rfl, -⟩ := path
        simp [Balanced, Holdings.after, Holdings.rest]

/-- A call of one of the two operations, with what happened in it. -/
inductive BookedCall : Type
  | register (a : CLN) (method : Int) (trace : List Happening) (result : Int)
  | iotUpdateStatus (a : CLN) (evtClass status : Int) (trace : List Happening) (result : Int)

/-- What happened in a call. -/
def BookedCall.trace : BookedCall → List Happening
  | .register _ _ trace _ => trace
  | .iotUpdateStatus _ _ _ trace _ => trace

/-- The call is a path of its operation. -/
def BookedCall.Valid : BookedCall → Prop
  | .register a method trace result => (UubangIot.register a method).Path trace result
  | .iotUpdateStatus a evtClass status trace result =>
    (UubangIot.iotUpdateStatus a evtClass status).Path trace result

/-- The answers of the call are benign, if it is a registration. -/
def BookedCall.Benign : BookedCall → Prop
  | .register _ method trace _ => benign method trace = true
  | .iotUpdateStatus _ _ _ _ _ => True

/-- A call is balanced exactly when its answers are benign. -/
theorem BookedCall.balanced_iff (call : BookedCall) (valid : call.Valid) :
    Balanced call.trace ↔ call.Benign := by
  cases call with
  | register a method trace result => exact register_holdings valid
  | iotUpdateStatus a evtClass status trace result =>
    exact iff_of_true (iotUpdateStatus_balanced valid) trivial

/-- Balanced calls one after the other leave the monitor at rest. -/
theorem balanced_sequence (calls : List BookedCall)
    (balanced : ∀ call ∈ calls, Balanced call.trace) : Balanced (calls.flatMap BookedCall.trace) := by
  induction calls with
  | nil => rfl
  | cons call calls ih =>
    have head : Balanced call.trace := balanced call List.mem_cons_self
    have tail := ih fun later member => balanced later (List.mem_cons_of_mem _ member)
    rw [List.flatMap_cons, Balanced, Transition.System.run_append_eq, head, Option.bind_some]
    exact tail

/-- Free nodes of a pool of a given size. -/
def Holdings.free (size : Nat) (holdings : Holdings) : Nat := size - holdings.held.length

/-- Leases and locks of the database operations: a call releases what it obtained, queries only
what it holds and leaves the mutexes unlocked exactly under benign answers, which a status
update always has; and after any sequence of calls with benign answers every node is free
again. -/
theorem books_kept_iff_benign (size : Nat) (calls : List BookedCall)
    (valid : ∀ call ∈ calls, call.Valid) :
    (∀ call ∈ calls, Balanced call.trace ↔ call.Benign) ∧
      ((∀ call ∈ calls, call.Benign) →
        ∃ final, holdingMonitor.run .rest (calls.flatMap BookedCall.trace) = some final ∧
          final.free size = size ∧ final.userMute = false ∧ final.iotMute = false) := by
  have each : ∀ call ∈ calls, Balanced call.trace ↔ call.Benign :=
    fun call member => call.balanced_iff (valid call member)
  refine ⟨each, fun benign => ?_⟩
  have kept : Balanced (calls.flatMap BookedCall.trace) :=
    balanced_sequence calls fun call member => (each call member).mpr (benign call member)
  exact ⟨.rest, kept, rfl, rfl, rfl⟩

/-- The answers to a first device while no device is known. -/
def firstDeviceAnswers : List Answer :=
  [.int (-1), .node (some 0), .query .done, .unit, .unit, .bytes [],
    .found (some ⟨0, text "13800138000", 1, [], [], 0, true⟩), .node (some 0), .query .done,
    .rows (some []), .unit, .unit, .found none]

/-- A first device keeps the books. -/
theorem books_kept_first_device :
    ∃ trace result, answering (register { CLN.zero with userId := text "dev001" } 1)
        firstDeviceAnswers = some (trace, result) ∧
      ∃ final, holdingMonitor.run .rest (List.flatMap BookedCall.trace
          [.register { CLN.zero with userId := text "dev001" } 1 trace result]) = some final ∧
        final.free 30 = 30 ∧ final.userMute = false ∧ final.iotMute = false := by
  refine ⟨_, _, rfl, (books_kept_iff_benign 30 _ ?_).2 ?_⟩
  · intro call member
    obtain rfl := List.mem_singleton.mp member
    exact answering_path _ firstDeviceAnswers rfl
  · intro call member
    obtain rfl := List.mem_singleton.mp member
    rfl

/-- The answers to a user while no device is known. -/
def firstUserAnswers : List Answer :=
  [.int (-1), .node (some 0), .query .done, .query .done, .unit, .bytes [],
    .found (some ⟨0, text "13800138000", 1, [], [], 0, true⟩), .node (some 1), .query .done,
    .rows (some []), .unit, .unit, .found none]

/-- A registered user leaves the node of its insertion held: every database call succeeded and
the registration reports success. -/
theorem user_registration_keeps_node :
    ∃ trace, (register { CLN.zero with userId := text "13800138001" } 0).Path trace 1 ∧
      holdingMonitor.run .rest trace = some ⟨[0], false, false⟩ ∧ ¬Balanced trace := by
  refine ⟨_, answering_path _ firstUserAnswers rfl, rfl, fun balanced => ?_⟩
  cases balanced

end UubangIot
