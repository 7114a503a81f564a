import UubangIot.Verif.Chronicle
import UubangIot.Verif.Handlers

/-!
# Registration and the PIN

`REA` compares the digest of the connection's PIN with the password of the request. A wrong PIN is
reported, and unless the report cannot be sent the registration goes on.
-/

namespace UubangIot

open Effect Effect.Prog Transition Transition.System

/-- `strcmp(PinMd5, a->USERPASSWORD)` of a PIN and a password. -/
def pinMatches (config : Config) (pin userPassword : Bytes) : Bool :=
  streq (config.md5 (pin.take 6)) userPassword

/-- `Register` begins with the check of a new id. -/
def Op.registers : Op → Bool
  | .checkIdPwd n _ _ => n = 1
  | _ => false

/-- A new row of `user`. -/
def Op.insertsUser : Op → Bool
  | .realQuery _ (.insertUser _ _ _ _) => true
  | _ => false

/-- A change of a registered list. -/
def Op.changesRegistry : Op → Bool
  | .addtoLocal _ => true
  | .setRegisterPassword _ _ => true
  | _ => false

/-- The report of a wrong PIN, if any, is the only reply; nothing is registered, and after the
report no list changes. -/
structure Refused (trace : List Happening) : Prop where
  replies : trace.filterMap replyCode <+: [text "RPE"]
  unregistered : ∀ happening ∈ trace, happening.1.registers = false
  rows : ∀ happening ∈ trace, happening.1.insertsUser = false
  lists : ∀ before report after, trace = before ++ report :: after →
    replyCode report = some (text "RPE") → ∀ happening ∈ after, happening.1.changesRegistry = false

/-- A registration has the PIN of its connection. Without it, it is refused, and with exactly one
report once the request is handled. -/
def PinGuarded (config : Config) (now : ServerState × List Note) : Prop :=
  ∀ conn record packet allocated object request,
    .received conn record packet allocated object ∈ now.2 →
    requestOf conn record packet allocated = some request → request.requestClass = .user .rea →
    ((∃ happening ∈ deeds now.2 object, happening.1.registers = true) →
      pinMatches config record.pin request.userPassword = true) ∧
    (pinMatches config record.pin request.userPassword = false →
      Refused (deeds now.2 object) ∧
      ((∀ task ∈ now.1.tasks, task.object ≠ object) →
        (deeds now.2 object).filterMap replyCode = [text "RPE"]))

/-- A task about to report a wrong PIN. -/
def Task.reportsWrongPin (config : Config) (task : Task) : Bool :=
  decide (task.request.requestClass = .user .rea) &&
    !pinMatches config task.request.pin task.request.userPassword &&
    match task.program with
    | .call op _ => op = .send task.request.socket (reply "RPE")
    | .ret _ => false

/-- The report of a wrong PIN is not sent. -/
def reportLost (config : Config) (server : ServerState) : Turn → Bool
  | .step index (.int len) =>
    !(server.tasks[index]?.any fun task => task.reportsWrongPin config) || sendFailed len
  | _ => true

/-- No turn sends the report of a wrong PIN. -/
def ReportsLost (config : Config) (now : ServerState × List Note) (turn : Turn) : Prop :=
  reportLost config now.1 turn = true

instance (config : Config) (now : ServerState × List Note) (turn : Turn) :
    Decidable (ReportsLost config now turn) := inferInstanceAs (Decidable (_ = true))

/-! ## One request -/

variable {config : Config} {a : CLN}

/-- The report of a wrong PIN. -/
def report (a : CLN) (len : Int) : Happening := ⟨.send a.socket (reply "RPE"), len⟩

/-- A report of a wrong PIN in a trace was not sent. -/
def LostIn (a : CLN) (trace : List Happening) : Prop :=
  ∀ len, report a len ∈ trace → sendFailed len = true

/-- What follows the report of a wrong PIN. -/
def afterReport (a : CLN) (len : Int) : Handler Unit :=
  if sendFailed len then .call (.closeSocket a.socket) fun _ => finish a
  else talkRegister a >>= endCase a

/-- A report that is not sent ends the task. -/
theorem afterReport_ending (a : CLN) {len : Int} (failed : sendFailed len = true) :
    (afterReport a len).Only (Op.ending · = true) := by
  rw [afterReport, if_pos failed]
  exact ⟨rfl, fun _ => finish_ending a⟩

/-- A request with a wrong PIN: a reload, then the report. -/
theorem talk_wrong_pin (asks : a.requestClass = .user .rea)
    (wrong : pinMatches config a.pin a.userPassword = false) :
    talk config a = updateLocalRegUserAndIotlist >>= fun _ =>
      .call (.send a.socket (reply "RPE")) (afterReport a) := by
  have other : ¬streq (config.md5 (a.pin.take 6)) a.userPassword = true := by
    rw [← pinMatches, wrong]
    exact Bool.false_ne_true
  rw [talk_user asks, talkCase, talkRea, bind_bind]
  refine congrArg (updateLocalRegUserAndIotlist >>= ·) (funext fun _ => ?_)
  rw [if_neg other]
  refine congrArg (Prog.call (Op.send a.socket (reply "RPE"))) (funext fun (len : Int) => ?_)
  rw [afterReport]
  dsimp only [Prog.bind]
  by_cases failed : sendFailed len = true
  · rw [if_pos failed, if_pos failed]
    rfl
  · rw [if_neg failed, if_neg failed]
    rfl

/-- What is done with a wrong PIN whose report is not sent. -/
theorem wrong_pin_trace (asks : a.requestClass = .user .rea)
    (wrong : pinMatches config a.pin a.userPassword = false) {trace : List Happening}
    {rest : Handler Unit} (comes : Comes (talk config a) trace rest) (lost : LostIn a trace) :
    ∃ reload, (∀ happening ∈ reload, happening.1.reloading = true) ∧
      ((trace = reload ∧ rest ≠ .ret ()) ∨ ∃ (len : Int) (ending : List Happening),
        trace = reload ++ report a len :: ending ∧
          ∀ happening ∈ ending, happening.1.ending = true) := by
  rw [talk_wrong_pin asks wrong] at comes
  rcases comes.bind_cases with ⟨middle, first, rfl⟩ | ⟨reload, value, after, rfl, path, later⟩
  · have only := updateLocalRegUserAndIotlist_reloading.comes first
    refine ⟨trace, only.1, .inl ⟨rfl, ?_⟩⟩
    cases middle with
    | ret value => exact fun same => nomatch same
    | call op next => exact fun same => nomatch same
  · have only := updateLocalRegUserAndIotlist_reloading.path path
    refine ⟨reload, only, ?_⟩
    cases later with
    | here => exact .inl ⟨List.append_nil _, fun same => nomatch same⟩
    | call op next len ending rest later =>
      refine .inr ⟨len, ending, rfl, ?_⟩
      have failed := lost len (List.mem_append_right _ List.mem_cons_self)
      exact ((afterReport_ending a failed).comes later).1

/-- A reload has no reply and registers nothing. -/
theorem reloading_unseen {happening : Happening} (reloads : happening.1.reloading = true) :
    replyCode happening = none ∧ happening.1.registers = false ∧
      happening.1.insertsUser = false := by
  obtain ⟨op, response⟩ := happening
  cases op with
  | realQuery node statement => cases statement <;> first | exact ⟨rfl, rfl, rfl⟩ | cases reloads
  | _ => first | exact ⟨rfl, rfl, rfl⟩ | cases reloads

/-- The end of a task registers nothing and changes no list. -/
theorem ending_unseen {happening : Happening} (ends : happening.1.ending = true) :
    happening.1.registers = false ∧ happening.1.insertsUser = false ∧
      happening.1.changesRegistry = false := by
  obtain ⟨op, response⟩ := happening
  cases op <;> first | exact ⟨rfl, rfl, rfl⟩ | cases ends

/-- The operations of a reload send no reply. -/
theorem replies_reloading {reload : List Happening}
    (reloads : ∀ happening ∈ reload, happening.1.reloading = true) :
    reload.filterMap replyCode = [] :=
  List.filterMap_eq_nil_iff.mpr fun happening member =>
    (reloading_unseen (reloads happening member)).1

/-- The ends of tasks have no replies. -/
theorem replies_ending {ending : List Happening}
    (ends : ∀ happening ∈ ending, happening.1.ending = true) : ending.filterMap replyCode = [] :=
  List.filterMap_eq_nil_iff.mpr fun happening member =>
    replyCode_ending happening (ends happening member)

/-- A registration that only reloads is refused. -/
theorem refused_reload {reload : List Happening}
    (reloads : ∀ happening ∈ reload, happening.1.reloading = true) : Refused reload where
  replies := by
    rw [replies_reloading reloads]
    exact List.nil_prefix
  unregistered happening member := (reloading_unseen (reloads happening member)).2.1
  rows happening member := (reloading_unseen (reloads happening member)).2.2
  lists before report after split reports := by
    have silent := (reloading_unseen (reloads report (by rw [split]; simp))).1
    rw [silent] at reports
    cases reports

/-- A reload, a report and the end of the task refuse. -/
theorem refused_report {reload ending : List Happening} (len : Int)
    (reloads : ∀ happening ∈ reload, happening.1.reloading = true)
    (ends : ∀ happening ∈ ending, happening.1.ending = true) :
    (reload ++ report a len :: ending).filterMap replyCode = [text "RPE"] ∧
      Refused (reload ++ report a len :: ending) := by
  have reports : replyCode (report a len) = some (text "RPE") := rfl
  have replies : (reload ++ report a len :: ending).filterMap replyCode = [text "RPE"] := by
    rw [List.filterMap_append, replies_reloading reloads, List.filterMap_cons_some reports,
      replies_ending ends]
    rfl
  have parts (happening : Happening) (member : happening ∈ reload ++ report a len :: ending) :
      happening.1.registers = false ∧ happening.1.insertsUser = false := by
    rcases List.mem_append.mp member with first | later
    · exact (reloading_unseen (reloads happening first)).2
    · rcases List.mem_cons.mp later with rfl | last
      · exact ⟨rfl, rfl⟩
      · exact ⟨(ending_unseen (ends happening last)).1, (ending_unseen (ends happening last)).2.1⟩
  refine ⟨replies, ?_, fun happening member => (parts happening member).1,
    fun happening member => (parts happening member).2, ?_⟩
  · rw [replies]
  · intro before found after split told happening member
    -- the report is the only reply, so what follows it is the end of the task
    have same : after = ending := by
      rcases List.append_eq_append_iff.mp split with ⟨more, rfl, tail⟩ | ⟨more, rfl, tail⟩
      · cases more with
        | nil => exact (List.cons.inj tail).2.symm
        | cons first more =>
          have inside : found ∈ ending := by
            rw [(List.cons.inj tail).2]
            simp
          rw [replyCode_ending found (ends found inside)] at told
          cases told
      · cases more with
        | nil => exact (List.cons.inj tail).2
        | cons first more =>
          have inside : found ∈ before ++ first :: more := by
            rw [(List.cons.inj tail).1]
            simp
          rw [(reloading_unseen (reloads found inside)).1] at told
          cases told
    rw [same] at member
    exact (ending_unseen (ends happening member)).2.2

/-- A wrong PIN is refused when its report is not sent. -/
theorem wrong_pin_refused (asks : a.requestClass = .user .rea)
    (wrong : pinMatches config a.pin a.userPassword = false) {trace : List Happening}
    {rest : Handler Unit} (comes : Comes (talk config a) trace rest) (lost : LostIn a trace) :
    Refused trace ∧ (rest = .ret () → trace.filterMap replyCode = [text "RPE"]) := by
  obtain ⟨reload, reloads, ⟨rfl, unfinished⟩ | ⟨len, ending, rfl, ends⟩⟩ :=
    wrong_pin_trace asks wrong comes lost
  · exact ⟨refused_reload reloads, fun finished => absurd finished unfinished⟩
  · have refused := refused_report (a := a) len reloads ends
    exact ⟨refused.2, fun _ => refused.1⟩

/-! ## Every run -/

/-- No report of a wrong PIN was sent. -/
def ReportsLostIn (config : Config) (log : List Note) : Prop :=
  ∀ object request, Requested log object request → request.requestClass = .user .rea →
    pinMatches config request.pin request.userPassword = false → LostIn request (deeds log object)

/-- What a request with a wrong PIN has done. -/
theorem guarded_of_lost {now : ServerState × List Note} (told : Told config now)
    (lost : ReportsLostIn config now.2) : PinGuarded config now := by
  intro conn record packet allocated object request received made asks
  have requested : Requested now.2 object request :=
    ⟨_, received, by rw [Note.request, made]; rfl⟩
  have pin : request.pin = record.pin := (requestOf_copied made).pin
  rw [← pin]
  obtain ⟨rest, comes⟩ := told.comes requested
  refine ⟨fun registers => ?_, fun wrong => ?_⟩
  · by_contra mismatch
    have wrong := Bool.eq_false_of_not_eq_true mismatch
    obtain ⟨happening, member, registers⟩ := registers
    have refused := (wrong_pin_refused asks wrong comes (lost object request requested asks wrong)).1
    rw [refused.unregistered happening member] at registers
    cases registers
  · have none := lost object request requested asks wrong
    refine ⟨(wrong_pin_refused asks wrong comes none).1, fun free => ?_⟩
    have whole := comes_ret.mpr (told.gone object request requested free)
    exact (wrong_pin_refused asks wrong whole none).2 rfl

/-- A turn that loses the reports. -/
theorem reportsLost_turn (config : Config) (now : ServerState × List Note) (turn : Turn)
    (next : ServerState × List Note) (loses : ReportsLost config now turn)
    (kept : Told config now ∧ ReportsLostIn config now.2)
    (turned : (chronicled config).step now turn = some next) :
    Told config next ∧ ReportsLostIn config next.2 := by
  refine ⟨told_turn config now turn next kept.1 turned, ?_⟩
  obtain ⟨server, log⟩ := now
  obtain ⟨after, history⟩ := next
  obtain ⟨told, lost⟩ := kept
  obtain ⟨conn, record, packet, allocated, -, known, received, rfl⟩ |
    ⟨index, answer, task, op, rest, response, memory, rfl, found, program, read, -, -, rfl⟩ |
    ⟨index, task, -, found, returned, -, rfl⟩ | ⟨passes, rfl⟩ := chronicled_cases turned
  · intro object request requested asks wrong
    change LostIn request (deeds (log ++ [_]) object)
    rw [deeds_snoc_of_none rfl]
    rcases requested_append.mp requested with old | new
    · exact lost object request old asks wrong
    · have own := requested_singleton.mp new
      rw [Note.request, Option.map_eq_some_iff] at own
      obtain ⟨made, -, same⟩ := own
      rw [← (Prod.mk.inj same).1, told.idle]
      exact fun _ => List.not_mem_nil.elim
  · intro object request requested asks wrong
    have old : Requested log object request := by
      rcases requested_append.mp requested with old | new
      · exact old
      · have own := requested_singleton.mp new
        rw [Note.request] at own
        cases own
    have before := lost object request old asks wrong
    change LostIn request (deeds (log ++ [.did task.object ⟨op, response⟩]) object)
    by_cases own : task.object = object
    · subst own
      rw [deeds_snoc_did]
      intro len member
      rcases List.mem_append.mp member with earlier | last
      · exact before len earlier
      · have same := List.mem_singleton.mp last
        have pooled := told.single _ _ _ old (told.pooled task (List.mem_of_getElem? found)).1
        subst pooled
        rw [report] at same
        cases same
        cases answer with
        | int value =>
          obtain rfl := Option.some.inj read
          rw [ReportsLost, reportLost, found, Option.any_some, Task.reportsWrongPin, asks, wrong,
            program] at loses
          simpa using loses
        | _ => cases read
    · rw [deeds_snoc_other log own]
      exact before
  · exact lost
  · exact lost

/-- Where no report of a wrong PIN is sent, a registration needs the PIN of its connection, and a
wrong one is answered by one report and registers nothing. -/
theorem registration_needs_pin (config : Config) (turns : List Turn)
    (meets : (chronicled config).Meets (ReportsLost config) (.initial, []) turns) :
    (chronicled config).Always (PinGuarded config) (.initial, []) turns := by
  refine always_of_meets (fun _ kept => guarded_of_lost kept.1 kept.2) (reportsLost_turn config)
    ⟨told_initial config, fun _ _ requested => ?_⟩ meets
  obtain ⟨note, member, -⟩ := requested
  cases member

/-- A digest that no empty password has. -/
def digestConfig : Config := ⟨fun _ => text "digest", []⟩

/-- A connection that sends a registration without the PIN, up to the report. -/
def registering (len : Int) : List Turn :=
  [.event (.accept 5), .event (.receive 0 (text "ZYXX1226") true),
    .event (.receive 0 (text "REA") true), .step 1 .unit, .step 1 (.bytes []),
    .step 1 (.found (some ⟨0, [], 0, [], [], 0, true⟩)), .step 1 (.node none), .step 1 (.int len)]

/-- The report cannot be sent. -/
theorem registration_needs_pin_lost : ∃ server log,
    (chronicled digestConfig).run (.initial, []) (registering 0) = some (server, log) ∧
      (deeds log 1).length = 5 ∧ PinGuarded digestConfig (server, log) :=
  ⟨_, _, rfl, rfl,
    registration_needs_pin digestConfig (registering 0) (by decide +kernel) 8 _ rfl⟩

/-- The report is sent and the registration goes on. -/
theorem registration_without_pin : ∃ server log,
    (chronicled digestConfig).run (.initial, []) (registering 706 ++ [.step 1 (.int (-1))]) =
        some (server, log) ∧
      ¬PinGuarded digestConfig (server, log) := by
  refine ⟨_, _, rfl, fun guarded => ?_⟩
  have pin := (guarded 0 _ (text "REA") true 1 _ (.tail _ (.head _)) rfl (by decide)).1
  have matched := pin ⟨_, .tail _ (.tail _ (.tail _ (.tail _ (.tail _ (.head _))))), rfl⟩
  revert matched
  decide

end UubangIot
