import UubangIot.Server.Talk

/-!
# Calls of the routines that write into arrays

A handler is the same under any routines that are the source's wherever it calls them. This says
which calls it makes, whatever its operations are answered. `CLN.Calls` has the calls of each request
with what guards them.
-/

namespace UubangIot

open Effect RsaUtils

/-- A call of a routine that writes into an array. -/
inductive WriterCall
  /-- `encodeMessage` of a PIN. -/
  | encode (key : RSAKey) (pin : Bytes)
  /-- `decodeMessage` of `len` blocks. -/
  | decode (key : RSAKey) (target source : Bytes) (len : Nat)
  /-- `sprintf` of a text. -/
  | print (array source : Bytes)
  /-- `Stringcut` of 200 bytes. -/
  | cut (source : Bytes)

/-- Routines that are the source's in good calls, and do anything in others. -/
structure Writers.Follows (writers : Writers) (good : WriterCall → Prop) : Prop where
  /-- Encoding. -/
  encode : ∀ {α : Type} (key : RSAKey) (pin : Bytes) (next : Bytes → Handler α),
    good (.encode key pin) → writers.encode key pin next = Writers.source.encode key pin next
  /-- Decoding. -/
  decode : ∀ {α : Type} (key : RSAKey) (target source : Bytes) (len : Nat)
    (next : Bytes → Handler α), good (.decode key target source len) →
      writers.decode key target source len next = Writers.source.decode key target source len next
  /-- Printing. -/
  print : ∀ {α : Type} (array source : Bytes) (next : Bytes → Handler α),
    good (.print array source) → writers.print array source next =
      Writers.source.print array source next
  /-- Cutting. -/
  cut : ∀ {α : Type} (source : Bytes) (next : Bytes → Handler α), good (.cut source) →
    writers.cut source next = Writers.source.cut source next

/-- Every call of the program is good: whatever the routines do in other calls, the program is the
same. -/
def MakesOnly {α : Type} (good : WriterCall → Prop) (program : Writers → Handler α) : Prop :=
  ∀ writers : Writers, writers.Follows good → program writers = program .source

section

variable {α β : Type} {good : WriterCall → Prop}

/-- A program that no writer enters makes no calls. -/
theorem makesOnly_const (handler : Handler α) : MakesOnly good fun _ => handler :=
  fun _ _ => rfl

/-- More calls may be good. -/
theorem MakesOnly.mono {wider : WriterCall → Prop} {program : Writers → Handler α}
    (makes : MakesOnly good program) (implied : ∀ call, good call → wider call) :
    MakesOnly wider program := fun writers follows =>
  makes writers
    { encode := fun key pin next call => follows.encode key pin next (implied _ call)
      decode := fun key target source len next call =>
        follows.decode key target source len next (implied _ call)
      print := fun array source next call => follows.print array source next (implied _ call)
      cut := fun source next call => follows.cut source next (implied _ call) }

/-- What is done with a program. -/
theorem MakesOnly.map {program : Writers → Handler α} (makes : MakesOnly good program)
    (f : Handler α → Handler β) : MakesOnly good fun writers => f (program writers) :=
  fun writers follows => congrArg f (makes writers follows)

/-- A program that makes only good calls, followed by such programs, makes only good ones. -/
theorem MakesOnly.bind {program : Writers → Handler α} {f : Writers → α → Handler β}
    (first : MakesOnly good program)
    (second : ∀ value, MakesOnly good fun writers => f writers value) :
    MakesOnly good fun writers => program writers >>= f writers := by
  intro writers follows
  have rest : f writers = f .source := funext fun value => second value writers follows
  change program writers >>= f writers = program .source >>= f .source
  rw [first writers follows, rest]

/-- A good call that encodes, and what follows it. -/
theorem MakesOnly.encode {key : RSAKey} {pin : Bytes} {next : Writers → Bytes → Handler α}
    (call : good (.encode key pin))
    (later : ∀ written, MakesOnly good fun writers => next writers written) :
    MakesOnly good fun writers => writers.encode key pin (next writers) := by
  intro writers follows
  have rest : next writers = next .source := funext fun written => later written writers follows
  exact (follows.encode key pin _ call).trans (congrArg _ rest)

/-- A good call that decodes, and what follows it. -/
theorem MakesOnly.decode {key : RSAKey} {target source : Bytes} {len : Nat}
    {next : Writers → Bytes → Handler α} (call : good (.decode key target source len))
    (later : ∀ written, MakesOnly good fun writers => next writers written) :
    MakesOnly good fun writers => writers.decode key target source len (next writers) := by
  intro writers follows
  have rest : next writers = next .source := funext fun written => later written writers follows
  exact (follows.decode key target source len _ call).trans (congrArg _ rest)

/-- A good call that prints, and what follows it. -/
theorem MakesOnly.print {array source : Bytes} {next : Writers → Bytes → Handler α}
    (call : good (.print array source))
    (later : ∀ written, MakesOnly good fun writers => next writers written) :
    MakesOnly good fun writers => writers.print array source (next writers) := by
  intro writers follows
  have rest : next writers = next .source := funext fun written => later written writers follows
  exact (follows.print array source _ call).trans (congrArg _ rest)

end

/-! ## The calls of a request -/

/-- The calls of a request. -/
inductive CLN.Calls (a : CLN) : WriterCall → Prop
  /-- `PIN` and opcode 2 encode with a key. -/
  | pin (asks : a.requestClass = .user .pin ∨ a.requestClass = .device)
      (keyed : a.key.encryptBlockBytes ≠ 0) (pin : Bytes) : a.Calls (.encode a.key pin)
  /-- `SIA`, `SIB` and `REA` decode the password. -/
  | password (asks : a.requestClass = .user .sia ∨ a.requestClass = .user .sib ∨
      a.requestClass = .user .rea) : a.Calls (.decode a.passwordKey a.userPassword a.data 32)
  /-- `RPA` decodes the new password. -/
  | renewal (asks : a.requestClass = .user .rpa) :
      a.Calls (.decode a.passwordKey a.reUserPassword a.data 32)
  /-- `SCE` with a schedule prints the text of the scene. -/
  | scene (asks : a.requestClass = .user .sce) {first second : Bytes} {others : List Bytes}
      (parts : strSplit a.data 200 tilde = first :: second :: others) :
      a.Calls (.print a.data first)
  /-- It prints the schedule. -/
  | schedule (asks : a.requestClass = .user .sce) {first second : Bytes} {others : List Bytes}
      (parts : strSplit a.data 200 tilde = first :: second :: others) :
      a.Calls (.print a.date second)
  /-- Opcode 3 decodes the password with a key. -/
  | secret (asks : a.requestClass = .device) (three : atoi a.checkcode = 3)
      (keyed : a.key.encryptBlockBytes ≠ 0) {name secret : Bytes} {others : List Bytes}
      (parts : strSplit a.data 200 underscore = name :: secret :: others) :
      a.Calls (.decode a.passwordKey a.userPassword secret 7)
  /-- It prints the id. -/
  | id (asks : a.requestClass = .device) (three : atoi a.checkcode = 3)
      (keyed : a.key.encryptBlockBytes ≠ 0) {name secret : Bytes} {others : List Bytes}
      (parts : strSplit a.data 200 underscore = name :: secret :: others) :
      a.Calls (.print a.userId name)

variable {a : CLN}

/-- `PIN`. -/
theorem talkPin_calls (asks : a.requestClass = .user .pin) :
    MakesOnly a.Calls fun writers => @talkPin writers a := by
  intro writers follows
  unfold talkPin
  split
  · rfl
  · rename_i keyed
    have encodes (pin : Bytes) : writers.encode a.key pin (fun _ => (faulty : Handler Flow)) =
        Writers.source.encode a.key pin fun _ => faulty :=
      follows.encode a.key pin _ (.pin (.inl asks) keyed pin)
    simp only [encodes]

/-- `SIA` and `SIB` make only the calls of their request. -/
theorem talkSia_calls (asks : a.requestClass = .user .sia ∨ a.requestClass = .user .sib) :
    MakesOnly a.Calls fun writers => @talkSia writers a :=
  MakesOnly.decode (.password (asks.imp_right .inl)) fun _ => makesOnly_const _

/-- `REA` after the PIN was compared. -/
theorem talkRegister_calls (asks : a.requestClass = .user .rea) :
    MakesOnly a.Calls fun writers => @talkRegister writers a :=
  MakesOnly.decode (.password (.inr (.inr asks))) fun _ => makesOnly_const _

/-- `REA` makes only the calls of its request. -/
theorem talkRea_calls (config : Config) (asks : a.requestClass = .user .rea) :
    MakesOnly a.Calls fun writers => @talkRea writers config a := by
  refine MakesOnly.bind (makesOnly_const _) fun _ => ?_
  by_cases right : streq (config.md5 (a.pin.take 6)) a.userPassword = true
  · simp only [if_pos right]
    exact talkRegister_calls asks
  · simp only [if_neg right]
    exact (talkRegister_calls asks).map _

/-- `RPA` makes only the calls of its request. -/
theorem talkRpa_calls (asks : a.requestClass = .user .rpa) :
    MakesOnly a.Calls fun writers => @talkRpa writers a :=
  MakesOnly.bind (makesOnly_const _) fun _ =>
    MakesOnly.decode (.renewal asks) fun _ => makesOnly_const _

/-- `SCE` makes only the calls of its request. -/
theorem talkSce_calls (asks : a.requestClass = .user .sce) :
    MakesOnly a.Calls fun writers => @talkSce writers a := by
  unfold talkSce
  rcases parts : strSplit a.data 200 tilde with _ | ⟨first, _ | ⟨second, others⟩⟩
  · exact makesOnly_const _
  · exact makesOnly_const _
  · exact MakesOnly.print (.scene asks parts) fun data =>
      MakesOnly.print (.schedule asks parts) fun date => makesOnly_const _

/-- Opcode 2 makes only the calls of its request. -/
theorem iotPin_calls (asks : a.requestClass = .device) :
    MakesOnly a.Calls fun writers => @iotPin writers a := by
  unfold iotPin
  by_cases keyed : a.key.encryptBlockBytes = 0
  · simp only [keyed, if_true]
    exact makesOnly_const _
  · simp only [keyed, if_false]
    refine MakesOnly.bind (makesOnly_const _) fun pin => ?_
    refine MakesOnly.bind (makesOnly_const _) fun _ => ?_
    exact MakesOnly.encode (.pin (.inr asks) keyed pin) fun _ => makesOnly_const _

/-- Opcode 3 makes only the calls of its request. -/
theorem iotRegSign_calls (asks : a.requestClass = .device) (three : atoi a.checkcode = 3) :
    MakesOnly a.Calls fun writers => @iotRegSign writers a := by
  refine MakesOnly.bind (makesOnly_const _) fun signedIn => ?_
  by_cases fresh : signedIn = false ∧ a.key.encryptBlockBytes ≠ 0
  · simp only [if_pos fresh]
    rcases parts : strSplit a.data 200 underscore with _ | ⟨name, _ | ⟨secret, others⟩⟩
    · exact makesOnly_const _
    · exact makesOnly_const _
    · exact MakesOnly.decode (.secret asks three fresh.2 parts) fun userPassword =>
        MakesOnly.print (.id asks three fresh.2 parts) fun userId => makesOnly_const _
  · simp only [if_neg fresh]
    exact makesOnly_const _

/-- A device's request makes only the calls of its class. -/
theorem iotTalk_calls (asks : a.requestClass = .device) :
    MakesOnly a.Calls fun writers => @iotTalk writers a := by
  unfold iotTalk
  split
  · exact makesOnly_const _
  · exact iotPin_calls asks
  · rename_i three
    exact iotRegSign_calls asks three
  all_goals exact makesOnly_const _

/-- A user's request makes only the calls of its class. -/
theorem talkCase_calls (config : Config) {opcode : Opcode} (asks : a.requestClass = .user opcode) :
    MakesOnly a.Calls fun writers => @talkCase writers config a opcode := by
  cases opcode with
  | pin => exact talkPin_calls asks
  | sia => exact talkSia_calls (.inl asks)
  | sib => exact talkSia_calls (.inr asks)
  | rea => exact talkRea_calls config asks
  | sce => exact talkSce_calls asks
  | rpa => exact talkRpa_calls asks
  | _ => exact makesOnly_const _

/-- Every request makes its calls only. -/
theorem talk_calls (config : Config) (a : CLN) :
    MakesOnly a.Calls fun writers => @talk writers config a := by
  unfold talk
  cases asks : a.requestClass with
  | test => exact makesOnly_const _
  | device => exact (iotTalk_calls asks).bind fun _ => makesOnly_const _
  | user opcode => exact (talkCase_calls config asks).bind fun _ => makesOnly_const _

end UubangIot
