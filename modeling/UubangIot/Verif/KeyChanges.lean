import UubangIot.Verif.SessionEffect

/-!
# Where the handlers replace a key

The shape of the requests that replace their connection's key: after operations that have nothing
to do with keys the new key is stored, and then it is announced on the request's own socket, once.
Every other request leaves the keys alone.
-/

namespace UubangIot

open Effect Effect.Prog RsaUtils

/-- An operation that has nothing to do with keys. -/
def keyless (op : Op) : Prop := op.role ≠ .key

/-- A program that has stored a new key of its connection and has still to announce it. -/
inductive Announces {α : Type} (a : CLN) (key : RSAKey) : Handler α → Prop
  /-- The announcement, and no key after it. -/
  | send {frame : Frame} {next : Int → Handler α}
      (announced : frame.announced = some (announcement key))
      (rest : ∀ len, (next len).Only keyless) : Announces a key (.call (.send a.socket frame) next)
  /-- Something else before it. -/
  | other {op : Op} {next : op.Res → Handler α} (still : keyless op) (way : op.Res)
      (on : ∀ response, Announces a key (next response)) : Announces a key (.call op next)

/-- A program about to store a new key of its connection, or one without keys. -/
def Stores {α : Type} (a : CLN) (program : Handler α) : Prop :=
  program.Only keyless ∨ ∃ (key : RSAKey) (next : Unit → Handler α),
    program = .call (.setConnKey a.conn key) next ∧ Announces a key (next ())

/-- A program that replaces the key of its connection once at most. -/
def Rekeys {α : Type} (a : CLN) (program : Handler α) : Prop :=
  program.Leads keyless (fun _ => True) (Stores a)

/-- Plain operations have nothing to do with keys. -/
theorem keyless_of_plain {op : Op} (plain : op.plain) : keyless op := by
  rw [keyless, plain]
  decide

section

variable {α β : Type} {a : CLN}

/-- What follows an announcement has nothing to do with keys. -/
theorem Announces.bind {key : RSAKey} {program : Handler α} {f : α → Handler β}
    (announces : Announces a key program) (after : ∀ value, (f value).Only keyless) :
    Announces a key (program >>= f) := by
  induction announces with
  | send announced rest => exact .send announced fun len => (rest len).bind after
  | other still way on ih => exact .other still way ih

/-- A program that has an announcement to make has to do with keys. -/
theorem Announces.busy {key : RSAKey} {program : Handler α}
    (announces : Announces a key program) : ¬program.Only keyless := by
  intro idle
  induction announces with
  | send announced rest =>
    refine idle.1 (if_neg ?_)
    rw [announced]
    exact Option.some_ne_none _
  | other still way on ih => exact ih way (idle.2 way)

/-- What follows a replacement has nothing to do with keys. -/
theorem Rekeys.bind {program : Handler α} {f : α → Handler β} (rekeys : Rekeys a program)
    (after : ∀ value, (f value).Only keyless) : Rekeys a (program >>= f) := by
  refine Leads.bind rekeys fun rest stores => .here ?_
  obtain idle | ⟨key, next, rfl, announces⟩ := stores
  · exact .inl (idle.bind after)
  · exact .inr ⟨key, _, rfl, announces.bind after⟩

/-- An operation that stores no key but the request's own connection's. -/
def storesOwn (a : CLN) (op : Op) : Prop := ∀ conn key, op = .setConnKey conn key → conn = a.conn

/-- What has nothing to do with keys stores none. -/
theorem storesOwn_of_keyless {op : Op} (still : keyless op) : storesOwn a op := by
  rintro conn key rfl
  exact absurd rfl still

/-- An announcement stores no key. -/
theorem Announces.own {key : RSAKey} {program : Handler α} (announces : Announces a key program) :
    program.Only (storesOwn a) := by
  induction announces with
  | send announced rest =>
    exact ⟨fun _ _ impossible => Op.noConfusion impossible,
      fun len => (rest len).mono fun _ => storesOwn_of_keyless⟩
  | other still way on ih => exact ⟨storesOwn_of_keyless still, ih⟩

/-- A replacement stores no other connection's key. -/
theorem Rekeys.own {program : Handler α} (rekeys : Rekeys a program) :
    program.Only (storesOwn a) := by
  refine Leads.only rekeys (fun _ => trivial) (fun _ => storesOwn_of_keyless) fun rest stores => ?_
  obtain still | ⟨key, next, rfl, announces⟩ := stores
  · exact still.mono fun _ => storesOwn_of_keyless
  · exact ⟨fun conn other same => (Op.setConnKey.inj same).1.symm, fun _ => announces.own⟩

/-- The end of a task has nothing to do with keys. -/
theorem finish_keyless (a : CLN) : (finish a).Only keyless := by
  have settles {op : Op} (accounting : op.role = .accounting) : keyless op := by
    rw [keyless, accounting]
    decide
  exact ⟨settles rfl, fun _ => ⟨settles rfl, fun _ => trivial⟩⟩

/-- After a reply has been sent there are no keys left. -/
theorem sent_keyless (a : CLN) (len : Int) : (if sendFailed len = true then do
      perform (.closeSocket a.socket)
      finish a
      return .returned
    else return .left : Handler Flow).Only keyless := by
  split
  · exact ⟨keyless_of_plain rfl, fun _ => (finish_keyless a).bind fun _ => trivial⟩
  · trivial

end

/-- `RSA` replaces the key of its connection once at most. -/
theorem talkRsa_rekeys (a : CLN) : Rekeys a (talkRsa a) := by
  refine .call (keyless_of_plain rfl) fun _ _ => .call (keyless_of_plain rfl) fun key _ => ?_
  refine .here (.inr ⟨key, _, rfl, .send rfl fun len => ?_⟩)
  exact sent_keyless a len

/-- `HBA`: its own reply first, and then the new key. -/
theorem talkHba_rekeys (a : CLN) : Rekeys a (talkHba a) := by
  refine .call (keyless_of_plain (send_plain _ rfl)) fun len _ => ?_
  dsimp only [Prog.bind]
  split
  · exact .here (.inl ⟨keyless_of_plain rfl, fun _ => (finish_keyless a).bind fun _ => trivial⟩)
  · exact talkRsa_rekeys a

/-- Opcode 1 replaces the key of its connection once at most. -/
theorem iotRsa_rekeys (a : CLN) : Rekeys a (iotRsa a) := by
  refine .call (keyless_of_plain rfl) fun _ _ => .call (keyless_of_plain rfl) fun key _ => ?_
  refine .here (.inr ⟨key, _, rfl, .other (keyless_of_plain rfl) (0 : UInt8) fun seqNum => ?_⟩)
  refine .send rfl fun len => ?_
  dsimp only [Prog.bind]
  split
  · exact ⟨keyless_of_plain rfl, fun _ => trivial⟩
  · trivial

/-- A request that replaces no key has nothing to do with keys. -/
theorem talk_keyless (config : Config) {a : CLN} (still : a.rekeying = false) :
    (talk config a).Only keyless := by
  have leads : (talk config a).Leads keyless (fun _ => True) fun rest =>
      rest = finish a ∨ (True ∧ rest = .ret ()) := by
    refine talk_leads (fun op plain => keyless_of_plain plain) config a (fun _ op session => ?_)
      (fun rekeying => ?_) (fun _ => trivial) fun _ _ _ => trivial
    · rw [keyless, session]
      decide
    · exact Bool.noConfusion (still.symm.trans rekeying)
  refine leads.only (fun _ => trivial) (fun _ allowed => allowed) fun rest reached => ?_
  obtain rfl | ⟨-, rfl⟩ := reached
  · exact finish_keyless a
  · trivial

/-- The requests that replace a key. -/
theorem talk_rekeying (config : Config) {a : CLN} (rekeying : a.rekeying = true) :
    talk config a = (iotRsa a >>= fun _ => finish a) ∨
      talk config a = (talkHba a >>= endCase a) ∨ talk config a = (talkRsa a >>= endCase a) := by
  cases asks : a.requestClass with
  | test => simp [CLN.rekeying, asks] at rekeying
  | device =>
    have code : atoi a.checkcode = 1 := by simpa [CLN.rekeying, asks] using rekeying
    rw [talk_device asks, iotTalk_rsa code]
    exact .inl rfl
  | user opcode =>
    rw [talk_user asks]
    cases opcode with
    | hba => exact .inr (.inl rfl)
    | rsa => exact .inr (.inr rfl)
    | _ => simp [CLN.rekeying, asks] at rekeying

/-- Every request replaces the key of its own connection once at most. -/
theorem talk_rekeys (config : Config) (a : CLN) : Rekeys a (talk config a) := by
  by_cases still : a.rekeying = false
  · exact .here (.inl (talk_keyless config still))
  · rcases talk_rekeying config (Bool.eq_true_of_not_eq_false still) with same | same | same
    · rw [same]
      exact (iotRsa_rekeys a).bind fun _ => finish_keyless a
    · rw [same]
      exact (talkHba_rekeys a).bind (endCase_only (finish_keyless a))
    · rw [same]
      exact (talkRsa_rekeys a).bind (endCase_only (finish_keyless a))

end UubangIot
