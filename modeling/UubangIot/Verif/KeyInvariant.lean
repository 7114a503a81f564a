import UubangIot.Verif.KeyChanges
import UubangIot.Verif.RecordInvariants
import UubangIot.Verif.RsaTotality
import UubangIot.Verif.TaskAccounting
import UubangIot.Verif.TextFacts
import UubangIot.Verif.WriterCalls

/-!
# Keys of connections over whole runs

The key of a connection is zero from its accept on, until a request stores one that `InitRSA` has
made; no other operation writes it. A request works with the key it was copied with, so whatever
requests come in whatever order, the codec is called with such a key only. `PIN` and opcode 2 are the
cases that encode, and they return at once when the key is zero.
-/

namespace UubangIot

open Effect Effect.Prog MachineInt RsaUtils Transition Transition.System

/-! ## Calls of the codec -/

/-- The codec is called with one to three bytes and a modulus of at least 128, or decodes with a zero
key. -/
def WriterCall.keyed : WriterCall → Prop
  | .encode key _ => (1 ≤ key.encryptBlockBytes ∧ key.encryptBlockBytes ≤ 3) ∧ 128 ≤ key.commonKey
  | .decode key _ _ _ =>
    (1 ≤ key.encryptBlockBytes ∧ key.encryptBlockBytes ≤ 3) ∧ 128 ≤ key.commonKey ∨
      key.encryptBlockBytes = 0 ∧ key.privateKey = 0 ∧ key.commonKey = 0
  | .print _ _ | .cut _ => True

/-- A PIN of `generateRandIntStr`. -/
def SixDigits (pin : Bytes) : Prop := pin.length = 6 ∧ ∀ c ∈ pin, 48 ≤ c ∧ c ≤ 57

/-- The codec returns: no division by zero, no overflow and no loop without end. -/
def WriterCall.returns : WriterCall → Prop
  | .encode key pin => SixDigits pin → (encodePin key pin).isSome = true
  | .decode key target source len => (decodeOver key target source len).isSome = true
  | .print _ _ | .cut _ => True

variable {key : RSAKey} {a : CLN} {pin source : Bytes}

/-- The registers of a stored key that is not zero. -/
theorem StoredKey.made (stored : StoredKey key) (nonzero : key.encryptBlockBytes ≠ 0) :
    ∃ e d n : Nat, key = ⟨e, d, n, blockBytes n⟩ ∧ 128 ≤ n ∧ n < 10 ^ 8 ∧ d < 10 ^ 8 := by
  rcases stored.registers with rfl | made
  · exact absurd rfl nonzero
  · exact made

/-- The registers of a stored key that is not zero are in range. -/
theorem StoredKey.in_range (stored : StoredKey key) (nonzero : key.encryptBlockBytes ≠ 0) :
    (1 ≤ key.encryptBlockBytes ∧ key.encryptBlockBytes ≤ 3) ∧ 128 ≤ key.commonKey := by
  obtain ⟨e, d, n, rfl, large, -, -⟩ := stored.made nonzero
  obtain ⟨positive, short⟩ := blockBytes_range n
  dsimp only
  omega

/-- A PIN is encoded with any key but the zero one. -/
theorem StoredKey.encode_returns (stored : StoredKey key) (nonzero : key.encryptBlockBytes ≠ 0)
    (digits : SixDigits pin) : (encodePin key pin).isSome = true := by
  obtain ⟨e, d, n, rfl, large, small, exponent⟩ := stored.made nonzero
  obtain ⟨positive, short⟩ := blockBytes_range n
  have fits := blockBytes_fits n large
  have bytes : (blockBytes n : Int).toNat = blockBytes n := Int.toNat_natCast _
  have characters : (pin.map fun c => c.toInt8.toInt) = (pin.map UInt8.toNat).map Int.ofNat := by
    rw [List.map_map]
    exact List.map_congr_left fun c member => digit_toInt (digits.2 c member).2
  have seven : ∀ character ∈ pin.map UInt8.toNat, character < 128 := by
    intro character member
    obtain ⟨c, present, rfl⟩ := List.mem_map.mp member
    have high := UInt8.le_iff_toNat_le.mp (digits.2 c present).2
    exact lt_of_le_of_lt high (by decide)
  have six : (pin.map UInt8.toNat).length = 6 := by
    rw [List.length_map, digits.1]
  have whole : 0 + 6 / blockBytes n * blockBytes n = (pin.map UInt8.toNat).length := by
    rw [six]
    interval_cases blockBytes n <;> rfl
  obtain ⟨blocks, encoded, -⟩ := encodeLoop_blocks (by omega) (by omega) (show d < 2 ^ 31 by omega)
    positive short fits (pin.map UInt8.toNat) seven (6 / blockBytes n) 0 7 whole (by
      have := Nat.div_le_self 6 (blockBytes n)
      omega)
  rw [six, ← characters] at encoded
  rw [encodePin, Option.isSome_map]
  change (encodeMessage 6 (blockBytes n : Int).toNat _ d n).isSome = true
  rw [bytes, encodeMessage, encoded]
  rfl

/-- A field is decoded with any stored key. -/
theorem StoredKey.decode_good (stored : StoredKey key) (target source : Bytes) {len : Nat}
    (blocks : len ≤ 100) : (WriterCall.decode key target source len).keyed ∧
      (WriterCall.decode key target source len).returns := by
  constructor
  · by_cases zero : key.encryptBlockBytes = 0
    · rcases stored.registers with rfl | ⟨e, d, n, rfl, -⟩
      · exact .inr ⟨rfl, rfl, rfl⟩
      · have positive := (blockBytes_range n).1
        dsimp only at zero
        omega
    · exact .inl (stored.in_range zero)
  · obtain ⟨characters, decoded, -⟩ := stored.decodeMessage_defined source blocks
    rw [WriterCall.returns, decodeOver, Option.isSome_map]
    exact Option.isSome_of_mem decoded

/-- Every call of a request that has a stored key. -/
theorem StoredKey.calls_good (stored : StoredKey a.key) {call : WriterCall} (calls : a.Calls call) :
    call.keyed ∧ call.returns := by
  cases calls with
  | pin _ keyed pin =>
    exact ⟨stored.in_range keyed, fun digits => stored.encode_returns keyed digits⟩
  | password | renewal | secret => exact stored.decode_good _ _ (by omega)
  | scene | schedule | id => exact ⟨trivial, trivial⟩

/-! ## Over whole runs -/

/-- `InitRSA` answers with a key it has made. -/
def made : Happening → Prop
  | ⟨.initRSA, key⟩ =>
    ∃ rand rounds start next, RsaUtils.initRSA rand rounds start = some ((show RSAKey from key), next)
  | _ => True

/-- Only stored keys are written. -/
def keySafe (op : Op) : Prop := ∀ conn key, op = .setConnKey conn key → StoredKey key

/-- No key is written. -/
def storesNone (op : Op) : Prop := ∀ conn key, op ≠ .setConnKey conn key

/-- What writes no key writes only stored ones. -/
theorem storesNone.safe {op : Op} (still : storesNone op) : keySafe op := by
  intro conn key same
  exact absurd same (still conn key)

/-- What has nothing to do with keys writes none. -/
theorem storesNone_of_keyless {op : Op} (still : keyless op) : storesNone op := by
  rintro conn key rfl
  exact absurd rfl still

/-- What is left of a request stores a key it was answered, and after that none. -/
def KeepsStored {α : Type} (program : Handler α) : Prop :=
  program.Leads keySafe made fun rest => rest.Only storesNone

section
variable {α β : Type}

/-- A program keeps the stored key when what follows has nothing to do with keys. -/
theorem KeepsStored.bind {program : Handler α} {f : α → Handler β} (keeps : KeepsStored program)
    (after : ∀ value, (f value).Only keyless) : KeepsStored (program >>= f) :=
  Leads.bind keeps fun _ still => .here (still.bind fun value =>
    (after value).mono fun _ => storesNone_of_keyless)

/-- Two keys are drawn and the second is stored. -/
theorem drawKey_keeps (conn : Nat) {next : RSAKey → Handler α}
    (after : ∀ key, (next key).Only storesNone) : KeepsStored (do
      let _ ← perform .initRSA
      let key ← perform .initRSA
      perform (.setConnKey conn key)
      next key) := by
  have draw : keySafe .initRSA := fun _ _ same => Op.noConfusion same
  refine .call draw fun _ _ => .call draw fun key answered => ?_
  refine .call ?_ fun _ _ => .here (after key)
  rintro _ _ ⟨rfl, rfl⟩
  exact .inr answered

end

/-- `RSA` stores the key that it was answered, and no other. -/
theorem talkRsa_keeps (a : CLN) : KeepsStored (talkRsa a) := by
  refine drawKey_keeps a.conn fun key => ⟨fun _ _ same => Op.noConfusion same, fun len => ?_⟩
  exact (sent_keyless a len).mono fun _ => storesNone_of_keyless

/-- `HBA` stores no key. -/
theorem talkHba_keeps (a : CLN) : KeepsStored (talkHba a) := by
  refine .call (fun _ _ same => Op.noConfusion same) fun len _ => ?_
  dsimp only [Prog.bind]
  split
  · have ends : (finish a).Only storesNone :=
      (finish_keyless a).mono fun _ => storesNone_of_keyless
    exact .here ⟨fun _ _ same => Op.noConfusion same, fun _ => ends.bind fun _ => trivial⟩
  · exact talkRsa_keeps a

/-- Opcode 1 stores the key that it was answered, and no other. -/
theorem iotRsa_keeps (a : CLN) : KeepsStored (iotRsa a) := by
  refine drawKey_keeps a.conn fun key => ⟨fun _ _ same => Op.noConfusion same, fun seqNum => ?_⟩
  refine ⟨fun _ _ same => Op.noConfusion same, fun len => ?_⟩
  dsimp only [Prog.bind]
  split
  · exact ⟨fun _ _ same => Op.noConfusion same, fun _ => trivial⟩
  · trivial

/-- Every request stores a key that it was answered, or none. -/
theorem talk_keeps (config : Config) (a : CLN) : KeepsStored (talk config a) := by
  by_cases still : a.rekeying = false
  · exact .here ((talk_keyless config still).mono fun _ => storesNone_of_keyless)
  · rcases talk_rekeying config (Bool.eq_true_of_not_eq_false still) with same | same | same
    · rw [same]
      exact (iotRsa_keeps a).bind fun _ => finish_keyless a
    · rw [same]
      exact (talkHba_keeps a).bind (endCase_only (finish_keyless a))
    · rw [same]
      exact (talkRsa_keeps a).bind (endCase_only (finish_keyless a))

/-- A packet leaves the key of its connection as it is, and the request has it. -/
theorem snapshot_key (handle : Nat) (record : CLN) (packet : Bytes) :
    (snapshot handle record packet).1.key = record.key ∧
      (snapshot handle record packet).2.key = record.key := by
  unfold snapshot
  split <;> exact ⟨rfl, rfl⟩

/-- A request has the key of its connection. -/
theorem Copied.same_key {handle : Nat} {record request : CLN} {packet : Bytes}
    (copied : Copied handle record packet request) : request.key = record.key := by
  obtain ⟨info1, rfl⟩ := copied
  exact (snapshot_key handle record packet).1

/-- The server keeps stored keys in its records and its requests. -/
theorem key_discipline (config : Config) : Discipline config (fun record => StoredKey record.key)
    (fun request program => StoredKey request.key ∧ KeepsStored program) (fun _ => True) made where
  fresh _ := .inl rfl
  flags _ _ stored := stored
  stored {handle record packet} _ stored := by
    rw [(snapshot_key handle record packet).2]
    exact stored
  starts {_ _ request _} _ stored copied _ := by
    rw [copied.same_key]
    exact ⟨stored, talk_keeps config request⟩
  goes {_ _ _ _} kept heard := by
    obtain ⟨stored, keeps⟩ := kept
    refine ⟨stored, ?_⟩
    cases keeps with
    | here still => exact .here (still.2 _)
    | call _ later => exact later _ heard
  writes {request record op next conn change} kept written stored := by
    have safe : keySafe op := by
      cases kept.2 with
      | here still => exact still.1.safe
      | call safe _ => exact safe
    cases op <;> simp only [Op.writes, Option.some.injEq, Prod.mk.injEq, reduceCtorEq] at written
    case setConnKey _ key =>
      obtain ⟨-, rfl⟩ := written
      exact safe _ key rfl
    all_goals
      obtain ⟨-, rfl⟩ := written
      exact stored

/-- An answer that is a key is one `InitRSA` has made. -/
def Turn.keyMade : Turn → Prop
  | .step _ (.key key) => ∃ rand rounds start next, initRSA rand rounds start = some (key, next)
  | _ => True

/-- Such an answer is what the drawing of a key hears. -/
theorem Turn.keyMade.heeds {turn : Turn} (answered : turn.keyMade) (server : ServerState) :
    Heeds (fun _ => True) made server turn := by
  cases turn with
  | event event =>
    cases event with
    | receive conn packet allocated => exact fun _ _ _ _ => trivial
    | _ => trivial
  | leave index => trivial
  | step index answer =>
    intro task op next response _ _ read
    cases op
    case initRSA =>
      cases answer <;> simp only [Op.read, reduceCtorEq] at read
      cases read
      exact answered
    all_goals trivial

/-- In every run the keys of connections are zero or made by `InitRSA`, and every call of the codec
by a request, whatever its operations are answered, is made with such a key and returns. -/
theorem codec_called_with_stored_keys (config : Config) (turns : List Turn) (server : ServerState)
    (answered : ∀ turn ∈ turns, turn.keyMade)
    (reached : (interleaved config).run .initial turns = some server) :
    (∀ conn record, server.memory.conns conn = some record → StoredKey record.key) ∧
      ∀ task ∈ server.tasks, StoredKey task.request.key ∧
        MakesOnly (fun call => call.keyed ∧ call.returns)
          fun writers => @talk writers config task.request := by
  have heeds : (interleaved config).Meets (Heeds (fun _ => True) made) .initial turns :=
    meets_of_labels (fun turn member => (answered turn member).heeds) .initial
  have orderly := Orderly.run (key_discipline config) heeds reached
  refine ⟨orderly.records, fun task running => ?_⟩
  have stored := (orderly.tasks task running).1
  exact ⟨stored, (talk_calls config task.request).mono fun _ calls => stored.calls_good calls⟩

/-- A connection is greeted, gets a key of the primes 13 and 17 and asks for a PIN. -/
def keyedRun : List Turn :=
  greeting ++ [.event (.receive 0 (text "RSA") true), .step 1 (.key ⟨17, 113, 221, 1⟩),
    .step 1 (.key ⟨17, 113, 221, 1⟩), .step 1 .unit, .event (.receive 0 (text "PIN") true)]

/-- The request for the PIN has the key that was stored. -/
theorem codec_called_with_stored_keys_greeted : ∃ server,
    (interleaved bareConfig).run .initial keyedRun = some server ∧
      (server.tasks[2]?.map fun task => task.request.key) = some ⟨17, 113, 221, 1⟩ ∧
      (∀ conn record, server.memory.conns conn = some record → StoredKey record.key) ∧
      ∀ task ∈ server.tasks, StoredKey task.request.key ∧
        MakesOnly (fun call => call.keyed ∧ call.returns)
          fun writers => @talk writers bareConfig task.request := by
  have drawn : ∃ rand rounds start next,
      initRSA rand rounds start = some (⟨17, 113, 221, 1⟩, next) :=
    ⟨fun draw => if draw < 11 then 13 else 17, 1, 0, 23, by decide +kernel⟩
  have answered : ∀ turn ∈ keyedRun, turn.keyMade := by
    simp only [keyedRun, greeting, List.cons_append, List.nil_append, List.forall_mem_cons]
    exact ⟨trivial, trivial, trivial, drawn, drawn, trivial, trivial,
      fun _ member => absurd member List.not_mem_nil⟩
  refine ⟨_, rfl, rfl, ?_⟩
  exact codec_called_with_stored_keys bareConfig keyedRun _ answered rfl

end UubangIot
