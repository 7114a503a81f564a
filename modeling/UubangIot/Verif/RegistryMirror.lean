import UubangIot.Lib.Semantics
import UubangIot.Server.Registry
import UubangIot.Verif.TextFacts

/-!
# The registered lists against the tables

The tables `user` and `iotnode` grow at their end with increasing ids. A reload selects the rows
above the key of the list's first node, so it is complete when the list holds the rows below
that key, newest first. Two things break this: a row whose id length routes it to the other
list, and a device list that is still empty, which a reload skips.
-/

namespace UubangIot

open Effect

/-- The lists, the two tables in id order, the ids they give out next, and the rows of the last
query. -/
structure Mirror where
  /-- The registered lists. -/
  lists : Lists
  /-- Table `user`. -/
  users : List Row
  /-- Table `iotnode`. -/
  iots : List Row
  /-- The next id of `user`. -/
  nextUser : Nat
  /-- The next id of `iotnode`. -/
  nextIot : Nat
  /-- The result of the last query. -/
  result : List Row

/-- The id of a row. -/
def rowId (row : Row) : Int := atoi (column row 0)

/-- The table of a kind. -/
def Mirror.table (mirror : Mirror) : Kind → List Row
  | .user => mirror.users
  | .iot => mirror.iots

/-- The next id of a kind. -/
def Mirror.next (mirror : Mirror) : Kind → Nat
  | .user => mirror.nextUser
  | .iot => mirror.nextIot

/-- A statement that succeeds. -/
def Mirror.execute (mirror : Mirror) (date : Bytes) : Statement → Mirror
  | .insertUser userId nickName passWord email =>
    { mirror with
      users := mirror.users ++
        [[decimal mirror.nextUser, userId, nickName, passWord, email, date]]
      nextUser := mirror.nextUser + 1 }
  | .insertIotNode pinCode deviceClass openId =>
    { mirror with
      iots := mirror.iots ++
        [[decimal mirror.nextIot, pinCode, decimal deviceClass, openId, date]]
      nextIot := mirror.nextIot + 1 }
  | .selectUsersAbove id => { mirror with result := mirror.users.filter (id < rowId ·) }
  | .selectIotNodesAbove id => { mirror with result := mirror.iots.filter (id < rowId ·) }
  | _ => mirror

/-- One happening when every database call succeeds: the lists answer for themselves, a query
returns its rows. -/
def Mirror.after (date : Bytes) (mirror : Mirror) : Happening → Option Mirror
  | ⟨.checkIdPwd n userId userPassword, answer⟩ =>
    if (show Int from answer) = mirror.lists.checkIdPwd n userId userPassword then some mirror
    else none
  | ⟨.registedHead kind, top⟩ =>
    if (show Option User from top) = (mirror.lists.head kind).nodes.head? then some mirror
    else none
  | ⟨.addtoLocal entry, answer⟩ =>
    if (show Int from answer) = 1 then some { mirror with lists := mirror.lists.addtoLocal entry }
    else none
  | ⟨.getDbConnect, node⟩ => if (show Option Nat from node).isSome then some mirror else none
  | ⟨.realQuery _ statement, answer⟩ =>
    if (show QueryResult from answer) = .done then some (mirror.execute date statement) else none
  | ⟨.storeResult _, rows⟩ =>
    if (show Option (List Row) from rows) = some mirror.result then some mirror else none
  | _ => some mirror

/-- The reading of the operations over lists and tables. -/
def mirrorOps (date : Bytes) : Transition.System Mirror Happening := ⟨Mirror.after date⟩

/-- A registration, a reload, or ids given out without a row. -/
inductive RegistryCall
  | register (a : CLN) (method : Int) (date : Bytes) (answers : List Answer)
  | update (answers : List Answer)
  | skipIds (kind : Kind) (count : Nat)

/-- Runs of calls, each as one step. -/
def mirrorSystem : Transition.System Mirror RegistryCall where
  step
    | mirror, .register a method date answers => do
      let (trace, _) ← answering (register a method) answers
      (mirrorOps date).run mirror trace
    | mirror, .update answers => do
      let (trace, _) ← answering updateLocalRegUserAndIotlist answers
      (mirrorOps []).run mirror trace
    | mirror, .skipIds .user count => some { mirror with nextUser := mirror.nextUser + count }
    | mirror, .skipIds .iot count => some { mirror with nextIot := mirror.nextIot + count }

/-- A list holds exactly the rows of a table, newest first. -/
structure Holds (nodes : List User) (rows : List Row) : Prop where
  keys : nodes.map User.userKeyId = (rows.map rowId).reverse
  ids : nodes.map User.userId = (rows.map fun row => cstr (column row 1)).reverse

/-- The lists mirror the tables: one node for each row, with its key, strictly decreasing. -/
structure Mirrors (mirror : Mirror) : Prop where
  holds : ∀ kind, Holds (mirror.lists.head kind).nodes (mirror.table kind)
  decreasing : ∀ kind,
    ((mirror.lists.head kind).nodes.map User.userKeyId).Pairwise (fun first later => later < first)

/-- A table in id order below the next id, with ids that belong to its list. -/
structure Ordered (kind : Kind) (rows : List Row) (next : Nat) : Prop where
  increasing : (rows.map rowId).Pairwise (· < ·)
  below : ∀ row ∈ rows, rowId row < next
  routed : ∀ row ∈ rows, kindOf (column row 1) = kind

/-- The server's state behind the mirror. -/
structure Loaded (mirror : Mirror) : Prop where
  ordered : ∀ kind, Ordered kind (mirror.table kind) (mirror.next kind)
  holds : ∀ kind, Holds (mirror.lists.head kind).nodes (mirror.table kind)
  someUser : mirror.users ≠ []

/-- Unless the id is refused, a user's id is long, a device's is short and no device is the
first. -/
def Routed (mirror : Mirror) : RegistryCall → Prop
  | .register a method _ _ =>
    mirror.lists.checkIdPwd 1 a.userId a.userPassword = 1 ∨
      (method = 1 ∧ strlen a.userId < 11 ∧ mirror.iots ≠ []) ∨
      (method ≠ 1 ∧ 11 ≤ strlen a.userId)
  | _ => True

/-- Loaded lists mirror their tables. -/
theorem Loaded.mirrors {mirror : Mirror} (loaded : Loaded mirror) : Mirrors mirror where
  holds := loaded.holds
  decreasing kind := by
    rw [(loaded.holds kind).keys, List.pairwise_reverse]
    exact (loaded.ordered kind).increasing

/-- The rows of a table above the key of a list that holds the older ones are the newer ones. -/
theorem select_newer {kind : Kind} {nodes : List User} {older newer : List Row} {next : Nat}
    (ordered : Ordered kind (older ++ newer) next) (holds : Holds nodes older) {top : User}
    (head : nodes.head? = some top) :
    (older ++ newer).filter (top.userKeyId < rowId ·) = newer := by
  have topKey : (older.map rowId).getLast? = some top.userKeyId := by
    rw [← List.head?_reverse, ← holds.keys, List.head?_map, head]
    rfl
  obtain ⟨olderIds, -, across⟩ := List.pairwise_append.mp
    (by rw [← List.map_append]; exact ordered.increasing :
      (older.map rowId ++ newer.map rowId).Pairwise (· < ·))
  have topMember : top.userKeyId ∈ older.map rowId := List.mem_of_getLast? topKey
  have above : ∀ row ∈ newer, top.userKeyId < rowId row := fun row member =>
    across _ topMember _ (List.mem_map_of_mem member)
  have atMost : ∀ row ∈ older, ¬top.userKeyId < rowId row := by
    intro row member
    obtain ⟨front, split⟩ := List.getLast?_eq_some_iff.mp topKey
    have present : rowId row ∈ front ++ [top.userKeyId] := split ▸ List.mem_map_of_mem member
    rw [split] at olderIds
    rcases List.mem_append.mp present with before | last
    · exact not_lt.mpr
        ((List.pairwise_append.mp olderIds).2.2 _ before _ (List.mem_singleton.mpr rfl)).le
    · rw [List.mem_singleton.mp last]
      exact lt_irrefl _
  rw [List.filter_append, List.filter_eq_nil_iff.mpr fun row member => by
    simpa using atMost row member, List.filter_eq_self.mpr fun row member => by
    simpa using above row member, List.nil_append]

/-- An entry that takes its id and key from the row's own columns. -/
def FromRow (entry : Row → Entry) : Prop :=
  ∀ row, (entry row).userId = column row 1 ∧ (entry row).userKeyId = rowId row

/-- Adding the newer rows of one kind completes its list and leaves the other alone. -/
theorem load_rows {kind : Kind} {entry : Row → Entry} (faithful : FromRow entry)
    (rows : List Row) (routed : ∀ row ∈ rows, kindOf (column row 1) = kind) (lists : Lists)
    (older : List Row) (holds : Holds (lists.head kind).nodes older) :
    let loaded := rows.foldl (fun lists row => lists.addtoLocal (entry row)) lists
    Holds (loaded.head kind).nodes (older ++ rows) ∧
      ∀ other, other ≠ kind → loaded.head other = lists.head other := by
  induction rows generalizing lists older with
  | nil =>
    rw [List.append_nil]
    exact ⟨holds, fun _ _ => rfl⟩
  | cons row rows ih =>
    obtain ⟨name, key⟩ := faithful row
    have here : kindOf (entry row).userId = kind := by
      rw [name]
      exact routed row List.mem_cons_self
    have pushed : (lists.addtoLocal (entry row)).head kind =
        (lists.head kind).push (entry row).node := by
      rw [Lists.addtoLocal, here]
      cases kind <;> rfl
    have kept : ∀ other, other ≠ kind →
        (lists.addtoLocal (entry row)).head other = lists.head other := by
      intro other distinct
      rw [Lists.addtoLocal, here]
      cases kind <;> cases other <;> first | rfl | exact absurd rfl distinct
    have longer : Holds ((lists.addtoLocal (entry row)).head kind).nodes (older ++ [row]) := by
      rw [pushed]
      constructor
      · rw [List.map_append, List.reverse_append, ← holds.keys]
        simp [ListHead.push, Entry.node, key]
      · rw [List.map_append, List.reverse_append, ← holds.ids]
        simp [ListHead.push, Entry.node, name]
    obtain ⟨complete, others⟩ := ih (fun later member =>
      routed later (List.mem_cons_of_mem _ member)) _ _ longer
    rw [List.append_assoc] at complete
    exact ⟨complete, fun other distinct => (others other distinct).trans (kept other distinct)⟩

/-- The row loop adds every row. -/
theorem addRows_reaches {date : Bytes} {entry : Row → Entry} {rows : List Row}
    {mirror final : Mirror}
    (reached : (addRows entry rows).Reaches (mirrorOps date) mirror () final) :
    final = { mirror with
      lists := rows.foldl (fun lists row => lists.addtoLocal (entry row)) mirror.lists } := by
  induction rows generalizing mirror with
  | nil => exact ((Prog.reaches_ret _ _).mp reached).2
  | cons row rows ih =>
    obtain ⟨answer, middle, stepped, later⟩ := (Prog.reaches_call _ _ _).mp reached
    obtain ⟨-, added⟩ := Option.ite_none_right_eq_some.mp stepped
    obtain rfl := Option.some.inj added
    exact ih later

/-- A query of newer rows adds them and goes on. -/
theorem fetchRows_reaches {date : Bytes} {node : Nat} {statement : Statement}
    {entry : Row → Entry} {next : Handler Int} {mirror final : Mirror} {result : Int}
    {rows : List Row} (selects : mirror.execute date statement = { mirror with result := rows })
    (reached : (fetchRows node statement entry next).Reaches (mirrorOps date) mirror result
      final) :
    next.Reaches (mirrorOps date) { mirror with
      result := rows
      lists := rows.foldl (fun lists row => lists.addtoLocal (entry row)) mirror.lists }
      result final := by
  obtain ⟨answer, middle, queried, reached⟩ := (Prog.reaches_call _ _ _).mp reached
  obtain ⟨done, selected⟩ := Option.ite_none_right_eq_some.mp queried
  rw [selects] at selected
  obtain rfl := Option.some.inj selected
  cases answer with
  | failed duplicate => cases done
  | done =>
    obtain ⟨stored, middle, fetched, reached⟩ := (Prog.reaches_call _ _ _).mp reached
    obtain ⟨complete, same⟩ := Option.ite_none_right_eq_some.mp fetched
    obtain rfl := Option.some.inj same
    cases stored with
    | none => cases complete
    | some stored =>
      obtain rfl : stored = rows := Option.some.inj complete
      obtain ⟨value, middle, added, reached⟩ :=
        (Prog.reaches_bind (addRows entry stored) (fun _ => next) _).mp reached
      rw [addRows_reaches added] at reached
      exact reached

/-- One list of a state in which a reload is due: it holds the older rows of its table, and it
is not empty unless the table is. -/
def Behind (mirror : Mirror) (kind : Kind) : Prop :=
  ∃ older newer, mirror.table kind = older ++ newer ∧
    Holds (mirror.lists.head kind).nodes older ∧ (older = [] → newer = [])

/-- A list that is behind and empty belongs to an empty table. -/
theorem Behind.empty {mirror : Mirror} {kind : Kind} (behind : Behind mirror kind)
    (empty : (mirror.lists.head kind).nodes.head? = none) :
    Holds (mirror.lists.head kind).nodes (mirror.table kind) := by
  obtain ⟨older, newer, table, holds, complete⟩ := behind
  have noKeys := holds.keys
  rw [List.head?_eq_none_iff.mp empty] at noKeys
  have noRows : older = [] := by simpa using noKeys.symm
  rw [table, complete noRows, List.append_nil]
  exact holds

/-- Adding the rows above the first key completes a list that is behind. -/
theorem Behind.load {mirror : Mirror} {kind : Kind} (behind : Behind mirror kind)
    (ordered : Ordered kind (mirror.table kind) (mirror.next kind)) {top : User}
    (head : (mirror.lists.head kind).nodes.head? = some top) (entry : Row → Entry)
    (faithful : FromRow entry) :
    let rows := (mirror.table kind).filter (top.userKeyId < rowId ·)
    let loaded := rows.foldl (fun lists row => lists.addtoLocal (entry row)) mirror.lists
    Holds (loaded.head kind).nodes (mirror.table kind) ∧
      ∀ other, other ≠ kind → loaded.head other = mirror.lists.head other := by
  obtain ⟨older, newer, table, holds, -⟩ := behind
  rw [table] at ordered ⊢
  rw [select_newer ordered holds head]
  exact load_rows faithful newer
    (fun row member => ordered.routed row (List.mem_append_right _ member)) _ older holds

/-- The device part of a reload completes the device list and changes nothing else. -/
theorem updateLocalIotlist_reaches {date : Bytes} {node : Nat} {mirror final : Mirror}
    {result : Int} (behind : Behind mirror .iot)
    (ordered : Ordered .iot mirror.iots mirror.nextIot)
    (reached : (updateLocalIotlist node).Reaches (mirrorOps date) mirror result final) :
    Holds (final.lists.head .iot).nodes mirror.iots ∧
      final = { mirror with lists := final.lists, result := final.result } ∧
      final.lists.head .user = mirror.lists.head .user := by
  obtain ⟨first, middle, read, reached⟩ := (Prog.reaches_call _ _ _).mp reached
  obtain ⟨empty, same⟩ := Option.ite_none_right_eq_some.mp read
  obtain rfl := Option.some.inj same
  cases first with
  | none =>
    obtain ⟨-, unchanged⟩ := (Prog.reaches_ret _ _).mp reached
    rw [unchanged]
    exact ⟨behind.empty empty.symm, rfl, rfl⟩
  | some first =>
    obtain ⟨_, middle, locked, reached⟩ := (Prog.reaches_call _ _ _).mp reached
    obtain rfl := Option.some.inj locked
    obtain ⟨top, middle, read, reached⟩ := (Prog.reaches_call _ _ _).mp reached
    obtain ⟨head, same⟩ := Option.ite_none_right_eq_some.mp read
    obtain rfl := Option.some.inj same
    cases top with
    | none =>
      obtain ⟨response, _⟩ := (Prog.reaches_call _ _ _).mp reached
      exact response.elim
    | some top =>
      obtain ⟨complete, others⟩ := behind.load ordered head.symm iotEntry
        fun row => ⟨rfl, rfl⟩
      obtain ⟨_, middle, unlocked, reached⟩ :=
        (Prog.reaches_call _ _ _).mp (fetchRows_reaches rfl reached)
      obtain rfl := Option.some.inj unlocked
      obtain ⟨_, middle, released, reached⟩ := (Prog.reaches_call _ _ _).mp reached
      obtain rfl := Option.some.inj released
      obtain ⟨-, unchanged⟩ := (Prog.reaches_ret _ _).mp reached
      rw [unchanged]
      exact ⟨complete, rfl, others .user (by decide)⟩

/-- A reload completes both lists and changes nothing else. -/
theorem updateLocal_reaches {date : Bytes} {mirror final : Mirror} {result : Int}
    (ordered : ∀ kind, Ordered kind (mirror.table kind) (mirror.next kind))
    (behind : ∀ kind, Behind mirror kind) (someUser : mirror.users ≠ [])
    (reached : updateLocalRegUserAndIotlist.Reaches (mirrorOps date) mirror result final) :
    Loaded final := by
  obtain ⟨_, middle, locked, reached⟩ := (Prog.reaches_call _ _ _).mp reached
  obtain rfl := Option.some.inj locked
  obtain ⟨checkcode, middle, garbage, reached⟩ := (Prog.reaches_call _ _ _).mp reached
  obtain rfl := Option.some.inj garbage
  obtain ⟨top, middle, read, reached⟩ := (Prog.reaches_call _ _ _).mp reached
  obtain ⟨head, same⟩ := Option.ite_none_right_eq_some.mp read
  obtain rfl := Option.some.inj same
  cases top with
  | none =>
    obtain ⟨response, _⟩ := (Prog.reaches_call _ _ _).mp reached
    exact response.elim
  | some top =>
    obtain ⟨node, middle, got, reached⟩ := (Prog.reaches_call _ _ _).mp reached
    obtain ⟨free, same⟩ := Option.ite_none_right_eq_some.mp got
    obtain rfl := Option.some.inj same
    cases node with
    | none => cases free
    | some node =>
      obtain ⟨complete, others⟩ := (behind .user).load (ordered .user) head.symm
        (userEntry checkcode) fun row => ⟨rfl, rfl⟩
      obtain ⟨_, middle, unlocked, reached⟩ :=
        (Prog.reaches_call _ _ _).mp (fetchRows_reaches rfl reached)
      obtain rfl := Option.some.inj unlocked
      obtain ⟨_, middle, released, reached⟩ := (Prog.reaches_call _ _ _).mp reached
      obtain rfl := Option.some.inj released
      have devices : Behind { mirror with
          result := mirror.users.filter (top.userKeyId < rowId ·)
          lists := (mirror.users.filter (top.userKeyId < rowId ·)).foldl
            (fun lists row => lists.addtoLocal (userEntry checkcode row)) mirror.lists } .iot := by
        obtain ⟨older, newer, table, holds, empty⟩ := behind .iot
        exact ⟨older, newer, table, (others .iot (by decide)) ▸ holds, empty⟩
      obtain ⟨iots, unchanged, users⟩ :=
        updateLocalIotlist_reaches devices (ordered .iot) reached
      rw [unchanged]
      refine ⟨?_, ?_, someUser⟩
      · intro kind
        cases kind
        · exact ordered .user
        · exact ordered .iot
      · intro kind
        cases kind
        · change Holds (final.lists.head .user).nodes mirror.users
          rw [users]
          exact complete
        · exact iots

/-- A row with the next id keeps a table in order. -/
theorem Ordered.append {kind : Kind} {rows : List Row} {next : Nat}
    (ordered : Ordered kind rows next) {row : Row} (id : column row 0 = decimal next)
    (routed : kindOf (column row 1) = kind) : Ordered kind (rows ++ [row]) (next + 1) := by
  have rowKey : rowId row = next := by rw [rowId, id, atoi_decimal]
  constructor
  · rw [List.map_append, List.pairwise_append]
    refine ⟨ordered.increasing, List.pairwise_singleton _ _, ?_⟩
    intro first before last member
    obtain ⟨old, present, rfl⟩ := List.mem_map.mp before
    rw [List.mem_singleton.mp member, rowKey]
    exact ordered.below old present
  · intro other member
    rcases List.mem_append.mp member with old | new
    · have := ordered.below other old
      push_cast
      omega
    · rw [List.mem_singleton.mp new, rowKey]
      push_cast
      omega
  · intro other member
    rcases List.mem_append.mp member with old | new
    · exact ordered.routed other old
    · rw [List.mem_singleton.mp new]
      exact routed

/-- The insertion of a registration when every database call succeeds. -/
theorem registerRow_reaches {date : Bytes} {a : CLN} {method : Int} {mirror final : Mirror}
    {result : Int}
    (reached : (registerRow a method).Reaches (mirrorOps date) mirror result final) :
    result = 1 ∧ final = mirror.execute date (if method = 1 then
        .insertIotNode (cstr a.userId) a.info3 (cstr a.userPassword)
      else .insertUser (cstr a.userId) (cstr a.info) (cstr a.userPassword) (cstr a.data)) := by
  by_cases device : method = 1
  · rw [registerRow, if_pos device] at reached
    rw [if_pos device]
    obtain ⟨node, middle, got, reached⟩ := (Prog.reaches_call _ _ _).mp reached
    obtain ⟨free, same⟩ := Option.ite_none_right_eq_some.mp got
    obtain rfl := Option.some.inj same
    cases node with
    | none => cases free
    | some node =>
      obtain ⟨answer, middle, queried, reached⟩ := (Prog.reaches_call _ _ _).mp reached
      obtain ⟨done, inserted⟩ := Option.ite_none_right_eq_some.mp queried
      obtain rfl := Option.some.inj inserted
      cases answer with
      | failed duplicate => cases done
      | done =>
        obtain ⟨_, middle, released, reached⟩ := (Prog.reaches_call _ _ _).mp reached
        obtain rfl := Option.some.inj released
        exact (Prog.reaches_ret _ _).mp reached
  · rw [registerRow, if_neg device] at reached
    rw [if_neg device]
    obtain ⟨node, middle, got, reached⟩ := (Prog.reaches_call _ _ _).mp reached
    obtain ⟨free, same⟩ := Option.ite_none_right_eq_some.mp got
    obtain rfl := Option.some.inj same
    cases node with
    | none => cases free
    | some node =>
      obtain ⟨answer, middle, queried, reached⟩ := (Prog.reaches_call _ _ _).mp reached
      obtain ⟨done, inserted⟩ := Option.ite_none_right_eq_some.mp queried
      obtain rfl := Option.some.inj inserted
      cases answer with
      | failed duplicate => cases done
      | done =>
        obtain ⟨answer, middle, queried, reached⟩ := (Prog.reaches_call _ _ _).mp reached
        obtain ⟨done, inserted⟩ := Option.ite_none_right_eq_some.mp queried
        obtain rfl := Option.some.inj inserted
        cases answer with
        | failed duplicate => cases done
        | done => exact (Prog.reaches_ret _ _).mp reached

/-- A routed registration keeps the lists loaded. -/
theorem register_reaches {date : Bytes} {a : CLN} {method : Int} {mirror final : Mirror}
    {answers : List Answer} {result : Int} (loaded : Loaded mirror)
    (routed : Routed mirror (.register a method date answers))
    (reached : (register a method).Reaches (mirrorOps date) mirror result final) :
    Loaded final := by
  rw [register_eq] at reached
  obtain ⟨(known : Int), middle, checked, reached⟩ := (Prog.reaches_call _ _ _).mp reached
  obtain ⟨answer, same⟩ := Option.ite_none_right_eq_some.mp checked
  obtain rfl := Option.some.inj same
  replace answer : known = mirror.lists.checkIdPwd 1 a.userId a.userPassword := answer
  by_cases registered : known = 1
  · rw [if_pos registered] at reached
    obtain ⟨-, rfl⟩ := (Prog.reaches_ret _ _).mp reached
    exact loaded
  rw [if_neg registered] at reached
  obtain ⟨inserted, middle, inserting, reached⟩ := (Prog.reaches_bind _ _ _).mp reached
  obtain ⟨rfl, rfl⟩ := registerRow_reaches inserting
  rw [if_neg (by decide)] at reached
  obtain ⟨value, middle, reloading, reached⟩ := (Prog.reaches_bind _ _ _).mp reached
  obtain ⟨-, rfl⟩ := (Prog.reaches_ret _ _).mp reached
  have users := loaded.ordered .user
  have iots := loaded.ordered .iot
  rcases routed with refused | ⟨rfl, short, someDevice⟩ | ⟨notDevice, long⟩
  · exact absurd (answer.trans refused) registered
  · rw [if_pos rfl] at reloading
    have device : kindOf (cstr a.userId) = .iot := by rw [kindOf_cstr, kindOf, if_pos short]
    refine updateLocal_reaches ?_ ?_ ?_ reloading
    · intro kind
      cases kind
      · exact users
      · exact iots.append rfl device
    · intro kind
      cases kind
      · exact ⟨_, [], (List.append_nil _).symm, loaded.holds .user, fun _ => rfl⟩
      · exact ⟨_, _, rfl, loaded.holds .iot, fun empty => absurd empty someDevice⟩
    · exact loaded.someUser
  · rw [if_neg notDevice] at reloading
    have user : kindOf (cstr a.userId) = .user := by rw [kindOf_cstr, kindOf, if_neg (by omega)]
    refine updateLocal_reaches ?_ ?_ ?_ reloading
    · intro kind
      cases kind
      · exact users.append rfl user
      · exact iots
    · intro kind
      cases kind
      · exact ⟨_, _, rfl, loaded.holds .user, fun empty => absurd empty loaded.someUser⟩
      · exact ⟨_, [], (List.append_nil _).symm, loaded.holds .iot, fun _ => rfl⟩
    · exact List.append_ne_nil_of_left_ne_nil loaded.someUser _

/-- A call that is routed keeps the lists loaded. -/
theorem Loaded.step (mirror : Mirror) (call : RegistryCall) (next : Mirror)
    (routed : Routed mirror call) (loaded : Loaded mirror)
    (stepped : mirrorSystem.step mirror call = some next) : Loaded next := by
  cases call with
  | register a method date answers =>
    obtain ⟨⟨trace, result⟩, answered, run⟩ := Option.bind_eq_some_iff.mp stepped
    exact register_reaches loaded routed ⟨trace, answering_path _ _ answered, run⟩
  | update answers =>
    obtain ⟨⟨trace, result⟩, answered, run⟩ := Option.bind_eq_some_iff.mp stepped
    refine updateLocal_reaches loaded.ordered (fun kind => ?_) loaded.someUser
      ⟨trace, answering_path _ _ answered, run⟩
    exact ⟨_, [], (List.append_nil _).symm, loaded.holds kind, fun _ => rfl⟩
  | skipIds kind count =>
    cases kind with
    | user =>
      obtain rfl := Option.some.inj stepped
      refine ⟨fun kind => ?_, loaded.holds, loaded.someUser⟩
      have before := loaded.ordered kind
      cases kind
      · refine ⟨before.increasing, fun row member => ?_, before.routed⟩
        have bound := before.below row member
        change rowId row < ((mirror.nextUser + count : Nat) : Int)
        change rowId row < (mirror.nextUser : Int) at bound
        omega
      · exact before
    | iot =>
      obtain rfl := Option.some.inj stepped
      refine ⟨fun kind => ?_, loaded.holds, loaded.someUser⟩
      have before := loaded.ordered kind
      cases kind
      · exact before
      · refine ⟨before.increasing, fun row member => ?_, before.routed⟩
        have bound := before.below row member
        change rowId row < ((mirror.nextIot + count : Nat) : Int)
        change rowId row < (mirror.nextIot : Int) at bound
        omega

/-- The state `initServer` makes of two tables. -/
def Mirror.init (users iots : List Row) (nextUser nextIot : Nat) : Mirror :=
  ⟨loadRegistry users iots, users, iots, nextUser, nextIot, []⟩

/-- Tables in order give loaded lists. -/
theorem Loaded.init {users iots : List Row} {nextUser nextIot : Nat}
    (userOrder : Ordered .user users nextUser) (iotOrder : Ordered .iot iots nextIot)
    (someUser : users ≠ []) : Loaded (Mirror.init users iots nextUser nextIot) := by
  have nothing : Holds [] [] := ⟨rfl, rfl⟩
  have fromUser : FromRow (userEntry (zeros 18)) := fun row => ⟨rfl, rfl⟩
  have fromIot : FromRow fun row => { iotEntry row with info := column row 0 } :=
    fun row => ⟨rfl, rfl⟩
  obtain ⟨userList, onlyUsers⟩ := load_rows fromUser users userOrder.routed .empty [] nothing
  have iotStart : Holds ((users.foldl (fun lists row =>
      lists.addtoLocal (userEntry (zeros 18) row)) Lists.empty).head .iot).nodes [] := by
    rw [onlyUsers .iot (by decide)]
    exact nothing
  obtain ⟨iotList, onlyIots⟩ := load_rows fromIot iots iotOrder.routed _ [] iotStart
  refine ⟨fun kind => ?_, fun kind => ?_, someUser⟩
  · cases kind
    · exact userOrder
    · exact iotOrder
  · cases kind
    · change Holds ((loadRegistry users iots).head .user).nodes users
      rw [loadRegistry, onlyIots .user (by decide)]
      exact userList
    · exact iotList

/-- A user row and a device row for the fixed runs below. -/
def sampleUser : Row :=
  [text "1", text "13800138000", text "", text "secret", text "a@b.c", text "2020-01-01"]

/-- A device row for the fixed runs below. -/
def sampleIot : Row := [text "1", text "dev001", text "0", text "secret", text "2020-01-01"]

/-- The answers to a second device: the list has a first one, which the reload starts from. -/
def secondDeviceAnswers : List Answer :=
  [.int (-1), .node (some 0), .query .done, .unit, .unit, .bytes [],
    .found (some (userEntry [] sampleUser).node), .node (some 0), .query .done, .rows (some []),
    .unit, .unit, .found (some { (iotEntry sampleIot).node with info := text "0_1_" }), .unit,
    .found (some { (iotEntry sampleIot).node with info := text "0_1_" }), .query .done,
    .rows (some [[text "2", text "dev002", text "0", [], text "2020-01-02"]]), .int 1, .unit,
    .unit]

/-- The answers to a first device. -/
def firstDeviceCallAnswers : List Answer :=
  [.int (-1), .node (some 0), .query .done, .unit, .unit, .bytes [],
    .found (some (userEntry [] sampleUser).node), .node (some 0), .query .done, .rows (some []),
    .unit, .unit, .found none]

end UubangIot
