import UubangIot.Server.UserNodes

/-!
# The searches of the lists in memory

Every search that tests the node ahead finds the first node that passes, wherever it stands. The check
for a registration tests the node it stands on and stops at the last one, so it misses an id that only
the last of several nodes has.
-/

namespace UubangIot

open LinkedCells

/-! ## Lists in memory -/

/-- The nodes in memory are those of the lists, with their counts. -/
structure UserNodes.Represents (nodes : UserNodes) (lists : Lists) : Prop where
  /-- The counts. -/
  counted : ∀ kind, (nodes.head kind).onlineUserNum = (lists.head kind).onlineUserNum
  /-- The nodes. -/
  holds : ∀ kind, Holds (nodes.list kind) (lists.head kind).nodes

variable {list : Linked User} {front back pairs : List (Nat × User)} {node turns : Nat} {value : User}

/-- The address of what was found, or zero. -/
def addressOf : Option (Nat × User) → Nat
  | none => 0
  | some (node, _) => node

/-- The loop of a search. -/
theorem lookAhead_eq (test : User → Bool) (located : At list front back) (enough : back.length < turns) :
    lookAhead test turns list (cursorOf front) =
      some (addressOf (back.find? fun pair => test pair.2)) := by
  induction back generalizing front turns with
  | nil =>
    obtain ⟨turns, rfl⟩ := Nat.exists_eq_succ_of_ne_zero (Nat.ne_of_gt enough)
    rw [lookAhead, located.next_nil]
    rfl
  | cons pair rest ih =>
    obtain ⟨node, value⟩ := pair
    obtain ⟨turns, rfl⟩ := Nat.exists_eq_succ_of_ne_zero (Nat.ne_of_gt (Nat.zero_lt_of_lt enough))
    obtain ⟨real, leads, link, cell⟩ := located.next_cons
    have later := ih located.step (Nat.lt_of_succ_lt_succ enough)
    rw [cursorOf_snoc] at later
    rw [lookAhead, leads, List.find?_cons]
    dsimp only
    rw [if_neg real, cell]
    dsimp only
    cases tested : test value with
    | true => rfl
    | false => exact later

/-- A search returns the address of the first node that passes its test. -/
theorem searchNodes_eq (test : User → Bool) (located : At list [] pairs) (enough : pairs.length < turns) :
    searchNodes test turns list = some (addressOf (pairs.find? fun pair => test pair.2)) := by
  cases pairs with
  | nil =>
    rw [searchNodes, if_pos located.first_nil]
    rfl
  | cons pair rest =>
    obtain ⟨node, value⟩ := pair
    obtain ⟨rfl, real, link, cell⟩ := located.first_cons
    have later := lookAhead_eq test located.step (Nat.lt_of_succ_lt enough)
    rw [cursorOf_snoc] at later
    rw [searchNodes, if_neg real, cell, List.find?_cons]
    dsimp only
    cases tested : test value with
    | true => rfl
    | false => exact later

/-- The loop of a registration. -/
theorem standingLoop_eq (test : User → Bool) (located : At list front ((node, value) :: back))
    (enough : back.length < turns) :
    standingLoop test turns list node =
      some (if (((node, value) :: back).dropLast.any fun pair => test pair.2) then 1 else -1) := by
  induction back generalizing front turns node value with
  | nil =>
    obtain ⟨turns, rfl⟩ := Nat.exists_eq_succ_of_ne_zero (Nat.ne_of_gt enough)
    obtain ⟨real, -, link, cell⟩ := located.next_cons
    have ends := located.step.next_nil
    rw [cursorOf_snoc, Linked.next, if_neg real, cell] at ends
    rw [standingLoop, cell]
    dsimp only
    rw [if_pos (Option.some.inj ends)]
    rfl
  | cons pair rest ih =>
    obtain ⟨second, other⟩ := pair
    obtain ⟨turns, rfl⟩ := Nat.exists_eq_succ_of_ne_zero (Nat.ne_of_gt (Nat.zero_lt_of_lt enough))
    obtain ⟨real, -, link, cell⟩ := located.next_cons
    obtain ⟨present, leads, -⟩ := located.step.next_cons
    rw [cursorOf_snoc, Linked.next, if_neg real, cell] at leads
    obtain rfl : link = second := Option.some.inj leads
    have later := ih located.step (Nat.lt_of_succ_lt_succ enough)
    rw [standingLoop, cell, List.dropLast_cons_cons, List.any_cons]
    dsimp only
    rw [if_neg present]
    cases tested : test value with
    | true => rfl
    | false => exact later

/-- The check for a registration: the first node, and all but the last. -/
theorem checkRegister_eq (test : User → Bool) (located : At list [] pairs)
    (enough : pairs.length < turns) :
    checkRegister test turns list =
      some (if (pairs.head?.any fun pair => test pair.2) ||
        (pairs.dropLast.any fun pair => test pair.2) then 1 else -1) := by
  cases pairs with
  | nil =>
    rw [checkRegister, if_pos located.first_nil]
    rfl
  | cons pair rest =>
    obtain ⟨node, value⟩ := pair
    obtain ⟨rfl, real, link, cell⟩ := located.first_cons
    have later := standingLoop_eq test located (Nat.lt_of_succ_lt enough)
    rw [checkRegister, if_neg real, cell, List.head?_cons, Option.any_some]
    dsimp only
    by_cases tested : test value = true
    · rw [if_pos tested, tested]
      rfl
    · rw [if_neg tested, later, Bool.eq_false_of_not_eq_true tested]
      rfl

/-! ## The values of a list -/

variable {nodes : UserNodes} {lists : Lists} {values : List User} {test : User → Bool}

/-- An address of a list: zero for nothing, else that of the node. -/
def Located (list : Linked User) (address : Nat) : Option User → Prop
  | none => address = 0
  | some found => address ≠ 0 ∧ ∃ link, list.cells address = some ⟨found, link⟩

/-- What a node of a list has in its cell. -/
theorem At.cell (located : At list front back) (member : (node, value) ∈ back) :
    node ≠ 0 ∧ ∃ link, list.cells node = some ⟨value, link⟩ := by
  obtain ⟨before, after, rfl⟩ := List.append_of_mem member
  have moved : At list (front ++ before) ((node, value) :: after) := by
    constructor
    · rw [List.append_assoc]
      exact located.linked
    · rw [List.append_assoc]
      exact located.distinct
  obtain ⟨real, -, link, cell⟩ := moved.next_cons
  exact ⟨real, link, cell⟩

/-- A search comes to the first node that passes. -/
theorem searchNodes_spec (test : User → Bool) (holds : Holds list values)
    (enough : values.length < turns) :
    ∃ address, searchNodes test turns list = some address ∧
      Located list address (values.find? test) := by
  obtain ⟨pairs, located, rfl⟩ := holds
  rw [List.length_map] at enough
  refine ⟨_, searchNodes_eq test located enough, ?_⟩
  rw [List.find?_map]
  change Located list _ ((pairs.find? fun pair => test pair.2).map Prod.snd)
  cases found : pairs.find? fun pair => test pair.2 with
  | none => rfl
  | some pair => exact At.cell located (List.mem_of_find?_eq_some found)

/-- The check for a sign-in passes when a node does. -/
theorem checkSign_spec (test : User → Bool) (holds : Holds list values)
    (enough : values.length < turns) :
    checkSign test turns list = some (if values.any test then 1 else -1) := by
  obtain ⟨address, searched, there⟩ := searchNodes_spec test holds enough
  rw [checkSign, searched]
  change some (if address = 0 then (-1 : Int) else 1) = _
  cases found : values.find? test with
  | none =>
    rw [found] at there
    have none : values.any test = false := by
      rw [List.any_eq_false]
      exact List.find?_eq_none.mp found
    have zero : address = 0 := there
    rw [if_pos zero, none]
    rfl
  | some node =>
    rw [found] at there
    have some : values.any test = true :=
      List.any_eq_true.mpr ⟨node, List.mem_of_find?_eq_some found, List.find?_some found⟩
    rw [if_neg there.1, if_pos some]

/-- The check for a registration passes when the first node does, or one before the last. -/
theorem checkRegister_spec (test : User → Bool) (holds : Holds list values)
    (enough : values.length < turns) :
    checkRegister test turns list =
      some (if values.head?.any test || values.dropLast.any test then 1 else -1) := by
  obtain ⟨pairs, located, rfl⟩ := holds
  rw [List.length_map] at enough
  rw [checkRegister_eq test located enough, ← List.map_dropLast, List.any_map, List.head?_map]
  cases pairs.head? with
  | none => rfl
  | some pair => rfl

/-! ## The two levels -/

/-- The loop of `Register` over values compares every node but the last. -/
theorem registerLoop_eq (userId : Bytes) (values : List User) :
    registerLoop userId values =
      if values.dropLast.any fun node => streq userId node.userId then 1 else -1 := by
  induction values with
  | nil => rfl
  | cons tag rest ih =>
    cases rest with
    | nil => rfl
    | cons next rest =>
      rw [registerLoop, ih, List.dropLast_cons_cons, List.any_cons]
      cases streq userId tag.userId with
      | true => rfl
      | false => rfl

/-- A node has the id and the password of a request. -/
def CLN.isSigned (a : CLN) (node : User) : Bool :=
  streq a.userId node.userId && streq a.userPassword node.userPassword

/-- `Check_Id_Pwd` over the linked nodes returns what it returns over the lists. -/
theorem checkIdPwd_eq (represents : nodes.Represents lists) (n : Int) (a : CLN)
    (enough : (lists.head (kindOf a.userId)).nodes.length < turns) :
    nodes.checkIdPwd turns n a = some
      (if n = 0 then if (lists.head (kindOf a.userId)).nodes.any a.isSigned then 1 else -1
      else if ((lists.head (kindOf a.userId)).nodes.head?.any fun node => streq a.userId node.userId) ||
          (lists.head (kindOf a.userId)).nodes.dropLast.any fun node => streq a.userId node.userId
        then 1 else -1) := by
  have holds := represents.holds (kindOf a.userId)
  have selected : (if ¬strlen a.userId < 11 then nodes.list .user else nodes.list .iot) =
      nodes.list (kindOf a.userId) := by
    by_cases short : strlen a.userId < 11
    · rw [if_neg (not_not.mpr short), kindOf, if_pos short]
    · rw [if_pos short, kindOf, if_neg short]
  rw [UserNodes.checkIdPwd, selected]
  split
  · exact checkSign_spec _ holds enough
  · exact checkRegister_spec _ holds enough

/-- `Check_Id_Pwd` in memory is the one over the values. -/
theorem checkIdPwd_refines (represents : nodes.Represents lists) (n : Int) (a : CLN)
    (enough : (lists.head (kindOf a.userId)).nodes.length < turns) :
    nodes.checkIdPwd turns n a = some (lists.checkIdPwd n a.userId a.userPassword) := by
  rw [checkIdPwd_eq represents n a enough, Lists.checkIdPwd]
  congr 1
  generalize (lists.head (kindOf a.userId)).nodes = values
  cases values with
  | nil =>
    dsimp only
    split
    · rfl
    · rfl
  | cons tag rest =>
    dsimp only
    split
    · rfl
    · rw [registerLoop_eq, List.head?_cons, Option.any_some]
      by_cases own : streq a.userId tag.userId = true
      · rw [own]
        rfl
      · rw [Bool.eq_false_of_not_eq_true own]
        rfl

/-- `FindRegisterUserOrIotNode` in memory comes to the node that the search over the values finds. -/
theorem findRegister_refines (represents : nodes.Represents lists) (userId : Bytes)
    (enough : (lists.head (kindOf userId)).nodes.length < turns) :
    ∃ address, nodes.findRegisterUserOrIotNode turns (if kindOf userId = .iot then 10 else 0)
        (some userId) 0 = some address ∧
      Located (nodes.list (kindOf userId)) address (lists.find (kindOf userId) (.name userId)) := by
  have holds := represents.holds (kindOf userId)
  cases kind : kindOf userId with
  | user =>
    rw [kind] at holds enough
    exact searchNodes_spec (fun node => streq userId node.userId) holds enough
  | iot =>
    rw [kind] at holds enough
    exact searchNodes_spec (fun node => streq userId node.userId) holds enough

/-! ## Registrations -/

/-- The check for a registration agrees with the search, and the check for a sign-in with the list. -/
structure RegistrationAgrees (turns : Nat) (nodes : UserNodes) (lists : Lists) (a : CLN) : Prop where
  /-- A registration is refused when the id is in the list. -/
  registered : nodes.checkIdPwd turns 1 a = some 1 ↔
    ∃ node ∈ (lists.head (kindOf a.userId)).nodes, streq a.userId node.userId = true
  /-- The search finds a node of the id when there is one. -/
  found : (∃ node ∈ (lists.head (kindOf a.userId)).nodes, streq a.userId node.userId = true) ↔
    ∃ address node link, nodes.findRegisterUserOrIotNode turns
        (if kindOf a.userId = .iot then 10 else 0) (some a.userId) 0 = some address ∧ address ≠ 0 ∧
      nodes.cells address = some ⟨node, link⟩ ∧ streq a.userId node.userId = true
  /-- A sign-in passes when a node has the id and the password. -/
  signed : nodes.checkIdPwd turns 0 a = some 1 ↔
    ∃ node ∈ (lists.head (kindOf a.userId)).nodes,
      streq a.userId node.userId = true ∧ streq a.userPassword node.userPassword = true

/-- The id is that of the only node, or of one before the last, or of none. -/
def NotOnlyLast (userId : Bytes) (values : List User) : Prop :=
  values.length ≤ 1 ∨ (∃ node ∈ values.dropLast, streq userId node.userId = true) ∨
    ∀ node ∈ values, streq userId node.userId = false

/-- What the check for a registration compares. -/
theorem checks_iff (test : User → Bool) (values : List User) :
    (values.head?.any test || values.dropLast.any test) = true ↔
      (values.length ≤ 1 ∧ ∃ node ∈ values, test node = true) ∨
        ∃ node ∈ values.dropLast, test node = true := by
  rw [Bool.or_eq_true, List.any_eq_true]
  cases values with
  | nil => simp
  | cons tag rest =>
    cases rest with
    | nil => simp
    | cons next rest => simp

/-- It agrees with the list exactly when the id is not that of the last node only. -/
theorem checks_agree_iff (userId : Bytes) (values : List User) :
    ((values.head?.any (fun node => streq userId node.userId) ||
        values.dropLast.any fun node => streq userId node.userId) = true ↔
      ∃ node ∈ values, streq userId node.userId = true) ↔ NotOnlyLast userId values := by
  rw [checks_iff, NotOnlyLast]
  constructor
  · intro agrees
    by_cases known : ∃ node ∈ values, streq userId node.userId = true
    · rcases agrees.mpr known with ⟨single, -⟩ | before
      · exact .inl single
      · exact .inr (.inl before)
    · refine .inr (.inr fun node member => Bool.eq_false_of_not_eq_true fun own => ?_)
      exact known ⟨node, member, own⟩
  · intro apart
    constructor
    · rintro (⟨-, known⟩ | ⟨node, member, own⟩)
      · exact known
      · exact ⟨node, List.mem_of_mem_dropLast member, own⟩
    · rintro ⟨node, member, own⟩
      rcases apart with single | before | none
      · exact .inl ⟨single, node, member, own⟩
      · exact .inr before
      · rw [none node member] at own
        contradiction

/-- A check passes when its test does. -/
theorem check_passes (passes : Bool) : some (if passes then (1 : Int) else -1) = some 1 ↔ passes = true := by
  cases passes with
  | true => decide
  | false => decide

/-- The check for a registration agrees with the search exactly when the id is not that of the last
node only. -/
theorem registrationAgrees_iff (nodes : UserNodes) (lists : Lists) (represents : nodes.Represents lists)
    (a : CLN) (turns : Nat) (enough : (lists.head (kindOf a.userId)).nodes.length < turns) :
    RegistrationAgrees turns nodes lists a ↔
      NotOnlyLast a.userId (lists.head (kindOf a.userId)).nodes := by
  have checked := checkIdPwd_eq represents 1 a enough
  have signs := checkIdPwd_eq represents 0 a enough
  obtain ⟨address, searched, there⟩ := findRegister_refines represents a.userId enough
  rw [if_neg one_ne_zero] at checked
  rw [if_pos rfl] at signs
  rw [← checks_agree_iff, ← check_passes, ← checked]
  constructor
  · exact RegistrationAgrees.registered
  · intro registered
    refine ⟨registered, ⟨?_, ?_⟩, ?_⟩
    · rintro ⟨node, member, own⟩
      cases first : lists.find (kindOf a.userId) (.name a.userId) with
      | none => exact absurd own (List.find?_eq_none.mp first node member)
      | some found =>
        rw [first] at there
        obtain ⟨real, link, cell⟩ := there
        have named : (Lookup.name a.userId).matches found = true := List.find?_some first
        exact ⟨address, found, link, searched, real, cell, named⟩
    · rintro ⟨other, -, -, same, real, -, -⟩
      obtain rfl := Option.some.inj (searched.symm.trans same)
      cases first : lists.find (kindOf a.userId) (.name a.userId) with
      | none =>
        rw [first] at there
        exact absurd there real
      | some found =>
        have named : (Lookup.name a.userId).matches found = true := List.find?_some first
        exact ⟨found, List.mem_of_find?_eq_some first, named⟩
    · rw [signs, check_passes, List.any_eq_true]
      simp only [CLN.isSigned, Bool.and_eq_true]

/-- A device with a short id. -/
def registeredDevice (userId : String) : User := ⟨0, text userId, 1, text "secret", [], 0, true⟩

/-- Two registered devices and no users. -/
def twoDevices : Lists :=
  ⟨⟨0, []⟩, ⟨2, [registeredDevice "device02", registeredDevice "device01"]⟩⟩

/-- Their nodes. -/
def twoDeviceNodes : UserNodes where
  cells address :=
    if address = 1 then some ⟨registeredDevice "device02", 2⟩
    else if address = 2 then some ⟨registeredDevice "device01", 0⟩
    else none
  users := ⟨0, 0⟩
  iots := ⟨2, 1⟩

/-- The nodes represent the list of two devices. -/
theorem twoDeviceNodes_represents : twoDeviceNodes.Represents twoDevices := by
  constructor
  · intro kind
    cases kind with
    | user => rfl
    | iot => rfl
  · intro kind
    cases kind with
    | user => exact ⟨[], ⟨rfl, List.nodup_nil⟩, rfl⟩
    | iot =>
      refine ⟨[(1, registeredDevice "device02"), (2, registeredDevice "device01")], ⟨?_, ?_⟩, rfl⟩
      · exact ⟨rfl, by decide, 2, rfl, rfl, by decide, 0, rfl, rfl⟩
      · decide

/-- A registration by an id. -/
def enrolling (userId : String) : CLN := { CLN.zero with userId := text userId ++ [0] }

/-- The id of the first node is checked as it is found. -/
theorem registrationAgrees_first :
    RegistrationAgrees 3 twoDeviceNodes twoDevices (enrolling "device02") := by
  refine (registrationAgrees_iff twoDeviceNodes twoDevices twoDeviceNodes_represents
    (enrolling "device02") 3 (by decide +kernel)).mpr (.inr (.inl ⟨registeredDevice "device02", ?_, ?_⟩))
  · decide +kernel
  · decide +kernel

/-- A registration by the id of the last node is not refused. -/
theorem last_not_checked : twoDeviceNodes.Represents twoDevices ∧
    twoDeviceNodes.checkIdPwd 3 1 (enrolling "device01") = some (-1) ∧
    twoDeviceNodes.findRegisterUserOrIotNode 3 10 (some (enrolling "device01").userId) 0 = some 2 ∧
    ¬RegistrationAgrees 3 twoDeviceNodes twoDevices (enrolling "device01") := by
  have missed : twoDeviceNodes.checkIdPwd 3 1 (enrolling "device01") = some (-1) := by
    decide +kernel
  refine ⟨twoDeviceNodes_represents, missed, by decide +kernel, fun agrees => ?_⟩
  have passed := agrees.registered.mpr ⟨registeredDevice "device01", by decide +kernel, by decide +kernel⟩
  rw [missed] at passed
  exact absurd passed (by decide)

end UubangIot
