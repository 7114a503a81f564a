import UubangIot.Verif.Lookups

/-!
# What happens to the registered lists

The operations of requests on the registered lists, by what is left of the lists afterwards: the ids
stay in the lists of their kinds and no device is gone.
-/

namespace UubangIot

open Effect

/-- The lists that are loaded at the start. -/
def loaded (entries : List Entry) : Lists := entries.foldl Lists.addtoLocal .empty

/-- The nodes of a list have ids of its kind. -/
def Kinded (lists : Lists) : Prop :=
  ∀ kind, ∀ node ∈ (lists.head kind).nodes, kindOf node.userId = kind

section

variable {registered after : Lists} {online : Lists} {userId userPassword : Bytes}

/-- A node is added to the list of its kind. -/
theorem kinded_addtoLocal (kinded : Kinded registered) (entry : Entry) :
    Kinded (registered.addtoLocal entry) := by
  have own : kindOf entry.node.userId = kindOf entry.userId := kindOf_cstr entry.userId
  intro kind node member
  rw [Lists.addtoLocal] at member
  cases list : kindOf entry.userId with
  | user =>
    rw [list] at member own
    cases kind with
    | user =>
      rcases List.mem_cons.mp member with rfl | member
      · exact own
      · exact kinded .user node member
    | iot => exact kinded .iot node member
  | iot =>
    rw [list] at member own
    cases kind with
    | user => exact kinded .user node member
    | iot =>
      rcases List.mem_cons.mp member with rfl | member
      · exact own
      · exact kinded .iot node member

/-- The lists at the start. -/
theorem loaded_kinded (entries : List Entry) : Kinded (loaded entries) := by
  have grows (lists : Lists) (kinded : Kinded lists) :
      Kinded (entries.foldl Lists.addtoLocal lists) := by
    induction entries generalizing lists with
    | nil => exact kinded
    | cons entry rest ih => exact ih _ (kinded_addtoLocal kinded entry)
  apply grows
  intro kind node member
  cases kind <;> simp [Lists.empty, Lists.head] at member

/-- A password that is set leaves the ids. -/
theorem mem_setNode {nodes : List User} {node : User}
    (member : node ∈ setNode userId userPassword nodes) :
    ∃ old ∈ nodes, old.userId = node.userId := by
  induction nodes with
  | nil => simp [setNode] at member
  | cons first rest ih =>
    rw [setNode] at member
    split at member
    · rcases List.mem_cons.mp member with rfl | member
      · exact ⟨first, List.mem_cons_self, rfl⟩
      · exact ⟨node, List.mem_cons_of_mem _ member, rfl⟩
    · rcases List.mem_cons.mp member with rfl | member
      · exact ⟨node, List.mem_cons_self, rfl⟩
      · obtain ⟨old, known, same⟩ := ih member
        exact ⟨old, List.mem_cons_of_mem _ known, same⟩

/-- A password changes no kind. -/
theorem kinded_setPassword (kinded : Kinded registered) (userId userPassword : Bytes) :
    Kinded (registered.setPassword userId userPassword) := by
  intro kind node member
  cases kind with
  | user =>
    obtain ⟨old, known, same⟩ := mem_setNode member
    rw [← same]
    exact kinded .user old known
  | iot => exact kinded .iot node member

/-- What has become of the registered lists: their ids are still of their kinds, and no device is
gone. -/
def Keeps (registered after : Lists) : Prop :=
  (Kinded registered → Kinded after) ∧ ∀ node ∈ registered.iots.nodes, node ∈ after.iots.nodes

/-- The lists keep their nodes when nothing happens. -/
theorem Keeps.refl (registered : Lists) : Keeps registered registered :=
  ⟨fun kinded => kinded, fun _ member => member⟩

/-- Only a registration and a new password change the registered lists. -/
theorem registered_after {directory next : Directory} {op : Op} {response : op.Res}
    (changed : directory.after ⟨op, response⟩ = some next)
    (registers : ∀ entry, op ≠ .addtoLocal entry)
    (renews : ∀ userId userPassword, op ≠ .setRegisterPassword userId userPassword) :
    next.registered = directory.registered := by
  by_cases still : op.relists = false
  · rw [after_of_still still changed]
  · cases op with
    | addtoLocal entry => exact absurd rfl (registers entry)
    | setRegisterPassword userId userPassword => exact absurd rfl (renews userId userPassword)
    | deleteOutUser userId socket =>
      simp only [Directory.after] at changed
      split at changed
      · rw [← Option.some.inj changed]
      · cases changed
    | newOnlineUserOrIotDev b =>
      simp only [Directory.after] at changed
      split at changed
      · rw [← Option.some.inj changed]
      · split at changed
        · rw [← Option.some.inj changed]
        · cases changed
    | _ => exact absurd rfl still

/-- An operation on the lists keeps them. -/
theorem keeps_after {op : Op} {response : op.Res}
    (stepped : ((Directory.mk registered online).after ⟨op, response⟩).map Directory.registered =
      some after) : Keeps registered after := by
  obtain ⟨directory, changed, rfl⟩ := Option.map_eq_some_iff.mp stepped
  have other (registers : ∀ entry, op ≠ .addtoLocal entry)
      (renews : ∀ userId userPassword, op ≠ .setRegisterPassword userId userPassword) :
      Keeps registered directory.registered := by
    rw [registered_after changed registers renews]
    exact .refl _
  cases op with
  | addtoLocal entry =>
    simp only [Directory.after] at changed
    split at changed
    · obtain rfl := Option.some.inj changed
      refine ⟨fun kinded => kinded_addtoLocal kinded entry, fun node member => ?_⟩
      change node ∈ (registered.addtoLocal entry).iots.nodes
      rw [Lists.addtoLocal]
      cases kindOf entry.userId with
      | user => exact member
      | iot => exact List.mem_cons_of_mem _ member
    · split at changed
      · obtain rfl := Option.some.inj changed
        exact .refl _
      · cases changed
  | setRegisterPassword userId userPassword =>
    obtain rfl := Option.some.inj changed
    exact ⟨fun kinded => kinded_setPassword kinded userId userPassword, fun _ member => member⟩
  | _ => exact other (fun _ => Op.noConfusion) fun _ _ => Op.noConfusion

/-- A check that succeeds has found a node of the list of the id. -/
theorem checkIdPwd_found (right : registered.checkIdPwd 0 userId userPassword ≠ -1) :
    ∃ node ∈ (registered.head (kindOf userId)).nodes,
      streq userId node.userId = true ∧ streq userPassword node.userPassword = true := by
  rw [Lists.checkIdPwd] at right
  cases nodes : (registered.head (kindOf userId)).nodes with
  | nil => simp [nodes] at right
  | cons tag rest =>
    rw [nodes] at right
    simp only [↓reduceIte] at right
    split at right
    · rename_i found
      obtain ⟨node, member, same⟩ := List.any_eq_true.mp found
      exact ⟨node, member, Bool.and_eq_true_iff.mp same⟩
    · exact absurd rfl right

/-- The lists give the answer of a check. -/
theorem check_after {n : Int} {check : Int}
    (stepped : ((Directory.mk registered online).after
      ⟨.checkIdPwd n userId userPassword, check⟩).map Directory.registered = some after) :
    check = registered.checkIdPwd n userId userPassword := by
  obtain ⟨directory, changed, -⟩ := Option.map_eq_some_iff.mp stepped
  change (if check = registered.checkIdPwd n userId userPassword then
    some (Directory.mk registered online) else none) = some directory at changed
  split at changed
  · assumption
  · cases changed

/-- The lists give the answer of a search. -/
theorem search_after {kind : Kind} {lookup : Lookup} {found : Option User}
    (stepped : ((Directory.mk registered online).after ⟨.findRegister kind lookup, found⟩).map
      Directory.registered = some after) : found = registered.find kind lookup := by
  obtain ⟨directory, changed, -⟩ := Option.map_eq_some_iff.mp stepped
  exact (after_find.mp changed).1

/-- An online node leaves the registered lists. -/
theorem newOnline_registered {b : CLN} {result : Int}
    (stepped : ((Directory.mk registered online).after ⟨.newOnlineUserOrIotDev b, result⟩).map
      Directory.registered = some after) : after = registered := by
  obtain ⟨directory, changed, rfl⟩ := Option.map_eq_some_iff.mp stepped
  exact registered_after changed (fun _ => Op.noConfusion) fun _ _ => Op.noConfusion

end

end UubangIot
