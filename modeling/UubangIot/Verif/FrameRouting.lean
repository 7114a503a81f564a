import UubangIot.Verif.DeviceOperations
import UubangIot.Verif.SocketOwners
import UubangIot.Verif.Warrants

/-!
# Where frames go

A frame of a request is sent on the socket of its connection. Two kinds go elsewhere: the notice to
sign out, to a user who has gone online under the name that the request has proved to know, and a
command, to a device that has gone online. The node that the request has found was made by a request
of the connection it names, whatever removals and insertions came between.
-/

namespace UubangIot

open Effect Effect.Prog Transition Transition.System

variable {config : Config} {server after : ServerState} {log history : List Note} {turn : Turn}
  {memory later : Memory} {op : Op} {response : op.Res} {kind : Kind} {node old : User}
  {userId : Bytes} {socket object : Nat}

/-! ## Statement -/

/-- A node was made by a request that has proved to know its name. -/
def WentOnline (log : List Note) (kind : Kind) (node : User) : Prop :=
  ∃ object request, ∃ b : CLN, Requested log object request ∧
    .did object ⟨.newOnlineUserOrIotDev b, (1 : Int)⟩ ∈ log ∧
    Proved (deeds log object) b.userId ∧ kindOf b.userId = kind ∧ node.userId = cstr b.userId ∧
    node.userSocket = request.socket ∧ node.connHandle = request.conn

/-- A frame goes to its own connection, to the user it displaces or to the device it commands. -/
def WellRouted (before : List Note) : Note → Prop
  | .did object ⟨.send socket frame, _⟩ => ∃ request, Requested before object request ∧
      (socket = request.socket ∨
        (∃ node userId, WentOnline before .user node ∧ socket = node.userSocket ∧
          streq userId node.userId = true ∧ Proved (deeds before object) userId ∧
          frame = reply "STO") ∨
        ∃ node seqNum payLoad, WentOnline before .iot node ∧ socket = node.userSocket ∧
          frame = .iot ⟨text "00", seqNum, payLoad⟩)
  | _ => True

/-! ## Contents of nodes -/

/-- A node but for whether its memory is allocated. -/
def User.content (node : User) : User := { node with allocated := true }

/-- Every node has the content of a former one. -/
def Contents (nodes former : List User) : Prop :=
  ∀ node ∈ nodes, ∃ old ∈ former, node.content = old.content

/-- Fewer nodes make up no content. -/
theorem Contents.of_subset {nodes former : List User} (subset : nodes ⊆ former) :
    Contents nodes former := fun node member => ⟨node, subset member, rfl⟩

/-- The same node in front of both lists makes up no content. -/
theorem Contents.cons {nodes former : List User} (contents : Contents nodes former)
    (first : User) : Contents (first :: nodes) (first :: former) := by
  intro node member
  rcases List.mem_cons.mp member with rfl | rest
  · exact ⟨node, List.mem_cons_self, rfl⟩
  · obtain ⟨old, present, same⟩ := contents node rest
    exact ⟨old, List.mem_cons_of_mem _ present, same⟩

/-- Freed memory keeps its content. -/
theorem freeFirst_contents (nodes : List User) : Contents (freeFirst nodes) nodes := by
  cases nodes with
  | nil => exact Contents.of_subset (List.Subset.refl _)
  | cons first rest =>
    intro node member
    rcases List.mem_cons.mp member with rfl | others
    · exact ⟨first, List.mem_cons_self, rfl⟩
    · exact ⟨node, List.mem_cons_of_mem _ others, rfl⟩

/-- The loop makes up no content. -/
theorem unlinkLoop_contents {nodes rest : List User}
    (unlinked : unlinkLoop userId socket nodes = some rest) : Contents rest nodes := by
  induction nodes generalizing rest with
  | nil => cases unlinked
  | cons first nodes ih =>
    rw [unlinkLoop] at unlinked
    split at unlinked
    · obtain rfl := Option.some.inj unlinked
      intro node member
      obtain ⟨old, present, same⟩ := freeFirst_contents nodes node member
      exact ⟨old, List.mem_cons_of_mem _ present, same⟩
    · obtain ⟨others, loop, rfl⟩ := Option.map_eq_some_iff.mp unlinked
      exact (ih loop).cons first

/-- A removal within a list makes up no content. -/
theorem unlink_contents {nodes rest : List User}
    (unlinked : unlink userId socket nodes = some rest) : Contents rest nodes := by
  cases nodes with
  | nil => cases unlinked
  | cons first nodes =>
    rw [unlink] at unlinked
    split at unlinked
    · obtain rfl := Option.some.inj unlinked
      exact Contents.of_subset (List.subset_cons_self _ _)
    · obtain ⟨others, loop, rfl⟩ := Option.map_eq_some_iff.mp unlinked
      exact (unlinkLoop_contents loop).cons first

/-- A removal makes up no content. -/
theorem deleteOutUser_contents (lists : Lists) (userId : Bytes) (socket : Nat) (kind : Kind) :
    Contents ((lists.deleteOutUser userId socket).2.nodes kind) (lists.nodes kind) := by
  unfold Lists.deleteOutUser
  split
  · exact Contents.of_subset (List.Subset.refl _)
  · dsimp only
    cases unlinked : unlink userId socket (lists.head (kindOf userId)).nodes with
    | none => exact Contents.of_subset (List.Subset.refl _)
    | some nodes =>
      by_cases own : kind = kindOf userId
      · subst own
        rw [Lists.nodes, Lists.head_setHead_self]
        exact unlink_contents unlinked
      · rw [Lists.nodes, Lists.head_setHead_of_ne _ _ own]
        exact Contents.of_subset (List.Subset.refl _)

/-- A node after an operation has the content of a former one or is the one inserted. -/
theorem after_content (written : memory.after ⟨op, response⟩ = some later)
    (member : node ∈ later.online.nodes kind) :
    (∃ old ∈ memory.online.nodes kind, node.content = old.content) ∨
      ∃ b, (⟨op, response⟩ : Happening) = ⟨.newOnlineUserOrIotDev b, (1 : Int)⟩ ∧
        kindOf b.userId = kind ∧ node = b.node := by
  have lists := after_online written
  have kept (same : later.online = memory.online) :
      ∃ old ∈ memory.online.nodes kind, node.content = old.content := ⟨node, same ▸ member, rfl⟩
  cases op with
  | deleteOutUser userId socket =>
    rw [lists] at member
    exact .inl (deleteOutUser_contents _ _ _ kind node member)
  | newOnlineUserOrIotDev b =>
    rcases after_insertion written with ⟨made, inserted⟩ | ⟨-, same⟩
    · rw [inserted, newOnline_nodes] at member
      split at member
      · rename_i own
        rcases List.mem_cons.mp member with rfl | former
        · refine .inr ⟨b, ?_, own.symm, rfl⟩
          rw [made]
        · exact .inl ⟨node, former, rfl⟩
      · exact .inl ⟨node, member, rfl⟩
    · exact .inl (kept same)
  | _ => exact .inl (kept lists)

/-! ## Nodes of requests -/

/-- A proof that was given stays given. -/
theorem Proved.mono {past deeds : List Happening} (proved : Proved past userId)
    (part : past ⊆ deeds) : Proved deeds userId := by
  obtain ⟨userPassword, check, checked, right⟩ := proved
  exact ⟨userPassword, check, part checked, right⟩

/-- What an object has done stays done. -/
theorem deeds_subset (note : Note) (object : Nat) :
    deeds log object ⊆ deeds (log ++ [note]) object := by
  intro happening done
  exact mem_deeds.mpr (List.mem_append_left _ (mem_deeds.mp done))

/-- A request stays one. -/
theorem Requested.snoc {request : CLN} (requested : Requested log object request) (note : Note) :
    Requested (log ++ [note]) object request := requested_append.mpr (.inl requested)

/-- Later notes leave what has been told of a node. -/
theorem WentOnline.snoc (online : WentOnline log kind node) (note : Note) :
    WentOnline (log ++ [note]) kind node := by
  obtain ⟨object, request, b, requested, made, proved, rest⟩ := online
  have done := List.mem_append_left [note] made
  exact ⟨object, request, b, requested.snoc note, done, proved.mono (deeds_subset note object),
    rest⟩

/-- The memory of a node does not matter. -/
theorem WentOnline.of_content (online : WentOnline log kind old)
    (same : node.content = old.content) : WentOnline log kind node := by
  obtain ⟨object, request, b, requested, made, proved, list, name, line, handle⟩ := online
  have names : node.content.userId = old.content.userId := by rw [same]
  have lines : node.content.userSocket = old.content.userSocket := by rw [same]
  have handles : node.content.connHandle = old.content.connHandle := by rw [same]
  exact ⟨object, request, b, requested, made, proved, list, names.trans name, lines.trans line,
    handles.trans handle⟩

/-- A request that makes a node has proved to know its name. -/
theorem Told.entered (told : Told config (server, log)) {b : CLN}
    (made : .did object ⟨.newOnlineUserOrIotDev b, (1 : Int)⟩ ∈ log) :
    WentOnline log (kindOf b.userId) b.node := by
  obtain ⟨request, requested⟩ := told.acted object _ made
  obtain ⟨-, check, right, checked⟩ := told.madeOnline made
  obtain ⟨before, after, split⟩ := deeds_split made
  have own : b.conn = request.conn ∧ b.socket = request.socket := told.warranted requested split
  have proved : Proved (deeds log object) b.userId :=
    ⟨b.userPassword, check, mem_deeds.mpr checked, right⟩
  exact ⟨object, request, b, requested, made, proved, rfl, rfl, own.2, own.1⟩

/-! ## Every turn -/

/-- All nodes, in the lists and in the hands of requests, were made by requests. -/
structure Entered (now : ServerState × List Note) : Prop where
  /-- The nodes of the lists. -/
  listed : ∀ kind, ∀ node ∈ now.1.memory.online.nodes kind, WentOnline now.2 kind node
  /-- The nodes that were found. -/
  found : ∀ object kind lookup node,
    .did object ⟨.findOnline kind lookup, (some node : Option User)⟩ ∈ now.2 →
      WentOnline now.2 kind node ∧ lookup.matches node = true
  /-- The frames. -/
  routed : Throughout WellRouted now.2

/-- Before the first connection there is no node. -/
theorem entered_initial : Entered (.initial, []) where
  listed kind node member := by cases kind <;> cases member
  found _ _ _ _ member := by cases member
  routed := throughout_nil

/-- A search of a request has found a node that was made by a request. -/
theorem Entered.foundOnline (entered : Entered (server, log)) {past : List Happening}
    (part : past ⊆ deeds log object) {lookup : Lookup} (found : FoundOnline past kind lookup node) :
    WentOnline log kind node ∧ lookup.matches node = true :=
  entered.found object kind lookup node (mem_deeds.mp (part found))

/-- A frame is routed by what its request has found. -/
theorem Entered.routes (entered : Entered (server, log)) {request : CLN}
    (requested : Requested log object request)
    (warranted : request.warrants (deeds log object) op) :
    WellRouted log (.did object ⟨op, response⟩) := by
  cases op with
  | send socket frame =>
    refine ⟨request, requested, ?_⟩
    rcases warranted with own | ⟨userId, node, ⟨proved, found⟩, line, notice⟩ |
      ⟨node, ⟨lookup, found⟩, line, seqNum, payLoad, command⟩
    · exact .inl own
    · have online := entered.foundOnline (List.Subset.refl _) found
      exact .inr (.inl ⟨node, userId, online.1, line, online.2, proved, notice⟩)
    · have online := entered.foundOnline (List.Subset.refl _) found
      exact .inr (.inr ⟨node, seqNum, payLoad, online.1, line, command⟩)
  | _ => trivial

/-- Lists without new content hold only nodes that requests have made. -/
theorem Entered.keep (entered : Entered (server, log))
    (contents : ∀ kind, Contents (after.memory.online.nodes kind)
      (server.memory.online.nodes kind)) :
    Entered (after, log) where
  listed kind node member := by
    obtain ⟨old, present, same⟩ := contents kind node member
    exact (entered.listed kind old present).of_content same
  found := entered.found
  routed := entered.routed

/-- A note that tells of no operation. -/
theorem Entered.heard (entered : Entered (server, log)) {conn : Nat} {record : CLN}
    {packet : Bytes} {allocated : Bool} :
    Entered (server, log ++ [.received conn record packet allocated object]) where
  listed kind node member := (entered.listed kind node member).snoc _
  found other kind lookup node member := by
    rcases List.mem_append.mp member with former | new
    · have online := entered.found other kind lookup node former
      exact ⟨online.1.snoc _, online.2⟩
    · cases List.mem_singleton.mp new
  routed := (throughout_snoc _ _).mpr ⟨entered.routed, trivial⟩

/-- An operation of a task. -/
theorem Entered.did (entered : Entered (server, log))
    (told : Told config (after, log ++ [.did object ⟨op, response⟩]))
    (routes : WellRouted log (.did object ⟨op, response⟩))
    (written : server.memory.after ⟨op, response⟩ = some after.memory) :
    Entered (after, log ++ [.did object ⟨op, response⟩]) where
  listed kind node member := by
    rcases after_content written member with ⟨old, present, same⟩ | ⟨b, made, rfl, rfl⟩
    · exact ((entered.listed kind old present).snoc _).of_content same
    · have noted : .did object ⟨.newOnlineUserOrIotDev b, (1 : Int)⟩ ∈
          log ++ [.did object ⟨op, response⟩] := by
        rw [made]
        exact List.mem_append_right _ List.mem_cons_self
      exact told.entered noted
  found other kind lookup node member := by
    rcases List.mem_append.mp member with former | new
    · have online := entered.found other kind lookup node former
      exact ⟨online.1.snoc _, online.2⟩
    · obtain ⟨rfl, same⟩ := Note.did.inj (List.mem_singleton.mp new)
      rw [← same] at written
      have answer := (after_findOnline written).1
      have present : server.memory.online.find kind lookup = some node := answer.symm
      have listed := entered.listed kind node (List.mem_of_find?_eq_some present)
      exact ⟨listed.snoc _, List.find?_some present⟩
  routed := (throughout_snoc _ _).mpr ⟨entered.routed, routes⟩

/-- A turn makes no node but by a request. -/
theorem entered_turn (told : Told config (server, log)) (entered : Entered (server, log))
    (turned : (chronicled config).step (server, log) turn = some (after, history)) :
    Entered (after, history) := by
  have next := told_turn config _ _ _ told turned
  obtain ⟨conn, record, packet, allocated, -, known, received, rfl⟩ |
    ⟨index, answer, task, op, rest, response, memory, -, found, program, -, written, rfl, rfl⟩ |
    ⟨index, task, -, -, -, rfl, rfl⟩ | ⟨passes, rfl⟩ := chronicled_cases turned
  · apply entered.heard.keep
    have online : after.memory.online = server.memory.online := by
      obtain ⟨-, -, ⟨-, rfl⟩ | ⟨-, -, rfl⟩ | ⟨-, -, rfl⟩ | ⟨-, -, -, -, -, -, -, rfl⟩⟩ :=
        receive_cases received
      all_goals rfl
    intro kind
    rw [online]
    exact Contents.of_subset (List.Subset.refl _)
  · obtain ⟨requested, comes⟩ := told.pooled task (List.mem_of_getElem? found)
    rw [program] at comes
    have warranted : task.request.warrants (deeds log task.object) op :=
      (talk_warranted config task.request []).comes comes
    exact entered.did next (entered.routes requested warranted) written
  · exact entered.keep fun kind => Contents.of_subset (List.Subset.refl _)
  · cases passes with
    | accepted socket same =>
      subst same
      exact entered.keep fun kind => Contents.of_subset (List.Subset.refl _)
    | freed conn record ahead same =>
      subst same
      exact entered.keep fun kind => deleteOutUser_contents _ _ _ kind
    | moved pinged queued ahead passed same =>
      subst same
      exact entered.keep fun kind => Contents.of_subset (List.Subset.refl _)

/-- In every run all nodes were made by requests. -/
theorem entered_run {turns : List Turn} {now : ServerState × List Note}
    (ran : (chronicled config).run (.initial, []) turns = some now) : Entered now := by
  have stays : ∀ state turn next, (Told config state ∧ Entered state) →
      (chronicled config).step state turn = some next → Told config next ∧ Entered next := by
    intro state turn next holds turned
    exact ⟨told_turn config state turn next holds.1 turned, entered_turn holds.1 holds.2 turned⟩
  have whole := run_preserved stays ⟨told_initial config, entered_initial⟩ ran
  exact whole.2

/-- In every run of defined turns, a frame is sent to the connection of its request, or tells a user
whose name the request knows the password of to sign out, or is a command for a device that has gone
online. -/
theorem frames_routed (config : Config)
    (choices : List (Turn × (ServerState × List Note) × NodeNumbers))
    (now : (ServerState × List Note) × NodeNumbers)
    (ran : (wild Prod.fst (chronicled config)).run ((.initial, []), .initial) choices = some now)
    (defined : (wild Prod.fst (chronicled config)).Meets (Defined Prod.fst)
      ((.initial, []), .initial) choices) :
    Throughout WellRouted now.1.2 := by
  have entered : Entered now.1 := entered_run (wild_run defined ran)
  exact entered.routed

/-- Another user signs in from a second connection, so that the node of the first is no longer at the
head of its list. -/
def anotherSignsIn : List Turn :=
  [.event (.accept 6), .event (.receive 1 (text "ZYXX1226") true),
    .event (.receive 1 (text "SIA" ++ zeros 15 ++ text "13900000000" ++ zeros 177) true)] ++
    [.int 1, .found none, .found (some (keyedNode "13900000000" 4)), .unit, .int 1, .unit,
      .found none, .unit].map (.step 3)

/-- The first user signs in again from a third connection, which finds the node of the first. -/
def signsInElsewhere : List Turn :=
  let online := { keyedNode "13800000000" 3 with userSocket := 5, info := [no, yes, 1] }
  [.event (.accept 7), .event (.receive 2 (text "ZYXX1226") true),
    .event (.receive 2 userSiaPacket true)] ++
    [.int 1, .found (some online), .int 1, .int 721, .int 1].map (.step 5)

/-- The turns of the three connections. -/
def displaces : List (Turn × (ServerState × List Note) × NodeNumbers) :=
  certain (.initial, []) (greets ++ userSignsIn ++ anotherSignsIn ++ signsInElsewhere)

/-- A note of a frame to a socket. -/
def Note.sendsTo (socket : Nat) (frame : Frame) : Note → Bool
  | .did _ happening => happening.1 = .send socket frame
  | .received _ _ _ _ _ => false

/-- The first connection is told to sign out by a request of the third. -/
theorem frames_routed_notice : ∃ now,
    (wild Prod.fst (chronicled ⟨id, []⟩)).run ((.initial, []), .initial) displaces = some now ∧
      now.1.2.any (Note.sendsTo 5 (reply "STO")) = true ∧ Throughout WellRouted now.1.2 := by
  have noticed : ((wild Prod.fst (chronicled ⟨id, []⟩)).run ((.initial, []), .initial)
      displaces).any (fun now => now.1.2.any (Note.sendsTo 5 (reply "STO"))) = true := by
    decide +kernel
  obtain ⟨now, ran, sends⟩ := (Option.any_eq_true _ _).mp noticed
  exact ⟨now, ran, sends, frames_routed _ _ now ran (by decide +kernel)⟩

end UubangIot
