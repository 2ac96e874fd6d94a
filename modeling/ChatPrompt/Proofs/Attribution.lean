import ChatPrompt.Proofs.Counting
import ChatPrompt.Proofs.Declarations
import ChatPrompt.Proofs.Expansion
import ChatPrompt.Proofs.Tracing

/-!
# Which message a generated one comes from

A run is followed here once more, with each message that it generates attributed to the message of
the blueprint that it comes from; separators, headers and footers come from none. What the run
generates is what is attributed, so nothing is left out or added. A message of a plan that stands in
no loop is run at most once, whichever side a branch takes and wherever a refusal ends the run, and
each slot has one place. So the fixed keys of a prompt come from different messages of its
blueprint.
-/

namespace ChatPrompt.Render

open Blueprint (messagesOf VaryInLoops)

/-- Something, and the message of the blueprint that it comes from, if it comes from one. -/
structure Attributed (α : Type) where
  /-- The thing. -/
  value : α
  /-- The message. -/
  source : Option Blueprint.Message

namespace Attributed

variable {α β : Type}

/-- What is made of a thing comes from the same message. -/
def map (f : α → β) (attributed : Attributed α) : Attributed β :=
  ⟨f attributed.value, attributed.source⟩

/-- The messages that some things come from, in their order. -/
def sources (attributed : List (Attributed α)) : List Blueprint.Message :=
  attributed.filterMap source

@[simp] theorem sources_nil : sources ([] : List (Attributed α)) = [] := rfl

@[simp] theorem sources_append (before after : List (Attributed α)) :
    sources (before ++ after) = sources before ++ sources after := List.filterMap_append

@[simp] theorem sources_map (f : α → β) (attributed : List (Attributed α)) :
    sources (attributed.map (map f)) = sources attributed := List.filterMap_map

/-- Things that come from one message. -/
def allFrom (message : Blueprint.Message) (values : List α) : List (Attributed α) :=
  values.map fun value => ⟨value, some message⟩

/-- Things that come from no message. -/
def allFree (values : List α) : List (Attributed α) := values.map fun value => ⟨value, none⟩

@[simp] theorem map_value_allFrom (message : Blueprint.Message) (values : List α) :
    (allFrom message values).map value = values := by
  rw [allFrom, List.map_map]
  exact List.map_id _

@[simp] theorem map_value_allFree (values : List α) : (allFree values).map value = values := by
  rw [allFree, List.map_map]
  exact List.map_id _

@[simp] theorem sources_allFree (values : List α) : sources (allFree values) = [] := by
  rw [sources, allFree, List.filterMap_map, List.filterMap_eq_nil_iff]
  exact fun value _ => rfl

/-- A generated message comes from one of some messages and carries its key in some scope, or it
comes from none and carries no key. -/
def IsOf (messages : List Blueprint.Message) (attributed : Attributed Entry) : Prop :=
  attributed.source = none ∧ attributed.value.anchor = none ∨
    ∃ message ∈ messages, attributed.source = some message ∧
      ∃ scope, attributed.value.anchor = anchorKey scope message.anchor

theorem IsOf.mono {messages more : List Blueprint.Message} {attributed : Attributed Entry}
    (h : attributed.IsOf messages) (hsubset : messages ⊆ more) : attributed.IsOf more := by
  rcases h with hfree | ⟨message, hmessage, hsource⟩
  · exact .inl hfree
  · exact .inr ⟨message, hsubset hmessage, hsource⟩

/-- The message that something comes from is one of those that it may come from. -/
theorem IsOf.mem {messages : List Blueprint.Message} {attributed : Attributed Entry}
    (h : attributed.IsOf messages) {message : Blueprint.Message}
    (hsource : attributed.source = some message) : message ∈ messages := by
  rcases h with ⟨hnone, -⟩ | ⟨other, hother, hsome, -⟩
  · rw [hnone] at hsource
    cases hsource
  · obtain rfl := Option.some.inj (hsome.symm.trans hsource)
    exact hother

end Attributed

open Attributed

variable (env : Environment)

/-! ### Runs with attribution -/

/-- What an item of a loop adds, with the separator that is due. -/
def attributeGroup (header : Blueprint.Loop) (inner : Scope) (isFirst : Bool)
    (said : List (Attributed Entry)) : List (Attributed Entry) :=
  if said.isEmpty || isFirst then said
  else
    match header.filling with
    | .appending => allFree (separatorEntry header inner).toList ++ said
    | .prepending => said ++ allFree (separatorEntry header inner).toList

/-- What the items of a loop add, each in turn, given what they say. An item that is dropped adds
nothing. -/
def attributeItems (header : Blueprint.Loop) (own : Option Nat) (scope : Scope)
    (body : Scope → Ledger → Step) (inside : Scope → Ledger → List (Attributed Entry)) :
    List Json → Nat → LoopState → List (List (Attributed Entry))
  | [], _, _ => []
  | item :: rest, index, state =>
    let run := itemRun env header scope body index item state
    (if run.outcome.isRefused then []
      else attributeGroup header (itemScope scope index item) state.groups.isEmpty
        (inside (itemScope scope index item) state.ledger)) ::
      if header.stopsWhenFull && run.outcome.level?.isSome then []
      else attributeItems header own scope body inside rest (index + 1) (state.afterItem own run)

/-- What a loop says, put in the order of the loop. -/
def attributeLoop (filling : Template.Filling) (groups : List (List (Attributed Entry))) :
    List (Attributed Entry) :=
  match filling with
  | .appending => groups.flatten
  | .prepending => groups.reverse.flatten

mutual

/-- What a node of a plan says. -/
def attributeNode (scope : Scope) (atomic : Bool) :
    Blueprint.PlanNode → Ledger → List (Attributed Entry)
  | .message details, ledger => allFrom details (say env scope details ledger).entries
  | .forEach header body, ledger =>
    attributeLoop header.filling
      (attributeItems env header (ledger.openCap? header.budget).1 scope (bodyOf env body)
        (fun inner before => attributeNodes inner true body before) (loopItems env scope header) 0
        (LoopState.start env header scope ledger))
  | .branch condition whenTrue whenFalse, ledger =>
    if env.holds scope condition then attributeNodes scope atomic whenTrue ledger
    else attributeNodes scope atomic whenFalse ledger

/-- What the nodes of a plan say. -/
def attributeNodes (scope : Scope) (atomic : Bool) :
    List Blueprint.PlanNode → Ledger → List (Attributed Entry)
  | [], _ => []
  | node :: rest, ledger =>
    attributeNode scope atomic node ledger ++
      if atomic && (runNode env scope atomic node ledger).outcome.isRefused then []
      else attributeNodes scope atomic rest (runNode env scope atomic node ledger).ledger

end

/-! ### What is attributed is what is generated -/

/-- The group of an item with attribution is its full group. -/
theorem map_value_attributeGroup (header : Blueprint.Loop) (inner : Scope) (isFirst : Bool)
    (said : List (Attributed Entry)) :
    (attributeGroup header inner isFirst said).map value =
      fullGroup header inner isFirst (said.map value) := by
  rw [attributeGroup, fullGroup, List.isEmpty_map]
  split
  · rfl
  · rw [Group.joined]
    cases header.filling with
    | appending => cases separatorEntry header inner <;> simp [withSeparator]
    | prepending => cases separatorEntry header inner <;> simp [withSeparator]

/-- After an item a loop has one more group, if the item was kept and says something. -/
theorem groups_afterItem (state : LoopState) (own : Option Nat) (run : Step) :
    (state.afterItem own run).groups = state.groups ++
      [if run.outcome.isRefused then [] else run.entries].filter fun group => !group.isEmpty := by
  have htake : (state.afterItem own run).groups = (state.take run).groups :=
    congrArg Prod.snd (state.content_afterItem own run)
  rw [htake, LoopState.take]
  split
  · simp [LoopState.drop]
  · exact groups_keep state run

/-- After its items a loop has the groups that are attributed to them, if it is so with what is done
for an item. -/
theorem groups_takeItems_eq (header : Blueprint.Loop) (own : Option Nat) (scope : Scope)
    {body : Scope → Ledger → Step} {inside : Scope → Ledger → List (Attributed Entry)}
    (hbody : ∀ inner before, (inside inner before).map value = (body inner before).entries)
    (items : List Json) (index : Nat) (state : LoopState) :
    (takeItems env header own scope body items index state).groups = state.groups ++
      ((attributeItems env header own scope body inside items index state).map
        (List.map value)).filter fun group => !group.isEmpty := by
  induction items generalizing index state with
  | nil => simp [takeItems, attributeItems]
  | cons item rest ih =>
    have hitem : (if (itemRun env header scope body index item state).outcome.isRefused then []
          else attributeGroup header (itemScope scope index item) state.groups.isEmpty
            (inside (itemScope scope index item) state.ledger)).map value =
        if (itemRun env header scope body index item state).outcome.isRefused then []
          else (itemRun env header scope body index item state).entries := by
      split
      · rfl
      · next hkept =>
        rw [map_value_attributeGroup, hbody]
        exact (entries_separate (Bool.eq_false_iff.2 hkept)).symm
    have hafter := groups_afterItem state own (itemRun env header scope body index item state)
    rw [takeItems_cons_eq, attributeItems, List.map_cons, hitem, ← List.singleton_append,
      List.filter_append, ← List.append_assoc, ← hafter]
    split
    · simp [LoopState.stop]
    · exact ih (index + 1) _

/-- The messages of a loop are those of its groups, whether the silent ones are among them or
not. -/
theorem arranged_filter (filling : Template.Filling) (groups : List (List Entry)) :
    arranged filling (groups.filter fun group => !group.isEmpty) = arranged filling groups := by
  cases filling with
  | appending => exact List.flatten_filter_not_isEmpty
  | prepending =>
    rw [arranged, arranged, ← List.filter_reverse]
    exact List.flatten_filter_not_isEmpty

/-- What a loop says is what its groups say. -/
theorem map_value_attributeLoop (filling : Template.Filling)
    (groups : List (List (Attributed Entry))) :
    (attributeLoop filling groups).map value = arranged filling (groups.map (List.map value)) := by
  cases filling with
  | appending => exact List.map_flatten
  | prepending =>
    rw [attributeLoop, arranged, List.map_flatten, List.map_reverse]

mutual

/-- What is attributed in the run of a node is what the node generates. -/
theorem map_value_attributeNode (scope : Scope) (atomic : Bool) (node : Blueprint.PlanNode)
    (ledger : Ledger) :
    (attributeNode env scope atomic node ledger).map value =
      (runNode env scope atomic node ledger).entries := by
  match node with
  | .message details =>
    rw [attributeNode, runNode, map_value_allFrom]
  | .forEach header body =>
    have hgroups := groups_takeItems_eq env header (ledger.openCap? header.budget).1 scope
      (fun inner before => map_value_attributeNodes inner true body before)
      (loopItems env scope header) 0 (LoopState.start env header scope ledger)
    rw [attributeNode, runNode, runLoop_eq, map_value_attributeLoop, ← arranged_filter]
    exact congrArg (arranged header.filling) hgroups.symm
  | .branch condition whenTrue whenFalse =>
    rw [attributeNode, runNode]
    split
    · exact map_value_attributeNodes scope atomic whenTrue ledger
    · exact map_value_attributeNodes scope atomic whenFalse ledger

/-- What is attributed in the run of some nodes is what the nodes generate. -/
theorem map_value_attributeNodes (scope : Scope) (atomic : Bool) (nodes : List Blueprint.PlanNode)
    (ledger : Ledger) :
    (attributeNodes env scope atomic nodes ledger).map value =
      (runNodes env scope atomic nodes ledger).entries := by
  match nodes with
  | [] =>
    rw [attributeNodes, runNodes]
    rfl
  | node :: rest =>
    have hnode := map_value_attributeNode scope atomic node ledger
    rw [attributeNodes, runNodes_cons, List.map_append, hnode]
    split
    · exact List.append_nil _
    · rw [map_value_attributeNodes scope atomic rest]
      rfl

end

/-! ### Where what is attributed comes from -/

/-- A message of a plan generates what it says, or nothing. -/
theorem entries_say_sublist (scope : Scope) (message : Blueprint.Message) (ledger : Ledger) :
    (say env scope message ledger).entries.Sublist (messageEntries env scope message) := by
  rw [say, messageEntries]
  cases Text.contentful? (env.text scope message.content) with
  | none => exact .refl _
  | some text =>
    dsimp only
    split
    · exact .refl _
    · split <;> exact List.nil_sublist _

/-- A message of a plan generates at most one message. -/
theorem length_entries_say_le (scope : Scope) (message : Blueprint.Message) (ledger : Ledger) :
    (say env scope message ledger).entries.length ≤ 1 := by
  refine (entries_say_sublist env scope message ledger).length_le.trans ?_
  rw [messageEntries, List.length_map]
  exact Option.length_toList_le

/-- What a message of a plan generates carries its key. -/
theorem anchor_of_mem_say {scope : Scope} {message : Blueprint.Message} {ledger : Ledger}
    {entry : Entry} (h : entry ∈ (say env scope message ledger).entries) :
    entry.anchor = anchorKey scope message.anchor := by
  obtain ⟨text, -, rfl⟩ :=
    List.mem_map.1 ((entries_say_sublist env scope message ledger).subset h)
  rfl

/-- What a group adds besides what an item says comes from no message. -/
theorem isOf_attributeGroup {messages : List Blueprint.Message} (header : Blueprint.Loop)
    (inner : Scope) (isFirst : Bool) {said : List (Attributed Entry)}
    (h : ∀ attributed ∈ said, attributed.IsOf messages) :
    ∀ attributed ∈ attributeGroup header inner isFirst said, attributed.IsOf messages := by
  have hfree : ∀ attributed ∈ allFree (separatorEntry header inner).toList,
      attributed.IsOf messages := by
    intro attributed hattributed
    obtain ⟨separator, hseparator, rfl⟩ := List.mem_map.1 hattributed
    obtain ⟨frame, -, hframe⟩ := Option.bind_eq_some_iff.1 (Option.mem_toList.1 hseparator)
    obtain ⟨text, -, rfl⟩ := Option.map_eq_some_iff.1 hframe
    exact .inl ⟨rfl, rfl⟩
  rw [attributeGroup]
  split
  · exact h
  · cases header.filling with
    | appending => exact List.forall_mem_append.2 ⟨hfree, h⟩
    | prepending => exact List.forall_mem_append.2 ⟨h, hfree⟩

/-- What the items of a loop say comes from what comes from its body. -/
theorem isOf_attributeItems {messages : List Blueprint.Message} (header : Blueprint.Loop)
    (own : Option Nat) (scope : Scope) (body : Scope → Ledger → Step)
    {inside : Scope → Ledger → List (Attributed Entry)}
    (h : ∀ inner before, ∀ attributed ∈ inside inner before, attributed.IsOf messages)
    (items : List Json) (index : Nat) (state : LoopState) :
    ∀ group ∈ attributeItems env header own scope body inside items index state,
      ∀ attributed ∈ group, attributed.IsOf messages := by
  induction items generalizing index state with
  | nil => exact List.forall_mem_nil _
  | cons item rest ih =>
    rw [attributeItems]
    refine List.forall_mem_cons.2 ⟨?_, ?_⟩
    · split
      · exact List.forall_mem_nil _
      · exact isOf_attributeGroup header _ _ (h _ _)
    · split
      · exact List.forall_mem_nil _
      · exact ih (index + 1) _

/-- What a loop says stands in one of its groups. -/
theorem exists_of_mem_attributeLoop {filling : Template.Filling}
    {groups : List (List (Attributed Entry))} {attributed : Attributed Entry}
    (h : attributed ∈ attributeLoop filling groups) : ∃ group ∈ groups, attributed ∈ group := by
  cases filling with
  | appending => exact List.mem_flatten.1 h
  | prepending => simpa [attributeLoop] using h

mutual

/-- What a node of a plan says comes from the messages of the node. -/
theorem isOf_attributeNode (scope : Scope) (atomic : Bool) (node : Blueprint.PlanNode)
    (ledger : Ledger) : ∀ attributed ∈ attributeNode env scope atomic node ledger,
      attributed.IsOf node.messages := by
  match node with
  | .message details =>
    intro attributed hattributed
    rw [attributeNode] at hattributed
    obtain ⟨entry, hentry, rfl⟩ := List.mem_map.1 hattributed
    exact .inr ⟨details, List.mem_singleton.2 rfl, rfl, scope, anchor_of_mem_say env hentry⟩
  | .forEach header body =>
    have hgroups := isOf_attributeItems env header (ledger.openCap? header.budget).1 scope
      (bodyOf env body) (fun inner before => isOf_attributeNodes inner true body before)
      (loopItems env scope header) 0 (LoopState.start env header scope ledger)
    intro attributed hattributed
    rw [attributeNode] at hattributed
    obtain ⟨group, hgroup, hin⟩ := exists_of_mem_attributeLoop hattributed
    exact hgroups group hgroup attributed hin
  | .branch condition whenTrue whenFalse =>
    intro attributed hattributed
    rw [attributeNode] at hattributed
    split at hattributed
    · exact (isOf_attributeNodes scope atomic whenTrue ledger attributed hattributed).mono
        (List.subset_append_left _ _)
    · exact (isOf_attributeNodes scope atomic whenFalse ledger attributed hattributed).mono
        (List.subset_append_right _ _)

/-- What some nodes of a plan say comes from the messages of the nodes. -/
theorem isOf_attributeNodes (scope : Scope) (atomic : Bool) (nodes : List Blueprint.PlanNode)
    (ledger : Ledger) : ∀ attributed ∈ attributeNodes env scope atomic nodes ledger,
      attributed.IsOf (messagesOf nodes) := by
  match nodes with
  | [] =>
    rw [attributeNodes]
    exact List.forall_mem_nil _
  | node :: rest =>
    intro attributed hattributed
    rw [attributeNodes] at hattributed
    rcases List.mem_append.1 hattributed with hfirst | hlater
    · exact (isOf_attributeNode scope atomic node ledger attributed hfirst).mono
        (List.subset_append_left _ _)
    · split at hlater
      · cases hlater
      · exact (isOf_attributeNodes scope atomic rest _ attributed hlater).mono
          (List.subset_append_right _ _)

end

/-! ### Fixed keys in a run -/

/-- The messages with fixed keys among those that some things come from. -/
def fixedSources {α : Type} (attributed : List (Attributed α)) : List Blueprint.Message :=
  (sources attributed).filter Blueprint.Message.isFixed

/-- What comes from messages without fixed keys comes from none that has one. -/
theorem fixedSources_eq_nil {messages : List Blueprint.Message}
    (hvary : ∀ message ∈ messages, message.fixedKey? = none)
    {attributed : List (Attributed Entry)}
    (h : ∀ one ∈ attributed, one.IsOf messages) : fixedSources attributed = [] := by
  refine List.filter_eq_nil_iff.2 fun message hmessage => ?_
  obtain ⟨one, hone, hsource⟩ := List.mem_filterMap.1 hmessage
  rw [Blueprint.Message.isFixed, hvary message ((h one hone).mem hsource)]
  exact Bool.false_ne_true

mutual

/-- A message with a fixed key is run at most once in a run of a node, if none is in a loop. -/
theorem fixedSources_attributeNode_sublist (scope : Scope) (atomic : Bool)
    {node : Blueprint.PlanNode} (h : node.VariesInLoops) (ledger : Ledger) :
    (fixedSources (attributeNode env scope atomic node ledger)).Sublist
      (node.messages.filter Blueprint.Message.isFixed) := by
  match node with
  | .message details =>
    rw [attributeNode]
    refine List.Sublist.filter _ ?_
    match (say env scope details ledger).entries,
        length_entries_say_le env scope details ledger with
    | [], _ => exact List.nil_sublist _
    | [entry], _ => exact .refl _
  | .forEach header body =>
    have hnone := fixedSources_eq_nil h
      (isOf_attributeNode env scope atomic (.forEach header body) ledger)
    rw [hnone]
    exact List.nil_sublist _
  | .branch condition whenTrue whenFalse =>
    obtain ⟨htrue, hfalse⟩ := h
    rw [attributeNode, Blueprint.PlanNode.messages, List.filter_append]
    split
    · exact (fixedSources_attributeNodes_sublist scope atomic htrue ledger).trans
        (List.sublist_append_left _ _)
    · exact (fixedSources_attributeNodes_sublist scope atomic hfalse ledger).trans
        (List.sublist_append_right _ _)

/-- A message with a fixed key is run at most once in a run of some nodes, if none is in a loop. -/
theorem fixedSources_attributeNodes_sublist (scope : Scope) (atomic : Bool)
    {nodes : List Blueprint.PlanNode} (h : VaryInLoops nodes) (ledger : Ledger) :
    (fixedSources (attributeNodes env scope atomic nodes ledger)).Sublist
      ((messagesOf nodes).filter Blueprint.Message.isFixed) := by
  match nodes with
  | [] =>
    rw [attributeNodes]
    exact List.nil_sublist _
  | node :: rest =>
    obtain ⟨hnode, hrest⟩ := h
    rw [attributeNodes, fixedSources, sources_append, List.filter_append, messagesOf,
      List.filter_append]
    refine (fixedSources_attributeNode_sublist scope atomic hnode ledger).append ?_
    split
    · exact List.nil_sublist _
    · exact fixedSources_attributeNodes_sublist scope atomic hrest _

end

end ChatPrompt.Render
