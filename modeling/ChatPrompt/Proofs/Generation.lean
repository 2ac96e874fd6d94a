import ChatPrompt.Proofs.Stages

/-!
# Slots generate what their plans say

What a plan can generate is said here without a ledger: a message of the plan in the scope in which
it stands, that of an item inside a loop, or a separator. What a run of the plan leaves behind is
among it, whatever was refused or given back and in whatever order loops put their items. So a
generated message still carries the key that was rendered beside it.
-/

namespace ChatPrompt.Render

variable (env : Environment)

/-- A plan can generate an entry in a scope. -/
inductive Generates : Scope → List Blueprint.PlanNode → Entry → Prop where
  /-- A message that is not blank, with the key that is rendered in its scope. -/
  | message {scope : Scope} {nodes : List Blueprint.PlanNode} {details : Blueprint.Message}
    (hnode : .message details ∈ nodes)
    (htext : Text.isBlankText (env.text scope details.content) = false) :
    Generates scope nodes
      ⟨Message.of details.role (env.text scope details.content), anchorKey scope details.anchor⟩
  /-- What the side of a branch generates that the condition chooses. -/
  | branch {scope : Scope} {nodes whenTrue whenFalse : List Blueprint.PlanNode}
    {condition : Blueprint.Condition} {entry : Entry}
    (hnode : .branch condition whenTrue whenFalse ∈ nodes)
    (hentry : Generates scope (if env.holds scope condition then whenTrue else whenFalse) entry) :
    Generates scope nodes entry
  /-- What a loop generates for an item, in the scope of the item. -/
  | item {scope : Scope} {nodes body : List Blueprint.PlanNode} {header : Blueprint.Loop}
    {index : Nat} {item : Json} {entry : Entry} (hnode : .forEach header body ∈ nodes)
    (hitem : (loopItems env scope header)[index]? = some item)
    (hentry : Generates (itemScope scope index item) body entry) : Generates scope nodes entry
  /-- The separator of an item, which carries no key. -/
  | separator {scope : Scope} {nodes body : List Blueprint.PlanNode} {header : Blueprint.Loop}
    {index : Nat} {item : Json} {frame : Blueprint.Frame} (hnode : .forEach header body ∈ nodes)
    (hitem : (loopItems env scope header)[index]? = some item)
    (hframe : header.separator = some frame)
    (htext : Text.isBlankText (frame.content.render (itemScope scope index item)) = false) :
    Generates scope nodes
      ⟨Message.of frame.role (frame.content.render (itemScope scope index item)), none⟩

variable {env}

/-- A larger plan can generate no less. -/
theorem Generates.mono {scope : Scope} {nodes more : List Blueprint.PlanNode} {entry : Entry}
    (h : Generates env scope nodes entry) (hsubset : nodes ⊆ more) :
    Generates env scope more entry := by
  cases h with
  | message hnode htext => exact .message (hsubset hnode) htext
  | branch hnode hentry => exact .branch (hsubset hnode) hentry
  | item hnode hitem hentry => exact .item (hsubset hnode) hitem hentry
  | separator hnode hitem hframe htext =>
    exact .separator (hsubset hnode) hitem hframe htext

/-- A generated message is complete. -/
theorem Generates.openEnded {scope : Scope} {nodes : List Blueprint.PlanNode} {entry : Entry}
    (h : Generates env scope nodes entry) : entry.message.openEnded = false := by
  induction h with
  | message _ _ => rfl
  | branch _ _ ih => exact ih
  | item _ _ _ ih => exact ih
  | separator _ _ _ _ => rfl

/-- A key that is rendered is not blank. -/
theorem isBlankText_anchorKey {scope : Scope} {anchor : Option Leaf} {key : String}
    (h : anchorKey scope anchor = some key) : Text.isBlankText key = false := by
  obtain ⟨leaf, -, hkey⟩ := Option.bind_eq_some_iff.1 h
  obtain ⟨rfl, hblank⟩ := (Text.contentful?_eq_some_iff _ _).1 hkey
  exact hblank

/-- The key of a generated message is not blank. -/
theorem Generates.isBlankText_key {scope : Scope} {nodes : List Blueprint.PlanNode}
    {entry : Entry} (h : Generates env scope nodes entry) {key : String}
    (hkey : entry.anchor = some key) : Text.isBlankText key = false := by
  induction h with
  | message _ _ => exact isBlankText_anchorKey hkey
  | branch _ _ ih => exact ih hkey
  | item _ _ _ ih => exact ih hkey
  | separator _ _ _ _ => cases hkey

/-- A message of a plan leaves behind itself or nothing. -/
theorem say_generates (scope : Scope) (details : Blueprint.Message) (ledger : Ledger) :
    ∀ entry ∈ (say env scope details ledger).entries,
      Generates env scope [.message details] entry := by
  intro entry hentry
  rw [say] at hentry
  split at hentry
  · cases hentry
  · next text htext =>
    obtain ⟨rfl, hblank⟩ := (Text.contentful?_eq_some_iff _ _).1 htext
    dsimp only at hentry
    split at hentry
    · rw [List.mem_singleton.1 hentry]
      exact .message List.mem_cons_self hblank
    · split at hentry
      · cases hentry
      · cases hentry

/-- A separator that is due is the one of the loop, in the scope of the item. -/
theorem separatorOf_eq_some {header : Blueprint.Loop} {scope : Scope}
    {groups : List (List Entry)} {group : List Entry} {message : Message}
    (h : separatorOf header scope groups group = some message) :
    ∃ frame, header.separator = some frame ∧
      Text.isBlankText (frame.content.render scope) = false ∧
      message = Message.of frame.role (frame.content.render scope) := by
  rw [separatorOf] at h
  split at h
  · cases h
  · obtain ⟨frame, hframe, htext⟩ := Option.bind_eq_some_iff.1 h
    obtain ⟨text, hcontent, rfl⟩ := Option.map_eq_some_iff.1 htext
    obtain ⟨rfl, hblank⟩ := (Text.contentful?_eq_some_iff _ _).1 hcontent
    exact ⟨frame, hframe, hblank, rfl⟩

/-- The messages of an item with its separator are the messages and the separator. -/
theorem mem_withSeparator {filling : Template.Filling} {separator entry : Entry}
    {group : List Entry} (h : entry ∈ withSeparator filling separator group) :
    entry = separator ∨ entry ∈ group := by
  cases filling with
  | appending => exact List.mem_cons.1 h
  | prepending =>
    rcases List.mem_append.1 h with hin | hlast
    · exact .inr hin
    · exact .inl (List.mem_singleton.1 hlast)

/-- An item leaves behind what its body does, and its separator. -/
theorem itemRun_generates {header : Blueprint.Loop} {scope : Scope}
    {nodes : List Blueprint.PlanNode} {body : Scope → Ledger → Step}
    (hbody : ∀ inner before, ∀ entry ∈ (body inner before).entries,
      Generates env inner nodes entry) {index : Nat} {item : Json} (state : LoopState)
    (hitem : (loopItems env scope header)[index]? = some item) :
    ∀ entry ∈ (itemRun env header scope body index item state).entries,
      Generates env scope [.forEach header nodes] entry := by
  intro entry hentry
  have hinside : entry ∈ (body (itemScope scope index item) state.ledger).entries →
      Generates env scope [.forEach header nodes] entry :=
    fun hin => .item List.mem_cons_self hitem (hbody _ _ _ hin)
  rw [itemRun, separate] at hentry
  split at hentry
  · exact hinside hentry
  · split at hentry
    · exact hinside hentry
    · next separator hseparator =>
      split at hentry
      · obtain ⟨frame, hframe, hblank, rfl⟩ := separatorOf_eq_some hseparator
        rcases mem_withSeparator hentry with rfl | hin
        · exact .separator List.mem_cons_self hitem hframe hblank
        · exact hinside hin
      · exact hinside hentry

/-- A loop that takes an item has the messages that it had, and those of the item. -/
theorem mem_groups_take {state : LoopState} {run : Step} {entry : Entry}
    (h : entry ∈ (state.take run).groups.flatten) :
    entry ∈ state.groups.flatten ∨ entry ∈ run.entries := by
  rw [LoopState.take] at h
  split at h
  · exact .inl h
  · rw [LoopState.keep] at h
    dsimp only at h
    split at h
    · exact .inl h
    · simpa using h

/-- The items of a loop one after the other leave behind what the loop can generate. -/
theorem takeItems_generates {header : Blueprint.Loop} (own : Option Nat) {scope : Scope}
    {nodes : List Blueprint.PlanNode} {body : Scope → Ledger → Step}
    (hbody : ∀ inner before, ∀ entry ∈ (body inner before).entries,
      Generates env inner nodes entry) {items : List Json} {index : Nat} {state : LoopState}
    (hitems : (loopItems env scope header).drop index = items)
    (hstate : ∀ entry ∈ state.groups.flatten, Generates env scope [.forEach header nodes] entry) :
    ∀ entry ∈ (takeItems env header own scope body items index state).groups.flatten,
      Generates env scope [.forEach header nodes] entry := by
  induction items generalizing index state with
  | nil => exact hstate
  | cons item rest ih =>
    have hitem : (loopItems env scope header)[index]? = some item := by
      rw [← List.head?_drop, hitems]
      rfl
    have hrest : (loopItems env scope header).drop (index + 1) = rest := by
      rw [← List.tail_drop, hitems]
      rfl
    have htaken : ∀ entry ∈ (state.take
        (itemRun env header scope body index item state)).groups.flatten,
          Generates env scope [.forEach header nodes] entry := by
      intro entry hentry
      rcases mem_groups_take hentry with hin | hnew
      · exact hstate entry hin
      · exact itemRun_generates hbody state hitem entry hnew
    rw [takeItems_cons]
    split
    · exact ih hrest htaken
    · -- what is noted or given up is counted, and does not touch the messages
      split
      · exact htaken
      · exact ih hrest htaken

/-- Loops put the messages of their items, and no others. -/
theorem mem_groups_of_arranged {filling : Template.Filling} {groups : List (List Entry)}
    {entry : Entry} (h : entry ∈ arranged filling groups) : entry ∈ groups.flatten := by
  cases filling with
  | appending => exact h
  | prepending => simpa [arranged] using h

/-- A loop leaves behind what it can generate, in whatever order it puts its items. -/
theorem runLoop_generates {header : Blueprint.Loop} {scope : Scope}
    {nodes : List Blueprint.PlanNode} {body : Scope → Ledger → Step}
    (hbody : ∀ inner before, ∀ entry ∈ (body inner before).entries,
      Generates env inner nodes entry) (ledger : Ledger) :
    ∀ entry ∈ (runLoop env header scope body ledger).entries,
      Generates env scope [.forEach header nodes] entry := by
  have hstart : ∀ entry ∈ (LoopState.start env header scope ledger).groups.flatten,
      Generates env scope [.forEach header nodes] entry := by simp [LoopState.start]
  have hlast := takeItems_generates (ledger.openCap? header.budget).1 hbody List.drop_zero hstart
  intro entry hentry
  exact hlast entry (mem_groups_of_arranged hentry)

mutual

/-- A node of a plan leaves behind what it can generate. -/
theorem runNode_generates (scope : Scope) (atomic : Bool) (node : Blueprint.PlanNode)
    (ledger : Ledger) : ∀ entry ∈ (runNode env scope atomic node ledger).entries,
      Generates env scope [node] entry := by
  match node with
  | .message details => exact say_generates scope details ledger
  | .forEach header body =>
    rw [runNode]
    exact runLoop_generates (fun inner before => runNodes_generates inner true body before) ledger
  | .branch condition whenTrue whenFalse =>
    intro entry hentry
    refine .branch List.mem_cons_self ?_
    rw [runNode] at hentry
    split at hentry
    · next hholds =>
      rw [if_pos hholds]
      exact runNodes_generates scope atomic whenTrue ledger entry hentry
    · next hfails =>
      rw [if_neg hfails]
      exact runNodes_generates scope atomic whenFalse ledger entry hentry

theorem runNodes_generates (scope : Scope) (atomic : Bool) (nodes : List Blueprint.PlanNode)
    (ledger : Ledger) : ∀ entry ∈ (runNodes env scope atomic nodes ledger).entries,
      Generates env scope nodes entry := by
  match nodes with
  | [] =>
    intro entry hentry
    cases hentry
  | node :: rest =>
    have hfirst : ∀ entry ∈ (runNode env scope atomic node ledger).entries,
        Generates env scope (node :: rest) entry := fun entry hentry =>
      (runNode_generates scope atomic node ledger entry hentry).mono (by simp)
    intro entry hentry
    rw [runNodes_cons] at hentry
    split at hentry
    · exact hfirst entry hentry
    · rcases List.mem_append.1 hentry with hin | hlater
      · exact hfirst entry hin
      · exact (runNodes_generates scope atomic rest _ entry hlater).mono
          (List.subset_cons_self _ _)

end

/-- A slot is filled with what its plan can generate. -/
theorem fillSlot_generates (slot : Blueprint.Slot) (ledger : Ledger) :
    ∀ entry ∈ (fillSlot env slot ledger).1.entries, Generates env env.root slot.plan entry := by
  rw [fillSlot]
  split
  · exact runNodes_generates env.root false slot.plan _
  · intro entry hentry
    cases hentry

/-- Each buffer is filled with what the plan of its slot can generate. -/
theorem fillSlots_generates (blueprint : Blueprint) (prepared : PreparedLayout)
    (order : List Nat) (ledger : Ledger) :
    ∀ buffer ∈ (fillSlots env blueprint prepared order ledger).1,
      ∃ slot, blueprint.slots[buffer.1]? = some slot ∧
        ∀ entry ∈ buffer.2.entries, Generates env env.root slot.plan entry := by
  induction order generalizing ledger with
  | nil =>
    intro buffer hbuffer
    cases hbuffer
  | cons number rest ih =>
    cases hslot : blueprint.slots[number]? with
    | none =>
      rw [fillSlots_cons_of_none env hslot]
      exact ih ledger
    | some slot =>
      rw [fillSlots_cons env hslot]
      intro buffer hbuffer
      rcases List.mem_cons.1 hbuffer with rfl | hlater
      · exact ⟨slot, hslot, fillSlot_generates slot ledger⟩
      · exact ih _ buffer hlater

/-- What a number is filled with, the plan of the slot of that number can generate. -/
theorem Setup.fill_generates (setup : Setup) {number : Nat} {entry : Entry}
    (hentry : entry ∈ setup.fill number) :
    ∃ slot, setup.blueprint.slots[number]? = some slot ∧
      Generates setup.env setup.env.root slot.plan entry := by
  rw [fill, Buffers.fill] at hentry
  cases hlookup : setup.filled.1.lookup number with
  | none =>
    rw [hlookup] at hentry
    cases hentry
  | some buffer =>
    rw [hlookup] at hentry
    obtain ⟨slot, hslot, hentries⟩ := fillSlots_generates setup.blueprint setup.prepared
      setup.blueprint.order setup.reserved (number, buffer) (Keyed.mem_of_lookup hlookup)
    exact ⟨slot, hslot, hentries entry hentry⟩

end ChatPrompt.Render
