import ChatPrompt.Proofs.Parting
import Mathlib.Data.List.Flatten

/-!
# What is generated before two runs part

A run over a smaller and one over a larger capacity have in common what they generate before they
part. The messages of a loop stay with it, since later items only add to them. Those of the item in
which the two runs part are given up with the item, which may happen later on in either run; so they
are counted here if both keep it.
-/

namespace ChatPrompt.Render

variable (env : Environment)

/-! ### The messages of a loop -/

/-- A loop only adds to the messages that it has when an item is kept. -/
theorem arranged_append (filling : Template.Filling) (groups : List (List Entry))
    (group : List Entry) :
    arranged filling (groups ++ [group]) =
      match filling with
      | .appending => arranged filling groups ++ group
      | .prepending => group ++ arranged filling groups := by
  cases filling <;> simp [arranged]

/-- More items only add messages. -/
theorem arranged_sublist (filling : Template.Filling) (groups more : List (List Entry)) :
    (arranged filling groups).Sublist (arranged filling (groups ++ more)) := by
  cases filling with
  | appending =>
    simp only [arranged]
    rw [List.flatten_append]
    exact List.sublist_append_left _ _
  | prepending =>
    simp only [arranged]
    rw [List.reverse_append, List.flatten_append]
    exact List.sublist_append_right _ _

/-- A kept item adds its messages, whether it has any or not. -/
theorem arranged_keep (filling : Template.Filling) (state : LoopState) (run : Step) :
    arranged filling (state.keep run).groups =
      match filling with
      | .appending => arranged filling state.groups ++ run.entries
      | .prepending => run.entries ++ arranged filling state.groups := by
  rw [LoopState.keep]
  by_cases hempty : run.entries = []
  · cases filling <;> simp [hempty]
  · simp only [List.isEmpty_iff, if_neg hempty]
    exact arranged_append filling state.groups run.entries

/-- Taking an item only adds to the groups of a loop. -/
theorem exists_groups_take (state : LoopState) (run : Step) :
    ∃ added, (state.take run).groups = state.groups ++ added := by
  rw [LoopState.take]
  split
  · exact ⟨[], (List.append_nil _).symm⟩
  · simp only [LoopState.keep]
    split
    · exact ⟨[], (List.append_nil _).symm⟩
    · exact ⟨_, rfl⟩

theorem exists_groups_takeItems (header : Blueprint.Loop) (own : Option Nat) (scope : Scope)
    (body : Scope → Ledger → Step) (items : List Json) (index : Nat) (state : LoopState) :
    ∃ more, (takeItems env header own scope body items index state).groups =
      state.groups ++ more := by
  induction items generalizing index state with
  | nil => exact ⟨[], (List.append_nil _).symm⟩
  | cons item rest ih =>
    obtain ⟨added, hadded⟩ := exists_groups_take state
      (itemRun env header scope body index item state)
    have hgoes : ∀ after : LoopState, after.groups = state.groups ++ added →
        ∃ more, (takeItems env header own scope body rest (index + 1) after).groups =
          state.groups ++ more := by
      intro after hafter
      obtain ⟨more, hmore⟩ := ih (index + 1) after
      exact ⟨added ++ more, by rw [hmore, hafter, List.append_assoc]⟩
    rw [takeItems_cons]
    split
    · exact hgoes _ hadded
    · split
      · exact ⟨added, hadded⟩
      · exact hgoes _ hadded

/-- After the first item, a loop only adds to the groups that it has then. -/
theorem exists_groups_takeItems_cons (header : Blueprint.Loop) (own : Option Nat)
    (scope : Scope) (body : Scope → Ledger → Step) (item : Json) (rest : List Json)
    (index : Nat) (state : LoopState) :
    ∃ more, (takeItems env header own scope body (item :: rest) index state).groups =
      (state.take (itemRun env header scope body index item state)).groups ++ more := by
  rw [takeItems_cons]
  split
  · exact exists_groups_takeItems env header own scope body rest (index + 1) _
  · split
    · exact ⟨[], (List.append_nil _).symm⟩
    · exact exists_groups_takeItems env header own scope body rest (index + 1)
        ((state.take (itemRun env header scope body index item state)).note own _)

/-- More messages of an item that is kept are more messages of the loop. -/
theorem arranged_sublist_take (filling : Template.Filling) (state : LoopState) {run : Step}
    (hkept : run.outcome.isRefused = false) {entries : List Entry}
    (h : entries.Sublist run.entries) :
    (arranged filling (state.groups ++ [entries])).Sublist
      (arranged filling (state.take run).groups) := by
  have htake : state.take run = state.keep run := by
    rw [LoopState.take, hkept, if_neg Bool.false_ne_true]
  rw [htake, arranged_keep, arranged_append]
  cases filling with
  | appending => exact (List.Sublist.refl _).append h
  | prepending => exact h.append (List.Sublist.refl _)

/-- The messages of an item are among those with the separator. -/
theorem entries_sublist_separate (header : Blueprint.Loop) (scope : Scope)
    (groups : List (List Entry)) (run : Step) :
    run.entries.Sublist (separate env header scope groups run).entries := by
  rw [separate]
  split
  · exact List.Sublist.refl _
  · cases separatorOf header scope groups run.entries with
    | none => exact List.Sublist.refl _
    | some separator =>
      dsimp only
      cases run.ledger.spend (env.cost separator) with
      | error refusal => exact List.Sublist.refl _
      | ok charged =>
        dsimp only
        cases header.filling with
        | appending => exact List.sublist_cons_self _ _
        | prepending => exact List.sublist_append_left _ _

/-- A message that is refused generates nothing. -/
theorem entries_say_of_refused (scope : Scope) (message : Blueprint.Message) {ledger : Ledger}
    {level : Nat} (h : (say env scope message ledger).outcome = .refused level) :
    (say env scope message ledger).entries = [] := by
  rw [say] at h ⊢
  cases htext : Text.contentful? (env.text scope message.content) with
  | none => rfl
  | some text =>
    rw [htext] at h
    dsimp only at h ⊢
    cases hspend : (ledger.openCap? message.budget).2.spend (env.estimate text) with
    | ok charged =>
      rw [hspend] at h
      cases h
    | error refusal =>
      dsimp only
      split <;> rfl

/-- What a loop has stays with it. -/
theorem arranged_sublist_takeItems (header : Blueprint.Loop) (own : Option Nat) (scope : Scope)
    (body : Scope → Ledger → Step) (items : List Json) (index : Nat) (state : LoopState) :
    (arranged header.filling state.groups).Sublist
      (arranged header.filling (takeItems env header own scope body items index state).groups) := by
  obtain ⟨more, hmore⟩ := exists_groups_takeItems env header own scope body items index state
  rw [hmore]
  exact arranged_sublist _ _ _

/-- What the first item says stays with the loop, if the item is kept. -/
theorem arranged_sublist_takeItems_cons (header : Blueprint.Loop) (own : Option Nat)
    (scope : Scope) (body : Scope → Ledger → Step) {item : Json} {index : Nat} {state : LoopState}
    (hkept : (itemRun env header scope body index item state).outcome.isRefused = false)
    {entries : List Entry}
    (h : entries.Sublist (body (itemScope scope index item) state.ledger).entries)
    (rest : List Json) :
    (arranged header.filling (state.groups ++ [entries])).Sublist (arranged header.filling
      (takeItems env header own scope body (item :: rest) index state).groups) := by
  obtain ⟨more, hmore⟩ := exists_groups_takeItems_cons env header own scope body item rest index
    state
  have hsaid : entries.Sublist (itemRun env header scope body index item state).entries :=
    h.trans (entries_sublist_separate env header _ _ _)
  rw [hmore]
  exact (arranged_sublist_take header.filling state hkept hsaid).trans (arranged_sublist _ _ _)

/-! ### What is generated before two runs part -/

variable (capacity : Tokens)

/-- The messages that the items of a loop generate before the runs over a ledger and over one with a
larger capacity part, given how an item is run, whether its runs part, and what it generates before
that. Of the item in which they part these count if both runs keep it. -/
def securedItems (header : Blueprint.Loop) (own : Option Nat) (scope : Scope)
    (body : Scope → Ledger → Step) (parts : Scope → Ledger → Bool)
    (secured : Scope → Ledger → List Entry) : List Json → Nat → LoopState → List (List Entry)
  | [], _, state => state.groups
  | item :: rest, index, state =>
    let inner := itemScope scope index item
    let run := itemRun env header scope body index item state
    let wide := itemRun env header scope body index item (state.widen capacity)
    if parts inner state.ledger || run.parts wide then
      if run.outcome.isRefused || wide.outcome.isRefused then state.groups
      else state.groups ++ [secured inner state.ledger]
    else
      match run.outcome.level? with
      | none => securedItems header own scope body parts secured rest (index + 1) (state.take run)
      | some level =>
        let noted := (state.take run).note own level
        if header.stopsWhenFull then noted.groups
        else securedItems header own scope body parts secured rest (index + 1) noted

mutual

/-- The messages that a node generates before the runs over a ledger and over one with a larger
capacity part. -/
def securedNode (scope : Scope) (atomic : Bool) : Blueprint.PlanNode → Ledger → List Entry
  | .message details, ledger => (say env scope details ledger).entries
  | .forEach header body, ledger =>
    arranged header.filling (securedItems env capacity header (ledger.openCap? header.budget).1
      scope (fun inner before => runNodes env inner true body before)
      (fun inner before => partsNodes env capacity inner true body before)
      (fun inner before => securedNodes inner true body before) (loopItems env scope header) 0
      (LoopState.start env header scope ledger))
  | .branch condition whenTrue whenFalse, ledger =>
    if env.holds scope condition then securedNodes scope atomic whenTrue ledger
    else securedNodes scope atomic whenFalse ledger

/-- The messages that nodes one after the other generate before the runs over a ledger and over one
with a larger capacity part. -/
def securedNodes (scope : Scope) (atomic : Bool) : List Blueprint.PlanNode → Ledger → List Entry
  | [], _ => []
  | node :: rest, ledger =>
    let run := runNode env scope atomic node ledger
    if partsNode env capacity scope atomic node ledger then securedNode scope atomic node ledger
    else if atomic && run.outcome.isRefused then run.entries
    else run.entries ++ securedNodes scope atomic rest run.ledger

end

/-- The messages that a slot generates before the runs over a ledger and over one with a larger
capacity part. -/
def securedSlot (slot : Blueprint.Slot) (ledger : Ledger) : List Entry :=
  if isWanted env slot then
    securedNodes env capacity env.root false slot.plan (ledger.openCap? slot.budget).2
  else []

variable {capacity}

/-- What the items of a loop generate before two runs part is in both loops, if the body runs in the
same way where its runs do not part, and what it generates before they part is in both of these. -/
theorem securedItems_sublist (header : Blueprint.Loop) (own : Option Nat) (scope : Scope)
    (body : Scope → Ledger → Step) (parts : Scope → Ledger → Bool)
    (secured : Scope → Ledger → List Entry)
    (hcharges : ∀ inner before, (body inner before).Charges env before)
    (hbody : ∀ inner before, before.capacity ≤ capacity → parts inner before = false →
      body inner (before.widen capacity) = (body inner before).widen capacity)
    (hsecured : ∀ inner before, before.capacity ≤ capacity →
      (secured inner before).Sublist (body inner before).entries ∧
        (secured inner before).Sublist (body inner (before.widen capacity)).entries)
    (items : List Json) (index : Nat) (state : LoopState)
    (hle : state.ledger.capacity ≤ capacity) :
    (arranged header.filling
        (securedItems env capacity header own scope body parts secured items index state)).Sublist
        (arranged header.filling
          (takeItems env header own scope body items index state).groups) ∧
      (arranged header.filling
        (securedItems env capacity header own scope body parts secured items index state)).Sublist
        (arranged header.filling
          (takeItems env header own scope body items index (state.widen capacity)).groups) := by
  induction items generalizing index state with
  | nil => exact ⟨List.Sublist.refl _, List.Sublist.refl _⟩
  | cons item rest ih =>
    rw [securedItems]
    dsimp only
    split
    · -- the two runs part at this item, and each goes on from what both have
      split
      · exact ⟨arranged_sublist_takeItems env header own scope body _ _ _,
          arranged_sublist_takeItems env header own scope body _ _ (state.widen capacity)⟩
      · next hkept =>
        obtain ⟨hsmall, hlarge⟩ := Bool.or_eq_false_iff.1 (Bool.eq_false_iff.2 hkept)
        obtain ⟨hfirst, hsecond⟩ := hsecured (itemScope scope index item) state.ledger hle
        exact ⟨arranged_sublist_takeItems_cons env header own scope body hsmall hfirst rest,
          arranged_sublist_takeItems_cons env header own scope body hlarge hsecond rest⟩
    · next hsame =>
      obtain ⟨hinner, houter⟩ := Bool.or_eq_false_iff.1 (Bool.eq_false_iff.2 hsame)
      have hwide := itemRun_widen env header scope body hcharges hle (hbody _ _ hle hinner) houter
      have htaken := capacity_take_le env
        (itemRun_charges env header scope body hcharges index item state) hle
      rw [takeItems_cons, takeItems_cons, hwide, Step.outcome_widen, take_widen]
      cases (itemRun env header scope body index item state).outcome.level? with
      | none => exact ih _ _ htaken
      | some level =>
        dsimp only
        by_cases hstops : header.stopsWhenFull = true
        · rw [if_pos hstops, if_pos hstops, if_pos hstops]
          exact ⟨List.Sublist.refl _, List.Sublist.refl _⟩
        · rw [if_neg hstops, if_neg hstops, if_neg hstops]
          exact ih (index + 1)
            ((state.take (itemRun env header scope body index item state)).note own level) htaken

/-- The messages of the first node are among those of all. -/
theorem entries_runNode_sublist (scope : Scope) (atomic : Bool) (node : Blueprint.PlanNode)
    (rest : List Blueprint.PlanNode) (ledger : Ledger) :
    (runNode env scope atomic node ledger).entries.Sublist
      (runNodes env scope atomic (node :: rest) ledger).entries := by
  rw [runNodes_cons]
  split
  · exact List.Sublist.refl _
  · exact List.sublist_append_left _ _

mutual

/-- What a node generates before two runs part is in both. -/
theorem securedNode_sublist (scope : Scope) (atomic : Bool) (node : Blueprint.PlanNode)
    {ledger : Ledger} (hle : ledger.capacity ≤ capacity) :
    (securedNode env capacity scope atomic node ledger).Sublist
        (runNode env scope atomic node ledger).entries ∧
      (securedNode env capacity scope atomic node ledger).Sublist
        (runNode env scope atomic node (ledger.widen capacity)).entries := by
  match node with
  | .message details =>
    rw [securedNode]
    refine ⟨List.Sublist.refl _, ?_⟩
    rw [runNode]
    cases hparts : (say env scope details ledger).parts
        (say env scope details (ledger.widen capacity)) with
    | false =>
      rw [say_widen env scope details hle hparts]
      exact List.Sublist.refl _
    | true =>
      have hrefused := eq_of_beq (Bool.and_eq_true_iff.1 hparts).1
      rw [entries_say_of_refused env scope details hrefused]
      exact List.nil_sublist _
  | .forEach header body =>
    have hopened := Ledger.capacity_openCap?_le hle header.budget
    have hitems := securedItems_sublist env header (ledger.openCap? header.budget).1 scope
      (fun inner before => runNodes env inner true body before)
      (fun inner before => partsNodes env capacity inner true body before)
      (fun inner before => securedNodes env capacity inner true body before)
      (fun inner before => runNodes_charges env inner true body before)
      (fun inner before hbefore hsame => runNodes_widen env inner true body hbefore hsame)
      (fun inner before hbefore => securedNodes_sublist inner true body hbefore)
      (loopItems env scope header) 0 (LoopState.start env header scope ledger) hopened
    rw [securedNode, runNode, runNode, runLoop_eq, runLoop_eq, start_widen, ledger.openCap?_widen]
    exact hitems
  | .branch condition whenTrue whenFalse =>
    unfold securedNode runNode
    by_cases hholds : env.holds scope condition = true
    · rw [if_pos hholds, if_pos hholds, if_pos hholds]
      exact securedNodes_sublist scope atomic whenTrue hle
    · rw [if_neg hholds, if_neg hholds, if_neg hholds]
      exact securedNodes_sublist scope atomic whenFalse hle

theorem securedNodes_sublist (scope : Scope) (atomic : Bool) (nodes : List Blueprint.PlanNode)
    {ledger : Ledger} (hle : ledger.capacity ≤ capacity) :
    (securedNodes env capacity scope atomic nodes ledger).Sublist
        (runNodes env scope atomic nodes ledger).entries ∧
      (securedNodes env capacity scope atomic nodes ledger).Sublist
        (runNodes env scope atomic nodes (ledger.widen capacity)).entries := by
  match nodes with
  | [] => exact ⟨List.Sublist.refl _, List.Sublist.refl _⟩
  | node :: rest =>
    rw [securedNodes]
    by_cases hparts : partsNode env capacity scope atomic node ledger = true
    · obtain ⟨hsmall, hlarge⟩ := securedNode_sublist scope atomic node hle
      rw [if_pos hparts]
      exact ⟨hsmall.trans (entries_runNode_sublist env scope atomic node rest ledger),
        hlarge.trans (entries_runNode_sublist env scope atomic node rest _)⟩
    · have hsame := runNode_widen env scope atomic node hle (Bool.eq_false_iff.2 hparts)
      have hledger := (runNode_charges env scope atomic node ledger).capacity_le env hle
      rw [if_neg hparts, runNodes_cons, runNodes_cons, hsame, Step.outcome_widen]
      by_cases hends : (atomic && (runNode env scope atomic node ledger).outcome.isRefused) = true
      · rw [if_pos hends, if_pos hends, if_pos hends]
        exact ⟨List.Sublist.refl _, List.Sublist.refl _⟩
      · obtain ⟨hsmall, hlarge⟩ := securedNodes_sublist scope atomic rest hledger
        rw [if_neg hends, if_neg hends, if_neg hends]
        exact ⟨(List.Sublist.refl _).append hsmall, (List.Sublist.refl _).append hlarge⟩

end

/-- What a slot generates before two runs part is in both. -/
theorem securedSlot_sublist (slot : Blueprint.Slot) {ledger : Ledger}
    (hle : ledger.capacity ≤ capacity) :
    (securedSlot env capacity slot ledger).Sublist (fillSlot env slot ledger).1.entries ∧
      (securedSlot env capacity slot ledger).Sublist
        (fillSlot env slot (ledger.widen capacity)).1.entries := by
  unfold securedSlot fillSlot
  by_cases hwanted : isWanted env slot = true
  · rw [if_pos hwanted, if_pos hwanted, if_pos hwanted, ledger.openCap?_widen]
    exact securedNodes_sublist env env.root false slot.plan
      (Ledger.capacity_openCap?_le hle slot.budget)
  · rw [if_neg hwanted, if_neg hwanted, if_neg hwanted]
    exact ⟨List.Sublist.refl _, List.Sublist.refl _⟩

end ChatPrompt.Render
