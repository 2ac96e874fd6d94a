import ChatPrompt.Proofs.Widening

/-!
# Where two runs part

A run over a smaller capacity and one over a larger capacity make the same choices until the whole
render refuses a charge in the first and not in the second, be it of a message or of a separator,
and whatever becomes of the refusal: in an item that is given up for another reason it is passed on
to nobody. There they part. Refusals of caps do not depend on the capacity, so where two runs do not
part, they are the same.
-/

namespace ChatPrompt.Render

variable (env : Environment) (capacity : Tokens)

/-- Whether the runs of the items of a loop over a ledger and over one with a larger capacity part,
given how an item is run and whether its runs part. -/
def partsItems (header : Blueprint.Loop) (own : Option Nat) (scope : Scope)
    (body : Scope → Ledger → Step) (parts : Scope → Ledger → Bool) :
    List Json → Nat → LoopState → Bool
  | [], _, _ => false
  | item :: rest, index, state =>
    let run := itemRun env header scope body index item state
    parts (itemScope scope index item) state.ledger ||
      run.parts (itemRun env header scope body index item (state.widen capacity)) ||
      match run.outcome.level? with
      | none => partsItems header own scope body parts rest (index + 1) (state.take run)
      | some level => !header.stopsWhenFull &&
          partsItems header own scope body parts rest (index + 1) ((state.take run).note own level)

mutual

/-- Whether the runs of a node over a ledger and over one with a larger capacity part. -/
def partsNode (scope : Scope) (atomic : Bool) : Blueprint.PlanNode → Ledger → Bool
  | .message details, ledger =>
    (say env scope details ledger).parts (say env scope details (ledger.widen capacity))
  | .forEach header body, ledger =>
    partsItems env capacity header (ledger.openCap? header.budget).1 scope
      (fun inner before => runNodes env inner true body before)
      (fun inner before => partsNodes inner true body before) (loopItems env scope header) 0
      (LoopState.start env header scope ledger)
  | .branch condition whenTrue whenFalse, ledger =>
    if env.holds scope condition then partsNodes scope atomic whenTrue ledger
    else partsNodes scope atomic whenFalse ledger

/-- Whether the runs of nodes one after the other over a ledger and over one with a larger capacity
part. -/
def partsNodes (scope : Scope) (atomic : Bool) : List Blueprint.PlanNode → Ledger → Bool
  | [], _ => false
  | node :: rest, ledger =>
    partsNode scope atomic node ledger ||
      (!(atomic && (runNode env scope atomic node ledger).outcome.isRefused) &&
        partsNodes scope atomic rest (runNode env scope atomic node ledger).ledger)

end

variable {capacity}

/-- The run of an item is the same over a larger capacity, unless the two part in it or at its
separator. -/
theorem itemRun_widen (header : Blueprint.Loop) (scope : Scope) (body : Scope → Ledger → Step)
    (hcharges : ∀ inner before, (body inner before).Charges env before) {index : Nat} {item : Json}
    {state : LoopState} (hle : state.ledger.capacity ≤ capacity)
    (hbody : body (itemScope scope index item) (state.ledger.widen capacity) =
      (body (itemScope scope index item) state.ledger).widen capacity)
    (h : (itemRun env header scope body index item state).parts
      (itemRun env header scope body index item (state.widen capacity)) = false) :
    itemRun env header scope body index item (state.widen capacity) =
      (itemRun env header scope body index item state).widen capacity := by
  have hledger := (hcharges (itemScope scope index item) state.ledger).capacity_le env hle
  have hwide : itemRun env header scope body index item (state.widen capacity) =
      separate env header (itemScope scope index item) state.groups
        ((body (itemScope scope index item) state.ledger).widen capacity) :=
    congrArg (separate env header _ state.groups) hbody
  rw [hwide] at h ⊢
  exact separate_widen env header _ _ hledger h

/-- The items of a loop are taken in the same way over a larger capacity, unless the two runs part,
if the body runs in the same way where its runs do not part. -/
theorem takeItems_widen (header : Blueprint.Loop) (own : Option Nat) (scope : Scope)
    (body : Scope → Ledger → Step) (parts : Scope → Ledger → Bool)
    (hcharges : ∀ inner before, (body inner before).Charges env before)
    (hbody : ∀ inner before, before.capacity ≤ capacity → parts inner before = false →
      body inner (before.widen capacity) = (body inner before).widen capacity)
    (items : List Json) (index : Nat) (state : LoopState)
    (hle : state.ledger.capacity ≤ capacity)
    (h : partsItems env capacity header own scope body parts items index state = false) :
    takeItems env header own scope body items index (state.widen capacity) =
      (takeItems env header own scope body items index state).widen capacity := by
  induction items generalizing index state with
  | nil => rfl
  | cons item rest ih =>
    rw [partsItems] at h
    obtain ⟨hhere, hrest⟩ := Bool.or_eq_false_iff.1 h
    obtain ⟨hinner, houter⟩ := Bool.or_eq_false_iff.1 hhere
    have hwide := itemRun_widen env header scope body hcharges hle (hbody _ _ hle hinner) houter
    have htaken := capacity_take_le env
      (itemRun_charges env header scope body hcharges index item state) hle
    rw [takeItems_cons, takeItems_cons, hwide, Step.outcome_widen, take_widen]
    cases hlevel : (itemRun env header scope body index item state).outcome.level? with
    | none =>
      rw [hlevel] at hrest
      exact ih _ _ htaken hrest
    | some level =>
      rw [hlevel] at hrest
      dsimp only at hrest ⊢
      by_cases hstops : header.stopsWhenFull = true
      · rw [if_pos hstops, if_pos hstops]
        rfl
      · rw [if_neg hstops, if_neg hstops]
        rw [Bool.eq_false_iff.2 hstops, Bool.not_false, Bool.true_and] at hrest
        exact ih (index + 1)
          ((state.take (itemRun env header scope body index item state)).note own level)
          htaken hrest

mutual

/-- A node runs in the same way over a larger capacity, unless the two runs part. -/
theorem runNode_widen (scope : Scope) (atomic : Bool) (node : Blueprint.PlanNode)
    {ledger : Ledger} (hle : ledger.capacity ≤ capacity)
    (h : partsNode env capacity scope atomic node ledger = false) :
    runNode env scope atomic node (ledger.widen capacity) =
      (runNode env scope atomic node ledger).widen capacity := by
  match node with
  | .message details =>
    rw [partsNode] at h
    exact say_widen env scope details hle h
  | .forEach header body =>
    rw [partsNode] at h
    rw [runNode]
    have hopened := Ledger.capacity_openCap?_le hle header.budget
    exact runLoop_widen env header scope _ (takeItems_widen env header _ scope _ _
      (fun inner before => runNodes_charges env inner true body before)
      (fun inner before hbefore hfed => runNodes_widen inner true body hbefore hfed) _ _ _
      hopened h)
  | .branch condition whenTrue whenFalse =>
    rw [partsNode] at h
    unfold runNode
    by_cases hholds : env.holds scope condition = true
    · rw [if_pos hholds] at h
      rw [if_pos hholds, if_pos hholds]
      exact runNodes_widen scope atomic whenTrue hle h
    · rw [if_neg hholds] at h
      rw [if_neg hholds, if_neg hholds]
      exact runNodes_widen scope atomic whenFalse hle h

/-- Nodes run in the same way over a larger capacity, unless the two runs part. -/
theorem runNodes_widen (scope : Scope) (atomic : Bool) (nodes : List Blueprint.PlanNode)
    {ledger : Ledger} (hle : ledger.capacity ≤ capacity)
    (h : partsNodes env capacity scope atomic nodes ledger = false) :
    runNodes env scope atomic nodes (ledger.widen capacity) =
      (runNodes env scope atomic nodes ledger).widen capacity := by
  match nodes with
  | [] => rfl
  | node :: rest =>
    rw [partsNodes] at h
    obtain ⟨hnode, hrest⟩ := Bool.or_eq_false_iff.1 h
    have hledger := (runNode_charges env scope atomic node ledger).capacity_le env hle
    refine runNodes_cons_widen env (runNode_widen scope atomic node hle hnode) ?_
    intro hgoes
    rw [Bool.eq_false_iff.2 hgoes, Bool.not_false, Bool.true_and] at hrest
    exact runNodes_widen scope atomic rest hledger hrest

end

variable (capacity)

/-- Whether the runs of a slot over a ledger and over one with a larger capacity part. -/
def partsSlot (slot : Blueprint.Slot) (ledger : Ledger) : Bool :=
  isWanted env slot &&
    partsNodes env capacity env.root false slot.plan (ledger.openCap? slot.budget).2

/-- Whether the runs of slots one after the other over a ledger and over one with a larger capacity
part. -/
def partsSlots (blueprint : Blueprint) (prepared : PreparedLayout) : List Nat → Ledger → Bool
  | [], _ => false
  | number :: rest, ledger =>
    match blueprint.slots[number]? with
    | none => partsSlots blueprint prepared rest ledger
    | some slot => partsSlot env capacity slot ledger ||
        partsSlots blueprint prepared rest (afterSlot env prepared number slot ledger)

variable {capacity}

/-- A slot is filled in the same way over a larger capacity, unless the two runs part. -/
theorem fillSlot_widen (slot : Blueprint.Slot) {ledger : Ledger}
    (hle : ledger.capacity ≤ capacity) (h : partsSlot env capacity slot ledger = false) :
    fillSlot env slot (ledger.widen capacity) =
      ((fillSlot env slot ledger).1, (fillSlot env slot ledger).2.widen capacity) := by
  have hopened := Ledger.capacity_openCap?_le hle slot.budget
  unfold fillSlot
  by_cases hwanted : isWanted env slot = true
  · rw [partsSlot] at h
    rw [hwanted, Bool.true_and] at h
    rw [if_pos hwanted, if_pos hwanted, ledger.openCap?_widen]
    dsimp only
    rw [runNodes_widen env env.root false slot.plan hopened h]
    dsimp only [Step.widen]
    rw [← Ledger.widen_closeCap?]
    rfl
  · rw [if_neg hwanted, if_neg hwanted]

/-- What follows a slot is the same over a larger capacity, unless the two runs part in it. -/
theorem afterSlot_widen (prepared : PreparedLayout) (number : Nat) (slot : Blueprint.Slot)
    {ledger : Ledger} (hle : ledger.capacity ≤ capacity)
    (h : partsSlot env capacity slot ledger = false) :
    afterSlot env prepared number slot (ledger.widen capacity) =
      (afterSlot env prepared number slot ledger).widen capacity := by
  unfold afterSlot
  rw [fillSlot_widen env slot hle h]
  dsimp only
  split
  · exact foldl_releaseText_widen _ _ capacity
  · rfl

/-- Slots are filled in the same way over a larger capacity, unless the two runs part. -/
theorem fillSlots_widen (blueprint : Blueprint) (prepared : PreparedLayout) (order : List Nat)
    {ledger : Ledger} (hle : ledger.capacity ≤ capacity)
    (h : partsSlots env capacity blueprint prepared order ledger = false) :
    fillSlots env blueprint prepared order (ledger.widen capacity) =
      ((fillSlots env blueprint prepared order ledger).1,
        (fillSlots env blueprint prepared order ledger).2.widen capacity) := by
  induction order generalizing ledger with
  | nil => rfl
  | cons number rest ih =>
    rw [partsSlots] at h
    cases hslot : blueprint.slots[number]? with
    | none =>
      rw [hslot] at h
      rw [fillSlots_cons_of_none env hslot, fillSlots_cons_of_none env hslot]
      exact ih hle h
    | some slot =>
      rw [hslot] at h
      obtain ⟨hsame, hrest⟩ := Bool.or_eq_false_iff.1 h
      have hafter : (afterSlot env prepared number slot ledger).capacity ≤ capacity := by
        rw [kept_afterSlot _ isKept_capacity]
        exact hle
      rw [fillSlots_cons env hslot, fillSlots_cons env hslot, fillSlot_widen env slot hle hsame,
        afterSlot_widen env prepared number slot hle hsame, ih hafter hrest]

namespace Setup

variable (setup : Setup)

/-- Whether a render and one with a larger capacity part while slots are filled. -/
def parts (capacity : Tokens) : Bool :=
  partsSlots setup.env capacity setup.blueprint setup.prepared setup.blueprint.order setup.reserved

/-- The slots are filled in the same way with a larger capacity, unless the two renders part. -/
theorem filled_widen (hle : setup.capacity ≤ capacity) (h : setup.parts capacity = false) :
    (setup.widen capacity).filled = (setup.filled.1, setup.filled.2.widen capacity) := by
  have hcapacity : setup.reserved.capacity ≤ capacity := by
    rw [setup.capacity_reserved]
    exact hle
  have hfilled := fillSlots_widen setup.env setup.blueprint setup.prepared setup.blueprint.order
    hcapacity h
  rw [← setup.reserved_widen capacity] at hfilled
  exact hfilled

end Setup

end ChatPrompt.Render
