import ChatPrompt.Proofs.Ledger
import ChatPrompt.Render.Slot

/-!
# Plans charge what they say

A run of a plan charges exactly the cost of the messages that it leaves behind, at every
level of the ledger, and it does so by charges that every level accepted. Messages that were
refused, and items that were given back, leave nothing in the ledger. The proofs follow the
plan: one lemma for a message, one for a separator, one for the items of a loop, and then an
induction over the nodes.
-/

namespace ChatPrompt.Render

variable (env : Environment)

/-- What some messages cost, as an amount. -/
def Environment.costs (messages : List Message) : Tokens := (messages.map env.cost).sum

/-- What some messages cost, as a number without a range. -/
def Environment.bill (messages : List Message) : Nat :=
  (messages.map fun message => (env.cost message).toNat).sum

/-- What generated messages cost. -/
def Environment.price (entries : List Entry) : Tokens := env.costs (entries.map Entry.message)

@[simp]
theorem costs_nil : env.costs [] = 0 := rfl

@[simp]
theorem costs_cons (message : Message) (rest : List Message) :
    env.costs (message :: rest) = env.cost message + env.costs rest := rfl

/-- Two lists of messages cost what they cost together. -/
@[simp]
theorem costs_append (before after : List Message) :
    env.costs (before ++ after) = env.costs before + env.costs after := by
  simp [Environment.costs, List.sum_append]

/-- An amount is the number without a range where that is in the range. -/
theorem toNat_costs (messages : List Message) (h : env.bill messages < 2 ^ 64) :
    (env.costs messages).toNat = env.bill messages := by
  have hmap : (messages.map env.cost).map UInt64.toNat =
      messages.map fun message => (env.cost message).toNat := by
    simp [Function.comp_def]
  rw [Environment.costs, Environment.bill] at *
  rw [← hmap] at h ⊢
  exact Tokens.toNat_sum _ h

@[simp]
theorem price_nil : env.price [] = 0 := rfl

/-- The first generated message is paid first. -/
@[simp]
theorem price_cons (entry : Entry) (rest : List Entry) :
    env.price (entry :: rest) = env.cost entry.message + env.price rest := rfl

@[simp]
theorem price_append (before after : List Entry) :
    env.price (before ++ after) = env.price before + env.price after := by
  simp [Environment.price]

/-- The place of the separator makes no difference to the cost of an item. -/
theorem price_withSeparator (filling : Template.Filling) (separator : Entry)
    (group : List Entry) :
    env.price (withSeparator filling separator group) =
      env.price group + env.cost separator.message := by
  cases filling with
  | appending => rw [withSeparator, price_cons, UInt64.add_comm]
  | prepending => simp [withSeparator]

/-- The order of the items makes no difference to the cost of a loop. -/
theorem price_arranged (filling : Template.Filling) (groups : List (List Entry)) :
    env.price (arranged filling groups) = env.price groups.flatten := by
  cases filling with
  | appending => rfl
  | prepending =>
    simp only [arranged]
    induction groups with
    | nil => rfl
    | cons group rest ih =>
      rw [List.reverse_cons, List.flatten_append, price_append, ih, List.flatten_cons,
        price_append, UInt64.add_comm]
      simp

/-- A run with another one after it. -/
def Step.join (first others : Step) : Step :=
  ⟨others.ledger, first.entries ++ others.entries, first.tally.add others.tally,
    first.outcome.followedBy others.outcome⟩

/-- Nodes are run one after the other, unless a refusal of the first ends them. -/
theorem runNodes_cons (scope : Scope) (atomic : Bool) (node : Blueprint.PlanNode)
    (rest : List Blueprint.PlanNode) (ledger : Ledger) :
    runNodes env scope atomic (node :: rest) ledger =
      if atomic && (runNode env scope atomic node ledger).outcome.isRefused then
        runNode env scope atomic node ledger
      else (runNode env scope atomic node ledger).join
        (runNodes env scope atomic rest (runNode env scope atomic node ledger).ledger) := by
  rw [runNodes]
  rfl

/-- The run of an item of a loop, with its separator. -/
def itemRun (header : Blueprint.Loop) (scope : Scope) (body : Scope → Ledger → Step)
    (index : Nat) (item : Json) (state : LoopState) : Step :=
  separate env header (itemScope scope index item) state.groups
    (body (itemScope scope index item) state.ledger)

/-- A loop takes the run of its first item, and goes on unless something was refused there
and it stops then. -/
theorem takeItems_cons (header : Blueprint.Loop) (own : Option Nat) (scope : Scope)
    (body : Scope → Ledger → Step) (item : Json) (rest : List Json) (index : Nat)
    (state : LoopState) :
    takeItems env header own scope body (item :: rest) index state =
      match (itemRun env header scope body index item state).outcome.level? with
      | none => takeItems env header own scope body rest (index + 1)
          (state.take (itemRun env header scope body index item state))
      | some level =>
        if header.stopsWhenFull then
          ((state.take (itemRun env header scope body index item state)).note own level).stop
            rest.length
        else takeItems env header own scope body rest (index + 1)
          ((state.take (itemRun env header scope body index item state)).note own level) := rfl

/-- A loop before its first item. -/
def LoopState.start (header : Blueprint.Loop) (scope : Scope) (ledger : Ledger) : LoopState :=
  ⟨(ledger.openCap? header.budget).2, [], ⟨0, (loopItems env scope header).length, 0, false⟩,
    none⟩

/-- A loop takes all of its items, inside its cap. -/
theorem runLoop_eq (header : Blueprint.Loop) (scope : Scope) (body : Scope → Ledger → Step)
    (ledger : Ledger) :
    runLoop env header scope body ledger =
      let last := takeItems env header (ledger.openCap? header.budget).1 scope body
        (loopItems env scope header) 0 (LoopState.start env header scope ledger)
      ⟨last.ledger.closeCap? (ledger.openCap? header.budget).1,
        arranged header.filling last.groups, last.tally, .finished last.signal⟩ := rfl

/-- A run charges what its messages cost, by charges that were accepted. -/
structure Step.Charges (before : Ledger) (step : Step) : Prop where
  /-- The ledger after it is the one before it with the cost of its messages charged. -/
  ledger_eq : step.ledger = before.charge (env.price step.entries)
  /-- The cost was accepted bit by bit. -/
  admits : before.Admits (env.price step.entries)

/-- A loop between two items has charged what the messages of the items so far cost. -/
structure LoopState.Charges (opened : Ledger) (state : LoopState) : Prop where
  /-- The ledger is the one at the start with the cost of the messages charged. -/
  ledger_eq : state.ledger = opened.charge (env.price state.groups.flatten)
  /-- The cost was accepted bit by bit. -/
  admits : opened.Admits (env.price state.groups.flatten)

/-- A run that does nothing charges nothing. -/
theorem idle_charges (ledger : Ledger) : (Step.idle ledger).Charges env ledger :=
  ⟨by simp [Step.idle], .nothing ledger⟩

/-- A message is charged where it is generated, and nothing where it is refused or says
nothing. -/
theorem say_charges (scope : Scope) (message : Blueprint.Message) (ledger : Ledger) :
    (say env scope message ledger).Charges env ledger := by
  rw [say]
  cases Text.contentful? (env.text scope message.content) with
  | none => exact idle_charges env ledger
  | some text =>
    dsimp only
    have hclosed : (ledger.openCap? message.budget).2.closeCap?
        (ledger.openCap? message.budget).1 = ledger := by
      simpa using ledger.closeCap?_charge_openCap? message.budget 0
    cases hspend : (ledger.openCap? message.budget).2.spend (env.estimate text) with
    | ok charged =>
      obtain ⟨hnone, hcharged⟩ := (Ledger.spend_eq_ok_iff _).1 hspend
      have hprice : env.price
          [⟨Message.of message.role text, anchorKey scope message.anchor⟩] =
            env.estimate text := by
        simp [Environment.cost, Message.of]
      constructor
      · dsimp only
        rw [hprice, hcharged, Ledger.closeCap?_charge_openCap?]
      · dsimp only
        rw [hprice]
        exact (Ledger.Admits.single hnone).ofOpenCap?
    | error refusal =>
      dsimp only
      split
      · exact ⟨by simp [hclosed], .nothing ledger⟩
      · exact ⟨by simp [hclosed], .nothing ledger⟩

/-- An item is charged with its separator, or its separator was refused. -/
theorem separate_charges (header : Blueprint.Loop) (scope : Scope)
    (groups : List (List Entry)) {before : Ledger} {run : Step} (h : run.Charges env before) :
    (separate env header scope groups run).Charges env before := by
  rw [separate]
  split
  · exact h
  · cases separatorOf header scope groups run.entries with
    | none => exact h
    | some separator =>
      dsimp only
      cases hspend : run.ledger.spend (env.cost separator) with
      | error refusal => exact ⟨h.ledger_eq, h.admits⟩
      | ok charged =>
        obtain ⟨hnone, hcharged⟩ := (Ledger.spend_eq_ok_iff _).1 hspend
        have hprice := price_withSeparator env header.filling ⟨separator, none⟩ run.entries
        constructor
        · dsimp only
          rw [hprice, hcharged, h.ledger_eq, Ledger.charge_charge]
        · dsimp only
          rw [hprice]
          exact .next h.admits (.single (h.ledger_eq ▸ hnone))

/-- All that a run charged, at any level, is taken back at the checkpoint before it. -/
theorem Step.Charges.rollback_eq {before : Ledger} {run : Step} (h : run.Charges env before) :
    run.ledger.rollback before.checkpoint = before := by
  rw [h.ledger_eq, Ledger.rollback_charge]

/-- A loop that takes an item has charged it if it keeps it, and has given back everything
that it spent if it drops it. -/
theorem take_charges {opened : Ledger} {state : LoopState} {run : Step}
    (hstate : state.Charges env opened) (hrun : run.Charges env state.ledger) :
    (state.take run).Charges env opened := by
  rw [LoopState.take]
  split
  · exact ⟨(hrun.rollback_eq env).trans hstate.ledger_eq, hstate.admits⟩
  · have hprice : env.price (state.keep run).groups.flatten =
        env.price state.groups.flatten + env.price run.entries := by
      rw [LoopState.keep]
      by_cases hempty : run.entries = []
      · simp [hempty]
      · simp [hempty]
    constructor
    · rw [hprice, ← Ledger.charge_charge, ← hstate.ledger_eq]
      exact hrun.ledger_eq
    · rw [hprice]
      exact .next hstate.admits (hstate.ledger_eq ▸ hrun.admits)

/-- A body whose runs charge what they say makes the runs of items do so. -/
theorem itemRun_charges (header : Blueprint.Loop) (scope : Scope) (body : Scope → Ledger → Step)
    (hbody : ∀ inner before, (body inner before).Charges env before) (index : Nat) (item : Json)
    (state : LoopState) :
    (itemRun env header scope body index item state).Charges env state.ledger :=
  separate_charges env header _ _ (hbody _ _)

/-- The items of a loop one after the other charge what their messages cost, if the body
does. -/
theorem takeItems_charges (header : Blueprint.Loop) (own : Option Nat) (scope : Scope)
    (body : Scope → Ledger → Step)
    (hbody : ∀ inner before, (body inner before).Charges env before) (opened : Ledger)
    (items : List Json) (index : Nat) (state : LoopState)
    (hstate : state.Charges env opened) :
    (takeItems env header own scope body items index state).Charges env opened := by
  induction items generalizing index state with
  | nil => exact hstate
  | cons item rest ih =>
    have htaken := take_charges env hstate
      (itemRun_charges env header scope body hbody index item state)
    rw [takeItems_cons]
    split
    · exact ih _ _ htaken
    · -- what is noted or given up is counted, and does not touch the ledger
      split
      · exact ⟨htaken.ledger_eq, htaken.admits⟩
      · exact ih _ _ ⟨htaken.ledger_eq, htaken.admits⟩

/-- A loop charges what its messages cost, if its body does. -/
theorem runLoop_charges (header : Blueprint.Loop) (scope : Scope)
    (body : Scope → Ledger → Step)
    (hbody : ∀ inner before, (body inner before).Charges env before) (ledger : Ledger) :
    (runLoop env header scope body ledger).Charges env ledger := by
  have hitems := takeItems_charges env header (ledger.openCap? header.budget).1 scope body
    hbody (ledger.openCap? header.budget).2 (loopItems env scope header) 0
    (LoopState.start env header scope ledger)
    ⟨by simp [LoopState.start], .nothing _⟩
  rw [runLoop_eq]
  constructor
  · dsimp only
    rw [price_arranged, hitems.ledger_eq, Ledger.closeCap?_charge_openCap?]
  · dsimp only
    rw [price_arranged]
    exact hitems.admits.ofOpenCap?

/-- A run after another one charges on top of it. -/
theorem join_charges {before : Ledger} {first others : Step} (hfirst : first.Charges env before)
    (hothers : others.Charges env first.ledger) : (first.join others).Charges env before := by
  rw [Step.join]
  constructor
  · dsimp only
    rw [price_append, ← Ledger.charge_charge, ← hfirst.ledger_eq]
    exact hothers.ledger_eq
  · dsimp only
    rw [price_append]
    exact .next hfirst.admits (hfirst.ledger_eq ▸ hothers.admits)

mutual

/-- A node of a plan charges what its messages cost. -/
theorem runNode_charges (scope : Scope) (atomic : Bool) (node : Blueprint.PlanNode)
    (ledger : Ledger) : (runNode env scope atomic node ledger).Charges env ledger := by
  match node with
  | .message details => exact say_charges env scope details ledger
  | .forEach header body =>
    rw [runNode]
    exact runLoop_charges env header scope _
      (fun inner before => runNodes_charges inner true body before) ledger
  | .branch condition whenTrue whenFalse =>
    rw [runNode]
    split
    · exact runNodes_charges scope atomic whenTrue ledger
    · exact runNodes_charges scope atomic whenFalse ledger

/-- The nodes of a plan charge what their messages cost. -/
theorem runNodes_charges (scope : Scope) (atomic : Bool) (nodes : List Blueprint.PlanNode)
    (ledger : Ledger) : (runNodes env scope atomic nodes ledger).Charges env ledger := by
  match nodes with
  | [] => exact idle_charges env ledger
  | node :: rest =>
    have hfirst := runNode_charges scope atomic node ledger
    rw [runNodes_cons]
    split
    · exact hfirst
    · exact join_charges env hfirst (runNodes_charges scope atomic rest _)

end

/-- A run leaves the capacity alone, and so every bound on it. -/
theorem Step.Charges.capacity_le {before : Ledger} {step : Step} (h : step.Charges env before)
    {capacity : Tokens} (hle : before.capacity ≤ capacity) :
    step.ledger.capacity ≤ capacity := by
  rw [h.ledger_eq]
  exact hle

/-- Taking an item leaves the capacity alone. -/
theorem capacity_take_le {state : LoopState} {run : Step} (h : run.Charges env state.ledger)
    {capacity : Tokens} (hle : state.ledger.capacity ≤ capacity) :
    (state.take run).ledger.capacity ≤ capacity := by
  rw [LoopState.take]
  split
  · exact h.capacity_le env hle
  · exact h.capacity_le env hle

/-- Filling a slot charges what its messages cost, by charges that were accepted. -/
theorem fillSlot_charges (slot : Blueprint.Slot) (ledger : Ledger) :
    (fillSlot env slot ledger).2 =
        ledger.charge (env.price (fillSlot env slot ledger).1.entries) ∧
      ledger.Admits (env.price (fillSlot env slot ledger).1.entries) := by
  rw [fillSlot]
  split
  · have hrun := runNodes_charges env env.root false slot.plan (ledger.openCap? slot.budget).2
    dsimp only
    rw [hrun.ledger_eq, Ledger.closeCap?_charge_openCap?]
    exact ⟨rfl, hrun.admits.ofOpenCap?⟩
  · exact ⟨by simp, .nothing ledger⟩

end ChatPrompt.Render
