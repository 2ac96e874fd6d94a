import ChatPrompt.Proofs.Charging

/-!
# A run sees only how much is set aside

What is set aside, and under which keys, matters to a run only as the amount that it is altogether.
Over two ledgers that agree in that amount, and in what is spent at every level, a plan does the
same and leaves two ledgers that agree again. The proofs follow the plan: one lemma for what a
ledger is asked, one for a message, one for a separator, one for the items of a loop, and then an
induction over the nodes.
-/

namespace ChatPrompt

namespace Ledger

/-- Two ledgers may differ in what is set aside for what, but not in how much it is altogether. -/
structure Alike (ledger other : Ledger) : Prop where
  /-- As much may be spent. -/
  capacity_eq : other.capacity = ledger.capacity
  /-- As much is spent. -/
  spent_eq : other.spent = ledger.spent
  /-- As much is set aside. -/
  floorTotal_eq : other.floorTotal = ledger.floorTotal
  /-- The caps are the same. -/
  caps_eq : other.caps = ledger.caps

namespace Alike

variable {ledger other : Ledger} (h : ledger.Alike other)

include h

/-- Ledgers that are alike are the same if the same is set aside for the same. -/
theorem eq_of_floors (hfloors : other.floors = ledger.floors) : other = ledger := by
  cases ledger
  cases other
  obtain rfl := h.capacity_eq
  obtain rfl := h.spent_eq
  obtain rfl := h.caps_eq
  obtain rfl := hfloors
  rfl

/-- The same amounts fit. -/
theorem refusalLevel?_eq (amount : Tokens) :
    other.refusalLevel? amount = ledger.refusalLevel? amount := by
  have havailable : other.available = ledger.available := by
    rw [available, available, h.capacity_eq, h.spent_eq, h.floorTotal_eq]
  rw [refusalLevel?, refusalLevel?, havailable, h.caps_eq]

/-- Charging keeps ledgers alike. -/
theorem charge (amount : Tokens) : (ledger.charge amount).Alike (other.charge amount) := by
  refine ⟨h.capacity_eq, ?_, h.floorTotal_eq, ?_⟩
  · exact congrArg (· + amount) h.spent_eq
  · exact congrArg (List.map _) h.caps_eq

/-- An amount is spent from both ledgers, or refused by both at the same level. -/
theorem spend (amount : Tokens) :
    (∃ refusal, ledger.spend amount = .error refusal ∧ other.spend amount = .error refusal) ∨
      ledger.spend amount = .ok (ledger.charge amount) ∧
        other.spend amount = .ok (other.charge amount) := by
  have hlevel := h.refusalLevel?_eq amount
  rw [Ledger.spend, Ledger.spend, hlevel]
  cases ledger.refusalLevel? amount with
  | some level => exact .inl ⟨_, rfl, rfl⟩
  | none => exact .inr ⟨rfl, rfl⟩

/-- The caps that are opened have the same level. -/
theorem openCap?_level (limit : Option Tokens) :
    (other.openCap? limit).1 = (ledger.openCap? limit).1 := by
  cases limit with
  | none => rfl
  | some limit => exact congrArg (fun caps => some (List.length caps + 1)) h.caps_eq

theorem openCap? (limit : Option Tokens) :
    (ledger.openCap? limit).2.Alike (other.openCap? limit).2 := by
  cases limit with
  | none => exact h
  | some limit =>
    refine ⟨h.capacity_eq, h.spent_eq, h.floorTotal_eq, ?_⟩
    exact congrArg (fun caps => caps ++ [⟨limit, 0⟩]) h.caps_eq

theorem closeCap? (opened : Option Nat) :
    (ledger.closeCap? opened).Alike (other.closeCap? opened) := by
  rw [Ledger.closeCap?, Ledger.closeCap?]
  split
  · exact ⟨h.capacity_eq, h.spent_eq, h.floorTotal_eq, congrArg List.dropLast h.caps_eq⟩
  · exact h

/-- The same is spent at all levels. -/
theorem checkpoint_eq : other.checkpoint = ledger.checkpoint := by
  rw [checkpoint, checkpoint, h.spent_eq, h.caps_eq]

/-- Going back to one checkpoint keeps ledgers alike. -/
theorem rollback (checkpoint : Checkpoint) :
    (ledger.rollback checkpoint).Alike (other.rollback checkpoint) :=
  ⟨h.capacity_eq, rfl, h.floorTotal_eq, congrArg (restoreCaps · _) h.caps_eq⟩

end Alike

end Ledger

namespace Render

variable (env : Environment)

/-- Two runs do the same and leave ledgers that are alike. -/
structure Step.Alike (step other : Step) : Prop where
  /-- The ledgers are alike. -/
  ledger : step.ledger.Alike other.ledger
  /-- The messages are the same. -/
  entries_eq : other.entries = step.entries
  /-- The counts are the same. -/
  tally_eq : other.tally = step.tally
  /-- The ends are the same. -/
  outcome_eq : other.outcome = step.outcome

/-- Two loops have done the same and have ledgers that are alike. -/
structure LoopState.Alike (state other : LoopState) : Prop where
  /-- The ledgers are alike. -/
  ledger : state.ledger.Alike other.ledger
  /-- The messages are the same. -/
  groups_eq : other.groups = state.groups
  /-- The counts are the same. -/
  tally_eq : other.tally = state.tally
  /-- The same levels have refused something. -/
  signal_eq : other.signal = state.signal

/-- A message has the same fate over ledgers that are alike. -/
theorem say_alike (scope : Scope) (message : Blueprint.Message) {ledger other : Ledger}
    (h : ledger.Alike other) :
    (say env scope message ledger).Alike (say env scope message other) := by
  rw [say, say]
  cases Text.contentful? (env.text scope message.content) with
  | none => exact ⟨h, rfl, rfl, rfl⟩
  | some text =>
    have hopened := h.openCap? message.budget
    dsimp only
    rw [h.openCap?_level message.budget]
    rcases hopened.spend (env.estimate text) with ⟨refusal, hspend, hspend'⟩ | ⟨hspend, hspend'⟩
    · rw [hspend, hspend']
      dsimp only
      split
      · exact ⟨hopened.closeCap? _, rfl, rfl, rfl⟩
      · exact ⟨hopened.closeCap? _, rfl, rfl, rfl⟩
    · rw [hspend, hspend']
      exact ⟨(hopened.charge _).closeCap? _, rfl, rfl, rfl⟩

/-- A separator has the same fate after runs that are alike. -/
theorem separate_alike (header : Blueprint.Loop) (scope : Scope) (groups : List (List Entry))
    {run other : Step} (h : run.Alike other) :
    (separate env header scope groups run).Alike (separate env header scope groups other) := by
  rw [separate, separate, h.outcome_eq, h.entries_eq]
  split
  · exact h
  · cases separatorOf header scope groups run.entries with
    | none => exact h
    | some separator =>
      dsimp only
      rcases h.ledger.spend (env.cost separator) with ⟨refusal, hspend, hspend'⟩ | ⟨hspend, hspend'⟩
      · rw [hspend, hspend']
        exact ⟨h.ledger, rfl, h.tally_eq, rfl⟩
      · rw [hspend, hspend']
        exact ⟨h.ledger.charge _, rfl, h.tally_eq, rfl⟩

/-- Items that are run alike are taken alike. -/
theorem take_alike {state others : LoopState} (hstate : state.Alike others) {run other : Step}
    (hrun : run.Alike other) : (state.take run).Alike (others.take other) := by
  rw [LoopState.take, LoopState.take, hrun.outcome_eq]
  split
  · refine ⟨?_, hstate.groups_eq, ?_, hstate.signal_eq⟩
    · rw [LoopState.drop, LoopState.drop, hstate.ledger.checkpoint_eq]
      exact hrun.ledger.rollback _
    · rw [LoopState.drop, LoopState.drop, hstate.tally_eq, hrun.tally_eq]
  · refine ⟨hrun.ledger, ?_, ?_, hstate.signal_eq⟩
    · rw [LoopState.keep, LoopState.keep, hrun.entries_eq, hstate.groups_eq]
    · rw [LoopState.keep, LoopState.keep, hstate.tally_eq, hrun.tally_eq]

/-- What a loop learns of a refusal keeps loops alike. -/
theorem note_alike {state other : LoopState} (h : state.Alike other) (own : Option Nat)
    (level : Nat) : (state.note own level).Alike (other.note own level) := by
  refine ⟨h.ledger, h.groups_eq, ?_, ?_⟩
  · rw [LoopState.note, LoopState.note, h.tally_eq]
  · rw [LoopState.note, LoopState.note, h.signal_eq]

section Loop

variable {env} {header : Blueprint.Loop} {scope : Scope} {body : Scope → Ledger → Step}
  (hbody : ∀ inner ledger other, Ledger.Alike ledger other →
    (body inner ledger).Alike (body inner other))

include hbody

/-- The items of a loop are run alike, one after the other, if the body runs alike. -/
theorem takeItems_alike (own : Option Nat) (items : List Json) (index : Nat)
    {state other : LoopState} (h : state.Alike other) :
    (takeItems env header own scope body items index state).Alike
      (takeItems env header own scope body items index other) := by
  induction items generalizing index state other with
  | nil => exact h
  | cons item rest ih =>
    have hrun : (itemRun env header scope body index item state).Alike
        (itemRun env header scope body index item other) := by
      rw [itemRun, itemRun, h.groups_eq]
      exact separate_alike env header _ _ (hbody _ _ _ h.ledger)
    have htaken := take_alike h hrun
    rw [takeItems_cons, takeItems_cons, hrun.outcome_eq]
    cases (itemRun env header scope body index item state).outcome.level? with
    | none => exact ih _ htaken
    | some level =>
      have hnoted := note_alike htaken own level
      dsimp only
      split
      · refine ⟨hnoted.ledger, hnoted.groups_eq, ?_, hnoted.signal_eq⟩
        rw [LoopState.stop, LoopState.stop, hnoted.tally_eq]
      · exact ih _ hnoted

/-- A loop runs alike if its body does. -/
theorem runLoop_alike {ledger other : Ledger} (h : ledger.Alike other) :
    (runLoop env header scope body ledger).Alike (runLoop env header scope body other) := by
  have hstart : (LoopState.start env header scope ledger).Alike
      (LoopState.start env header scope other) := ⟨h.openCap? header.budget, rfl, rfl, rfl⟩
  have hitems := @takeItems_alike env header scope _ hbody (ledger.openCap? header.budget).1
    (loopItems env scope header) 0 _ _ hstart
  rw [runLoop_eq, runLoop_eq, h.openCap?_level]
  refine ⟨hitems.ledger.closeCap? _, ?_, hitems.tally_eq, ?_⟩
  · exact congrArg (arranged header.filling) hitems.groups_eq
  · exact congrArg Outcome.finished hitems.signal_eq

end Loop

/-- Runs one after the other are alike if each of them is. -/
theorem join_alike {first first' others others' : Step} (hfirst : first.Alike first')
    (hothers : others.Alike others') : (first.join others).Alike (first'.join others') := by
  refine ⟨hothers.ledger, ?_, ?_, ?_⟩
  · rw [Step.join, Step.join, hfirst.entries_eq, hothers.entries_eq]
  · rw [Step.join, Step.join, hfirst.tally_eq, hothers.tally_eq]
  · rw [Step.join, Step.join, hfirst.outcome_eq, hothers.outcome_eq]

mutual

/-- A node of a plan runs alike over ledgers that are alike. -/
theorem runNode_alike (scope : Scope) (atomic : Bool) (node : Blueprint.PlanNode)
    {ledger other : Ledger} (h : ledger.Alike other) :
    (runNode env scope atomic node ledger).Alike (runNode env scope atomic node other) := by
  match node with
  | .message details => exact say_alike env scope details h
  | .forEach header body =>
    rw [runNode, runNode]
    exact runLoop_alike (fun inner _ _ halike => runNodes_alike inner true body halike) h
  | .branch condition whenTrue whenFalse =>
    rw [runNode, runNode]
    split
    · exact runNodes_alike scope atomic whenTrue h
    · exact runNodes_alike scope atomic whenFalse h

theorem runNodes_alike (scope : Scope) (atomic : Bool) (nodes : List Blueprint.PlanNode)
    {ledger other : Ledger} (h : ledger.Alike other) :
    (runNodes env scope atomic nodes ledger).Alike (runNodes env scope atomic nodes other) := by
  match nodes with
  | [] => exact ⟨h, rfl, rfl, rfl⟩
  | node :: rest =>
    have hfirst := runNode_alike scope atomic node h
    rw [runNodes_cons, runNodes_cons, hfirst.outcome_eq]
    split
    · exact hfirst
    · exact join_alike hfirst (runNodes_alike scope atomic rest hfirst.ledger)

end

/-- A slot is filled with the same over ledgers that are alike, and leaves them alike. -/
theorem fillSlot_alike (slot : Blueprint.Slot) {ledger other : Ledger} (h : ledger.Alike other) :
    (fillSlot env slot other).1 = (fillSlot env slot ledger).1 ∧
      (fillSlot env slot ledger).2.Alike (fillSlot env slot other).2 := by
  rw [fillSlot, fillSlot]
  split
  · have hrun := runNodes_alike env env.root false slot.plan (h.openCap? slot.budget)
    have hafter := hrun.ledger.closeCap? (ledger.openCap? slot.budget).1
    dsimp only
    rw [h.openCap?_level, hrun.entries_eq, hrun.tally_eq, hrun.outcome_eq, hafter.spent_eq,
      h.spent_eq]
    exact ⟨rfl, hafter⟩
  · exact ⟨rfl, h⟩

end Render

end ChatPrompt
