import ChatPrompt.Proofs.Parting

/-!
# What is not truncated was not refused

Each refusal in a plan leaves a mark: a message or a loop that contains it counts as
truncated, and one that is not contained is noted by the loops around it and by the slot. So
where a slot is not truncated, every charge in it was accepted; in particular its run does not part
from the one over any larger capacity, which makes the same choices throughout.
-/

namespace ChatPrompt.Render

variable (env : Environment)

/-- Nothing was refused in a run, as far as it says. -/
structure Step.IsQuiet (step : Step) : Prop where
  /-- No loop or message contained a refusal. -/
  untruncated : step.tally.truncated = false
  /-- No refusal was passed on. -/
  unsignalled : step.outcome.level? = none

/-- Two runs are passed on without a level only if both are. -/
theorem level?_followedBy_eq_none {first second : Outcome} :
    (first.followedBy second).level? = none ↔ first.level? = none ∧ second.level? = none := by
  cases first <;> cases second with
  | refused level => simp [Outcome.followedBy, Outcome.level?]
  | finished signal =>
    cases signal <;> simp [Outcome.followedBy, Outcome.level?, outermost] <;>
      split <;> simp_all

/-- Where nothing was passed on, the run was not given up. -/
theorem isRefused_of_level?_eq_none {outcome : Outcome} (h : outcome.level? = none) :
    outcome.isRefused = false := by
  cases outcome with
  | finished signal => rfl
  | refused level => cases h

/-- Where nothing was passed on, a run does not part from another. -/
theorem parts_eq_false_of_level?_eq_none {small : Step} (h : small.outcome.level? = none)
    (large : Step) : small.parts large = false := by
  rw [Step.parts]
  cases houtcome : small.outcome with
  | finished signal => rfl
  | refused level =>
    rw [houtcome] at h
    cases h

/-- An item is quiet with its separator only if it was without. -/
theorem isQuiet_of_separate (header : Blueprint.Loop) (scope : Scope)
    (groups : List (List Entry)) {run : Step}
    (h : (separate env header scope groups run).IsQuiet) : run.IsQuiet := by
  rw [separate] at h
  split at h
  · exact h
  · split at h
    · exact h
    · split at h
      · exact ⟨h.untruncated, h.unsignalled⟩
      · cases h.unsignalled

/-- What an item says is counted in the loop. -/
theorem truncated_take (state : LoopState) (run : Step) :
    (state.take run).tally.truncated = (state.tally.truncated || run.tally.truncated) := by
  rw [LoopState.take, LoopState.drop, LoopState.keep]
  split <;> simp [Tally.add]

/-- A loop never forgets that something was refused. -/
theorem truncated_takeItems (header : Blueprint.Loop) (own : Option Nat) (scope : Scope)
    (body : Scope → Ledger → Step) (items : List Json) (index : Nat) (state : LoopState)
    (h : state.tally.truncated = true) :
    (takeItems env header own scope body items index state).tally.truncated = true := by
  induction items generalizing index state with
  | nil => exact h
  | cons item rest ih =>
    have htaken : (state.take (itemRun env header scope body index item state)).tally.truncated =
        true := by
      rw [truncated_take, h, Bool.true_or]
    rw [takeItems_cons]
    split
    · exact ih _ _ htaken
    · split
      · simp [LoopState.stop, LoopState.note, Tally.add]
      · exact ih _ _ (by simp [LoopState.note, Tally.add])

/-- A loop that says in the end that nothing was refused has said so all the time. -/
theorem untruncated_of_takeItems {header : Blueprint.Loop} {own : Option Nat} {scope : Scope}
    {body : Scope → Ledger → Step} {items : List Json} {index : Nat} {state : LoopState}
    (h : (takeItems env header own scope body items index state).tally.truncated = false) :
    state.tally.truncated = false := by
  cases htruncated : state.tally.truncated with
  | false => rfl
  | true =>
    rw [truncated_takeItems env header own scope body items index state htruncated] at h
    cases h

variable {capacity : Tokens}

/-- A loop that notes no refusal does not part, if its body does not where it is quiet. -/
theorem partsItems_eq_false (header : Blueprint.Loop) (own : Option Nat) (scope : Scope)
    (body : Scope → Ledger → Step) (parts : Scope → Ledger → Bool)
    (hbody : ∀ inner before, (body inner before).IsQuiet → parts inner before = false)
    (items : List Json) (index : Nat) (state : LoopState)
    (h : (takeItems env header own scope body items index state).tally.truncated = false) :
    partsItems env capacity header own scope body parts items index state = false := by
  induction items generalizing index state with
  | nil => rfl
  | cons item rest ih =>
    rw [takeItems_cons] at h
    unfold partsItems
    cases hlevel : (itemRun env header scope body index item state).outcome.level? with
    | some level =>
      -- a refusal would be noted, and stay noted to the end
      rw [hlevel] at h
      dsimp only at h
      split at h
      · simp [LoopState.stop, LoopState.note, Tally.add] at h
      · have hnoted := untruncated_of_takeItems env h
        simp [LoopState.note, Tally.add] at hnoted
    | none =>
      rw [hlevel] at h
      have htaken := untruncated_of_takeItems env h
      rw [truncated_take, Bool.or_eq_false_iff] at htaken
      have hquiet := isQuiet_of_separate env header (itemScope scope index item) state.groups
        ⟨htaken.2, hlevel⟩
      have hgoes := parts_eq_false_of_level?_eq_none hlevel
        (itemRun env header scope body index item (state.widen capacity))
      dsimp only
      rw [hbody _ _ hquiet, hgoes, hlevel]
      exact ih _ _ h

mutual

/-- A quiet node does not part. -/
theorem partsNode_eq_false (scope : Scope) (atomic : Bool) (node : Blueprint.PlanNode)
    {ledger : Ledger} (h : (runNode env scope atomic node ledger).IsQuiet) :
    partsNode env capacity scope atomic node ledger = false := by
  match node with
  | .message details =>
    exact parts_eq_false_of_level?_eq_none h.unsignalled _
  | .forEach header body =>
    rw [runNode] at h
    rw [partsNode]
    exact partsItems_eq_false env header _ scope _ _
      (fun inner before hquiet => partsNodes_eq_false inner true body hquiet) _ _ _
      h.untruncated
  | .branch condition whenTrue whenFalse =>
    rw [runNode] at h
    rw [partsNode]
    by_cases hholds : env.holds scope condition = true
    · rw [if_pos hholds] at h ⊢
      exact partsNodes_eq_false scope atomic whenTrue h
    · rw [if_neg hholds] at h ⊢
      exact partsNodes_eq_false scope atomic whenFalse h

theorem partsNodes_eq_false (scope : Scope) (atomic : Bool)
    (nodes : List Blueprint.PlanNode) {ledger : Ledger}
    (h : (runNodes env scope atomic nodes ledger).IsQuiet) :
    partsNodes env capacity scope atomic nodes ledger = false := by
  match nodes with
  | [] => rfl
  | node :: rest =>
    rw [runNodes_cons] at h
    rw [partsNodes]
    by_cases hends : (atomic && (runNode env scope atomic node ledger).outcome.isRefused) = true
    · rw [if_pos hends] at h
      rw [isRefused_of_level?_eq_none h.unsignalled, Bool.and_false] at hends
      cases hends
    · rw [if_neg hends] at h
      have huntruncated := Bool.or_eq_false_iff.1 h.untruncated
      have hunsignalled := level?_followedBy_eq_none.1 h.unsignalled
      rw [partsNode_eq_false scope atomic node ⟨huntruncated.1, hunsignalled.1⟩,
        partsNodes_eq_false scope atomic rest ⟨huntruncated.2, hunsignalled.2⟩]
      exact Bool.and_false _

end

/-- A slot that is not truncated does not part. -/
theorem partsSlot_eq_false (slot : Blueprint.Slot) {ledger : Ledger}
    (h : (fillSlot env slot ledger).1.stats.tally.truncated = false) :
    partsSlot env capacity slot ledger = false := by
  rw [partsSlot]
  by_cases hwanted : isWanted env slot = true
  · rw [fillSlot] at h
    rw [if_pos hwanted] at h
    obtain ⟨huntruncated, hlevel⟩ := Bool.or_eq_false_iff.1 h
    have hunsignalled := Option.not_isSome_iff_eq_none.1 (Bool.eq_false_iff.1 hlevel)
    have hsame : partsNodes env capacity env.root false slot.plan
        (ledger.openCap? slot.budget).2 = false :=
      partsNodes_eq_false env env.root false slot.plan ⟨huntruncated, hunsignalled⟩
    rw [hsame, Bool.and_false]
  · rw [Bool.eq_false_iff.2 hwanted, Bool.false_and]

theorem partsSlots_eq_false (blueprint : Blueprint) (prepared : PreparedLayout)
    (order : List Nat) {ledger : Ledger}
    (h : ∀ entry ∈ (fillSlots env blueprint prepared order ledger).1,
      entry.2.stats.tally.truncated = false) :
    partsSlots env capacity blueprint prepared order ledger = false := by
  induction order generalizing ledger with
  | nil => rfl
  | cons number rest ih =>
    rw [partsSlots]
    cases hslot : blueprint.slots[number]? with
    | none =>
      rw [fillSlots_cons_of_none env hslot] at h
      exact ih h
    | some slot =>
      rw [fillSlots_cons env hslot] at h
      exact Bool.or_eq_false_iff.2 ⟨partsSlot_eq_false env slot (h _ List.mem_cons_self),
        ih fun entry hentry => h entry (List.mem_cons_of_mem _ hentry)⟩

/-- A render of which no slot is truncated does not part from one with a larger capacity. -/
theorem Setup.parts_eq_false (setup : Setup)
    (h : ∀ stats ∈ setup.stats, stats.tally.truncated = false) : setup.parts capacity = false :=
  partsSlots_eq_false setup.env setup.blueprint setup.prepared setup.blueprint.order
    fun _ hentry => h _ (List.mem_map_of_mem hentry)

end ChatPrompt.Render
