import ChatPrompt.Proofs.Room

/-!
# Refusals name open levels

The level that a refusal names is a position among the caps that are open where it happens, and a
run opens and closes caps on its way. A level that is passed on has to mean the same to whoever
receives it, so it must not be one that was opened inside. It is not: what opens a cap contains the
refusals of that cap, and passes on only others. So each level that a run passes on was open before
it, and did refuse something, at a moment when the run had charged some amount and opened some caps
in it.

Together with what a run charges this says what any run does to the ledger: it charges the cost of
its messages at every level, and changes nothing else.
-/

namespace ChatPrompt

namespace Ledger

@[simp]
theorem depth_charge (ledger : Ledger) (amount : Tokens) :
    (ledger.charge amount).depth = ledger.depth := List.length_map _

/-- A cap that is opened is one level more. -/
@[simp]
theorem depth_openCap (ledger : Ledger) (limit : Tokens) :
    (ledger.openCap limit).depth = ledger.depth + 1 := List.length_append

/-- The level that cannot take an amount is the whole render or an open cap. -/
theorem le_depth_of_refusalLevel? {ledger : Ledger} {amount : Tokens} {level : Nat}
    (h : ledger.refusalLevel? amount = some level) : level ≤ ledger.depth := by
  rw [refusalLevel?] at h
  split at h
  · cases h
    exact Nat.zero_le _
  · obtain ⟨position, hposition, rfl⟩ := Option.map_eq_some_iff.1 h
    obtain ⟨hlt, -⟩ := List.findIdx?_eq_some_iff_getElem.1 hposition
    exact hlt

/-- A level that refuses something in a run over a ledger, and that is not one which the run opens
itself: it cannot take an amount, at once, after something was charged, or inside a cap. -/
inductive Refuses : Ledger → Nat → Prop where
  /-- It is the outermost that cannot take an amount. -/
  | single {ledger : Ledger} {amount : Tokens} {level : Nat}
    (h : ledger.refusalLevel? amount = some level) : Refuses ledger level
  /-- It refuses something after other content was charged. -/
  | next {ledger : Ledger} {amount : Tokens} {level : Nat} (before : ledger.Admits amount)
    (after : Refuses (ledger.charge amount) level) : Refuses ledger level
  /-- It refuses something inside a cap, and is not the level of that. -/
  | inside {ledger : Ledger} {limit : Tokens} {level : Nat}
    (within : Refuses (ledger.openCap limit) level) (hother : level ≠ ledger.depth + 1) :
    Refuses ledger level

/-- A level that refuses something was open before. -/
theorem Refuses.le_depth {ledger : Ledger} {level : Nat} (h : ledger.Refuses level) :
    level ≤ ledger.depth := by
  induction h with
  | single h => exact le_depth_of_refusalLevel? h
  | next _ _ ih => rwa [depth_charge] at ih
  | inside _ hother ih =>
    rw [depth_openCap] at ih
    omega

/-- What refuses something after content was charged did so in the run as a whole. -/
theorem Refuses.after {before ledger : Ledger} {amount : Tokens} {level : Nat}
    (h : ledger.Refuses level) (hledger : ledger = before.charge amount)
    (hadmits : before.Admits amount) : before.Refuses level := .next hadmits (hledger ▸ h)

/-- What refuses something under an optional cap, and is not the level of that, does so without
it. -/
theorem Refuses.ofOpenCap? {ledger : Ledger} {limit : Option Tokens} {level : Nat}
    (h : (ledger.openCap? limit).2.Refuses level) (hother : (ledger.openCap? limit).1 ≠ some level) :
    ledger.Refuses level := by
  cases limit with
  | none => exact h
  | some limit => exact .inside h fun heq => hother (congrArg some heq.symm)

end Ledger

namespace Render

variable (env : Environment)

/-- The outer one of two levels is one of them. -/
theorem outermost_eq_some {first second : Option Nat} {level : Nat}
    (h : outermost first second = some level) : first = some level ∨ second = some level := by
  cases first with
  | none => exact .inr h
  | some a =>
    cases second with
    | none => exact .inl h
    | some b =>
      have hmin : min a b = level := Option.some.inj h
      rcases Nat.le_total a b with hle | hle
      · exact .inl (by rw [← hmin, Nat.min_eq_left hle])
      · exact .inr (by rw [← hmin, Nat.min_eq_right hle])

/-- The level of two runs is that of one of them. -/
theorem level?_followedBy_eq_some {first second : Outcome} {level : Nat}
    (h : (first.followedBy second).level? = some level) :
    first.level? = some level ∨ second.level? = some level := by
  cases second with
  | finished signal => exact outermost_eq_some h
  | refused _ => exact .inr h

/-- A run passes on only levels that refused something in it and that it did not open, and charges
what its messages cost. -/
structure Step.PassesOn (before : Ledger) (step : Step) : Prop
    extends step.Charges env before where
  /-- The level that it passes on refused something. -/
  refuses : ∀ level, step.outcome.level? = some level → before.Refuses level

/-- A loop between two items passes on only levels that refused something in it and are not its
own, and has charged what the messages of the items so far cost. -/
structure LoopState.PassesOn (opened : Ledger) (own : Option Nat) (state : LoopState) : Prop
    extends state.Charges env opened where
  /-- The level that it passes on refused something. -/
  refuses : ∀ level, state.signal = some level → opened.Refuses level
  /-- It is not the level of the loop. -/
  ne_own : ∀ level, state.signal = some level → own ≠ some level

/-- A message passes on the level that refused it, unless it is its own. -/
theorem say_passesOn (scope : Scope) (message : Blueprint.Message) (ledger : Ledger) :
    (say env scope message ledger).PassesOn env ledger := by
  refine ⟨say_charges env scope message ledger, fun level hlevel => ?_⟩
  rw [say] at hlevel
  cases htext : Text.contentful? (env.text scope message.content) with
  | none =>
    rw [htext] at hlevel
    cases hlevel
  | some text =>
    rw [htext] at hlevel
    dsimp only at hlevel
    cases hspend : (ledger.openCap? message.budget).2.spend (env.estimate text) with
    | ok charged =>
      rw [hspend] at hlevel
      cases hlevel
    | error refusal =>
      rw [hspend] at hlevel
      dsimp only at hlevel
      split at hlevel
      · cases hlevel
      · next hother =>
        cases hlevel
        exact .ofOpenCap? (.single ((Ledger.spend_eq_error_iff _).1 hspend).1) hother

/-- An item passes on what its nodes do, or the level that refused its separator. -/
theorem separate_passesOn (header : Blueprint.Loop) (scope : Scope) (groups : List (List Entry))
    {before : Ledger} {run : Step} (h : run.PassesOn env before) :
    (separate env header scope groups run).PassesOn env before := by
  refine ⟨separate_charges env header scope groups h.toCharges, fun level hlevel => ?_⟩
  rw [separate] at hlevel
  split at hlevel
  · exact h.refuses level hlevel
  · split at hlevel
    · exact h.refuses level hlevel
    · split at hlevel
      · exact h.refuses level hlevel
      · next refusal hspend =>
        cases hlevel
        have hrefused := ((Ledger.spend_eq_error_iff _).1 hspend).1
        exact .after (.single hrefused) h.ledger_eq h.admits

/-- A loop that takes an item passes on the level that the item does, unless it is its own. -/
theorem afterItem_passesOn {opened : Ledger} {own : Option Nat} {state : LoopState} {run : Step}
    (hstate : state.PassesOn env opened own) (hrun : run.PassesOn env state.ledger) :
    (state.afterItem own run).PassesOn env opened own := by
  have htaken := take_charges env hstate.toCharges hrun.toCharges
  have hsignal : (state.take run).signal = state.signal := by
    rw [LoopState.take]
    split <;> rfl
  cases hlevel : run.outcome.level? with
  | none =>
    rw [LoopState.afterItem, hlevel]
    exact ⟨htaken, fun level h => hstate.refuses level (hsignal ▸ h),
      fun level h => hstate.ne_own level (hsignal ▸ h)⟩
  | some level =>
    -- the item refused something after what the items before it charged
    have hrefuses : opened.Refuses level :=
      .after (hrun.refuses level hlevel) hstate.ledger_eq hstate.admits
    have hboth : ∀ other, ((state.take run).note own level).signal = some other →
        opened.Refuses other ∧ own ≠ some other := by
      intro other hother
      rw [LoopState.note, hsignal] at hother
      dsimp only at hother
      split at hother
      · exact ⟨hstate.refuses other hother, hstate.ne_own other hother⟩
      · next hown =>
        rcases outermost_eq_some hother with hold | hnew
        · exact ⟨hstate.refuses other hold, hstate.ne_own other hold⟩
        · cases hnew
          exact ⟨hrefuses, hown⟩
    rw [LoopState.afterItem, hlevel]
    exact ⟨⟨htaken.ledger_eq, htaken.admits⟩, fun other h => (hboth other h).1,
      fun other h => (hboth other h).2⟩

/-- The items of a loop pass on only levels that are not its own, if what is done for an item passes
on only levels that it did not open. -/
theorem takeItems_passesOn (header : Blueprint.Loop) (own : Option Nat) (scope : Scope)
    {body : Scope → Ledger → Step}
    (hbody : ∀ inner before, (body inner before).PassesOn env before)
    {opened : Ledger} (items : List Json) (index : Nat) {state : LoopState}
    (hstate : state.PassesOn env opened own) :
    (takeItems env header own scope body items index state).PassesOn env opened own := by
  induction items generalizing index state with
  | nil => exact hstate
  | cons item rest ih =>
    have hrun : (itemRun env header scope body index item state).PassesOn env state.ledger :=
      separate_passesOn env header _ _ (hbody _ _)
    have hafter := afterItem_passesOn env hstate hrun
    rw [takeItems_cons_eq]
    split
    · exact ⟨⟨hafter.ledger_eq, hafter.admits⟩, hafter.refuses, hafter.ne_own⟩
    · exact ih (index + 1) hafter

/-- A loop passes on only levels that it did not open, if what is done for an item does. -/
theorem runLoop_passesOn (header : Blueprint.Loop) (scope : Scope)
    {body : Scope → Ledger → Step}
    (hbody : ∀ inner before, (body inner before).PassesOn env before) (ledger : Ledger) :
    (runLoop env header scope body ledger).PassesOn env ledger := by
  have hstart : (LoopState.start env header scope ledger).PassesOn env
      (ledger.openCap? header.budget).2 (ledger.openCap? header.budget).1 :=
    ⟨⟨by simp [LoopState.start], .nothing _⟩, fun _ h => (nomatch h), fun _ h => nomatch h⟩
  have hlast := takeItems_passesOn env header _ scope hbody (loopItems env scope header) 0 hstart
  refine ⟨runLoop_charges env header scope body (fun inner before => (hbody inner before).toCharges)
    ledger, fun level hlevel => ?_⟩
  rw [runLoop_eq] at hlevel
  exact (hlast.refuses level hlevel).ofOpenCap? (hlast.ne_own level hlevel)

/-- A run after another one passes on what refused something in either. -/
theorem join_passesOn {before : Ledger} {first others : Step} (hfirst : first.PassesOn env before)
    (hothers : others.PassesOn env first.ledger) : (first.join others).PassesOn env before := by
  refine ⟨join_charges env hfirst.toCharges hothers.toCharges, fun level hlevel => ?_⟩
  rcases level?_followedBy_eq_some hlevel with h | h
  · exact hfirst.refuses level h
  · exact .after (hothers.refuses level h) hfirst.ledger_eq hfirst.admits

mutual

/-- A node of a plan passes on only levels that it did not open. -/
theorem runNode_passesOn (scope : Scope) (atomic : Bool) (node : Blueprint.PlanNode)
    (ledger : Ledger) : (runNode env scope atomic node ledger).PassesOn env ledger := by
  match node with
  | .message details => exact say_passesOn env scope details ledger
  | .forEach header body =>
    rw [runNode]
    exact runLoop_passesOn env header scope
      (fun inner before => runNodes_passesOn inner true body before) ledger
  | .branch condition whenTrue whenFalse =>
    rw [runNode]
    split
    · exact runNodes_passesOn scope atomic whenTrue ledger
    · exact runNodes_passesOn scope atomic whenFalse ledger

theorem runNodes_passesOn (scope : Scope) (atomic : Bool) (nodes : List Blueprint.PlanNode)
    (ledger : Ledger) : (runNodes env scope atomic nodes ledger).PassesOn env ledger := by
  match nodes with
  | [] => exact ⟨idle_charges env ledger, fun _ h => nomatch h⟩
  | node :: rest =>
    have hfirst := runNode_passesOn scope atomic node ledger
    rw [runNodes_cons]
    split
    · exact hfirst
    · exact join_passesOn env hfirst (runNodes_passesOn scope atomic rest _)

end

/-- Nodes that are not atomic go through, whatever is refused in them. -/
theorem exists_outcome_runNodes (scope : Scope) (nodes : List Blueprint.PlanNode)
    (ledger : Ledger) : ∃ signal, (runNodes env scope false nodes ledger).outcome = .finished signal := by
  induction nodes generalizing ledger with
  | nil => exact ⟨none, rfl⟩
  | cons node rest ih =>
    obtain ⟨signal, hsignal⟩ := ih (runNode env scope false node ledger).ledger
    rw [runNodes_cons, Bool.false_and, if_neg Bool.false_ne_true, Step.join, hsignal]
    exact ⟨_, rfl⟩

/-- What a run of nodes does to the ledger and says of what was refused in it. -/
structure Step.IsContained (atomic : Bool) (before : Ledger) (run : Step) : Prop where
  /-- As many caps are open as before. -/
  depth_eq : run.ledger.depth = before.depth
  /-- They have the limits that they had. -/
  limits_eq : run.ledger.caps.map Cap.limit = before.caps.map Cap.limit
  /-- The same is set aside. -/
  floors_eq : run.ledger.floors = before.floors
  /-- The same may be spent altogether. -/
  capacity_eq : run.ledger.capacity = before.capacity
  /-- The level that is passed on, whether the run went through or was given up, was open before. -/
  level_le : ∀ level, run.outcome.level? = some level → level ≤ before.depth
  /-- It refused something in the run. -/
  refuses : ∀ level, run.outcome.level? = some level → before.Refuses level
  /-- A run that is not atomic goes through. -/
  finished : atomic = false → ∃ signal, run.outcome = .finished signal
  /-- Altogether as much was spent as the messages of the run cost. -/
  spent_eq : run.ledger.spent.toNat = before.spent.toNat + env.toll run.entries
  /-- So it was inside each cap that is open. -/
  capsSpent_eq : run.ledger.caps.map (fun cap => cap.spent.toNat) =
    before.caps.map fun cap => cap.spent.toNat + env.toll run.entries

/-- What a run says it passes on, and what its messages cost, is all that it does. -/
theorem Step.PassesOn.isContained {before : Ledger} {run : Step} {atomic : Bool}
    (h : run.PassesOn env before) (hfits : env.toll run.entries ≤ before.remaining.toNat)
    (hfinished : atomic = false → ∃ signal, run.outcome = .finished signal) :
    run.IsContained env atomic before := by
  have hprice : (env.price run.entries).toNat = env.toll run.entries :=
    toNat_price env (Nat.lt_of_le_of_lt hfits before.remaining.toNat_lt)
  have hledger := h.ledger_eq
  rw [← hprice] at hfits
  refine ⟨?_, ?_, ?_, ?_, fun level hlevel => (h.refuses level hlevel).le_depth, h.refuses,
    hfinished, ?_, ?_⟩
  · rw [hledger, Ledger.depth_charge]
  · rw [hledger, Ledger.limits_charge]
  · rw [hledger]
    rfl
  · rw [hledger]
    rfl
  · rw [hledger, Ledger.toNat_spent_charge _ hfits, hprice]
  · rw [hledger, Ledger.map_toNat_spent_charge _ hfits, hprice]

/-- Refusals are contained where they arise: whatever nodes are run, over any ledger and atomically or
not, the run leaves open what was open, with its limits and all that is set aside, and passes on only
levels that were open before. It charges the cost of its messages at every level, and nothing else.
The plan of a slot goes through, whatever is refused in it. -/
theorem refusals_contained :
    (∀ (scope : Scope) (atomic : Bool) (nodes : List Blueprint.PlanNode) (ledger : Ledger),
      (runNodes env scope atomic nodes ledger).IsContained env atomic ledger) ∧
    ∀ (slot : Blueprint.Slot) (ledger : Ledger), ∃ signal,
      (runNodes env env.root false slot.plan (ledger.openCap? slot.budget).2).outcome =
        .finished signal := by
  refine ⟨fun scope atomic nodes ledger => ?_,
    fun slot ledger => exists_outcome_runNodes env env.root slot.plan _⟩
  refine (runNodes_passesOn env scope atomic nodes ledger).isContained env
    (runNodes_fits env scope atomic nodes ledger).toll_le ?_
  rintro rfl
  exact exists_outcome_runNodes env scope nodes ledger

open Sample in
/-- The loop over the tales fills its own cap, which is the second level, and contains what that
refuses. The end that is told after it does not fit the cap around both, which is the first. -/
theorem refusals_contained_capped :
    let run := runNodes talesEnvironment talesEnvironment.root true
      [.forEach cappedLoop cappedNodes, .message cappedEnd] ((Ledger.ofCapacity 20).openCap 6)
    run.outcome = .refused 1 ∧ run.tally.truncated = true ∧ run.ledger = ⟨20, 5, [], [⟨6, 5⟩]⟩ ∧
      run.IsContained talesEnvironment true ((Ledger.ofCapacity 20).openCap 6) :=
  ⟨by decide +kernel, by decide +kernel, by decide +kernel,
    (refusals_contained talesEnvironment).1 _ true _ _⟩

end Render

end ChatPrompt
