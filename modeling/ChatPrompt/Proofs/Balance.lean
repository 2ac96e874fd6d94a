import ChatPrompt.Proofs.Counting
import ChatPrompt.Proofs.Exhaustion

/-!
# What is counted adds up

A loop counts its items when it starts. Each of them is later counted as included or as dropped,
also where the loop gives up those that are left, and what loops inside an item have counted stays
counted whatever becomes of the item. So in a slot the items included and dropped are all the items
that there were, and where any was dropped something was refused. A lane puts in no more requests
than are addressed to it, and what it says that it dropped is the difference.
-/

namespace ChatPrompt

namespace Render

namespace Tally

/-- A count adds up: all items were included or dropped, and none was dropped unless something was
refused. -/
structure IsBalanced (tally : Tally) : Prop where
  /-- The items included and the items dropped are all that there were. -/
  conserved : tally.included + tally.dropped = tally.total
  /-- Where an item was dropped, something was refused. -/
  truncated_of_dropped : 0 < tally.dropped → tally.truncated = true

/-- Where nothing was counted, nothing is missing. -/
theorem isBalanced_zero : zero.IsBalanced := ⟨rfl, nofun⟩

/-- A mark of a refusal does not count any item. -/
theorem isBalanced_mark (truncated : Bool) : IsBalanced ⟨0, 0, 0, truncated⟩ := ⟨rfl, nofun⟩

/-- Two counts that add up do so together. -/
theorem IsBalanced.add {first second : Tally} (hfirst : first.IsBalanced)
    (hsecond : second.IsBalanced) : (first.add second).IsBalanced := by
  have hconserved := hfirst.conserved
  have hothers := hsecond.conserved
  constructor
  · simp only [Tally.add]
    omega
  · intro hdropped
    simp only [Tally.add] at hdropped ⊢
    rw [Bool.or_eq_true]
    rcases Nat.eq_zero_or_pos first.dropped with hnone | hsome
    · exact Or.inr (hsecond.truncated_of_dropped (by omega))
    · exact Or.inl (hfirst.truncated_of_dropped hsome)

end Tally

/-- A loop between two items has counted all items but those that are left, and it is truncated if
any was dropped. -/
structure LoopState.Balances (left : Nat) (state : LoopState) : Prop where
  /-- The items included, the items dropped and those that are left are all that there were. -/
  conserved : state.tally.included + state.tally.dropped + left = state.tally.total
  /-- Where an item was dropped, something was refused. -/
  truncated_of_dropped : 0 < state.tally.dropped → state.tally.truncated = true

namespace LoopState.Balances

variable {left : Nat} {state : LoopState}

/-- A loop with no items left has counted all of them. -/
theorem isBalanced (h : state.Balances 0) : state.tally.IsBalanced :=
  ⟨h.conserved, h.truncated_of_dropped⟩

/-- An item is counted once, and the items inside it add up by themselves. -/
theorem afterItem (h : state.Balances (left + 1)) {run : Step} (hrun : run.tally.IsBalanced)
    (own : Option Nat) : (state.afterItem own run).Balances left := by
  have hconserved := h.conserved
  have hinside := hrun.conserved
  constructor
  · have hone : (!run.outcome.isRefused).toNat + run.outcome.isRefused.toNat = 1 := by
      cases run.outcome.isRefused <;> rfl
    rw [tally_afterItem]
    simp only [Tally.add]
    omega
  · intro hdropped
    rw [tally_afterItem] at hdropped ⊢
    simp only [Tally.add] at hdropped ⊢
    rw [Bool.or_eq_true, Bool.or_eq_true]
    -- what was dropped is an item before, one inside the item, or the item itself
    cases hrefused : run.outcome.isRefused with
    | true => exact Or.inr (isSome_level?_of_isRefused hrefused)
    | false =>
      rw [hrefused] at hdropped
      rcases Nat.eq_zero_or_pos state.tally.dropped with hnone | hsome
      · exact Or.inl (Or.inr (hrun.truncated_of_dropped (by simpa [hnone] using hdropped)))
      · exact Or.inl (Or.inl (h.truncated_of_dropped hsome))

/-- A loop that gives up the items that are left counts them as dropped. -/
theorem stop (h : state.Balances left) (htruncated : state.tally.truncated = true) :
    (state.stop left).Balances 0 := by
  have hconserved := h.conserved
  constructor
  · simp only [LoopState.stop, Tally.add]
    omega
  · intro _
    simp only [LoopState.stop, Tally.add, htruncated, Bool.true_or]

end LoopState.Balances

variable (env : Environment)

theorem isBalanced_say (scope : Scope) (message : Blueprint.Message) (ledger : Ledger) :
    (say env scope message ledger).tally.IsBalanced := by
  rw [say]
  split
  · exact Tally.isBalanced_zero
  · dsimp only
    split
    · exact Tally.isBalanced_zero
    · split
      · exact Tally.isBalanced_mark true
      · exact Tally.isBalanced_zero

/-- A loop has counted all of its items in the end, if what is done for an item adds up. -/
theorem balances_takeItems (header : Blueprint.Loop) (own : Option Nat) (scope : Scope)
    {body : Scope → Ledger → Step} (hbody : ∀ inner before, (body inner before).tally.IsBalanced)
    (items : List Json) (index : Nat) {state : LoopState} (h : state.Balances items.length) :
    (takeItems env header own scope body items index state).Balances 0 := by
  induction items generalizing index state with
  | nil => exact h
  | cons item rest ih =>
    have hinside : (itemRun env header scope body index item state).tally.IsBalanced := by
      rw [tally_itemRun]
      exact hbody _ _
    have hafter := h.afterItem hinside own
    rw [takeItems_cons_eq]
    split
    · next hends =>
      -- the loop ends because something was refused in the item, which is noted
      refine hafter.stop ?_
      rw [tally_afterItem, (Bool.and_eq_true_iff.1 hends).2]
      exact Bool.or_true _
    · exact ih (index + 1) hafter

mutual

/-- The count of a node of a plan adds up. -/
theorem isBalanced_runNode (scope : Scope) (atomic : Bool) (node : Blueprint.PlanNode)
    (ledger : Ledger) : (runNode env scope atomic node ledger).tally.IsBalanced := by
  match node with
  | .message details => exact isBalanced_say env scope details ledger
  | .forEach header body =>
    rw [runNode, runLoop_eq]
    have hstart : (LoopState.start env header scope ledger).Balances
        (loopItems env scope header).length := ⟨Nat.zero_add _, nofun⟩
    exact (balances_takeItems env header _ scope
      (fun inner before => isBalanced_runNodes inner true body before) _ 0 hstart).isBalanced
  | .branch condition whenTrue whenFalse =>
    rw [runNode]
    split
    · exact isBalanced_runNodes scope atomic whenTrue ledger
    · exact isBalanced_runNodes scope atomic whenFalse ledger

theorem isBalanced_runNodes (scope : Scope) (atomic : Bool) (nodes : List Blueprint.PlanNode)
    (ledger : Ledger) : (runNodes env scope atomic nodes ledger).tally.IsBalanced := by
  match nodes with
  | [] => exact Tally.isBalanced_zero
  | node :: rest =>
    have hfirst := isBalanced_runNode scope atomic node ledger
    rw [runNodes_cons]
    split
    · exact hfirst
    · exact hfirst.add (isBalanced_runNodes scope atomic rest _)

end

/-- The count of a slot adds up. -/
theorem isBalanced_fillSlot (slot : Blueprint.Slot) (ledger : Ledger) :
    (fillSlot env slot ledger).1.stats.tally.IsBalanced := by
  rw [fillSlot]
  split
  · exact (isBalanced_runNodes env env.root false slot.plan _).add (Tally.isBalanced_mark _)
  · exact Tally.isBalanced_zero

end Render

namespace Injection

open Render

/-- How many requests a lane left out, under its key, if there are any. -/
def LaneStats.leftOut? (stats : LaneStats) : Option (String × Nat) :=
  if stats.included = stats.total then none
  else some (laneFloor stats.id, stats.total - stats.included)

/-- What lanes report adds up: none puts in more requests than it was given, and what was dropped
is what they left out. -/
structure Injected.IsBalanced (injected : Injected) : Prop where
  /-- No lane puts in more requests than it was given. -/
  included_le : ∀ stats ∈ injected.lanes, stats.included ≤ stats.total
  /-- What was dropped is what the lanes left out. -/
  drops_eq : injected.drops.map (fun dropped => (dropped.scope, dropped.count)) =
    injected.lanes.filterMap LaneStats.leftOut?

/-- A lane drops what it leaves out. -/
theorem map_laneDrop {stats : LaneStats} (h : stats.included ≤ stats.total) (exhausted : Bool) :
    (laneDrop stats exhausted).toList.map (fun dropped => (dropped.scope, dropped.count)) =
      stats.leftOut?.toList := by
  rw [laneDrop, LaneStats.leftOut?]
  by_cases hall : stats.included = stats.total
  · rw [if_pos hall, if_neg (by omega)]
    rfl
  · rw [if_neg hall, if_pos (by omega)]
    rfl

/-- A lane reports under its name how many requests it was given and how many it put in, which are
no more, and drops the difference. -/
theorem injectLane_reports (estimate : Estimator) (requests : List Request) (before : Injected)
    (lane : Blueprint.Lane) :
    ∃ stats exhausted,
      (injectLane estimate requests before lane).lanes = before.lanes ++ [stats] ∧
      (injectLane estimate requests before lane).drops =
        before.drops ++ (laneDrop stats exhausted).toList ∧
      stats.id = lane.id ∧ stats.total = (served lane.id requests).length ∧
      stats.included ≤ stats.total := by
  have hcounts := foldl_add_counts estimate lane before.placed
    (blocks lane (served lane.id requests))
    (⟨Nat.le_refl 0, nofun⟩ : LaneState.Counts 0
      ⟨before.ledger.release (laneFloor lane.id), 0, 0, [], false⟩)
  have hblocks := countEntries_blocks lane (served lane.id requests)
  rw [Nat.zero_add] at hcounts
  exact ⟨_, _, rfl, rfl, rfl, rfl, Nat.le_trans hcounts.included_le hblocks⟩

/-- One more lane adds up as well. -/
theorem Injected.IsBalanced.injectLane {before : Injected} (h : before.IsBalanced)
    (estimate : Estimator) (requests : List Request) (lane : Blueprint.Lane) :
    (injectLane estimate requests before lane).IsBalanced := by
  obtain ⟨stats, exhausted, hlanes, hdrops, -, -, hle⟩ :=
    injectLane_reports estimate requests before lane
  constructor
  · rw [hlanes]
    intro other hother
    rcases List.mem_append.1 hother with hearlier | hlast
    · exact h.included_le other hearlier
    · rw [List.mem_singleton.1 hlast]
      exact hle
  · have hlast : [stats].filterMap LaneStats.leftOut? = stats.leftOut?.toList := by
      cases hleft : stats.leftOut? <;> simp [hleft]
    rw [hlanes, hdrops, List.map_append, List.filterMap_append, h.drops_eq, hlast,
      map_laneDrop hle exhausted]

theorem Injected.IsBalanced.foldl_injectLane (estimate : Estimator) (requests : List Request)
    (lanes : List Blueprint.Lane) {before : Injected} (h : before.IsBalanced) :
    (lanes.foldl (Injection.injectLane estimate requests) before).IsBalanced := by
  induction lanes generalizing before with
  | nil => exact h
  | cons lane rest ih => exact ih (h.injectLane estimate requests lane)

/-- Lanes report one after the other what they were given. -/
theorem lanes_foldl_injectLane (estimate : Estimator) (requests : List Request)
    (lanes : List Blueprint.Lane) (before : Injected) :
    (lanes.foldl (injectLane estimate requests) before).lanes.map
        (fun stats => (stats.id, stats.total)) =
      before.lanes.map (fun stats => (stats.id, stats.total)) ++
        lanes.map fun lane => (lane.id, (served lane.id requests).length) := by
  induction lanes generalizing before with
  | nil => simp
  | cons lane rest ih =>
    obtain ⟨stats, exhausted, hlanes, -, hid, htotal, -⟩ :=
      injectLane_reports estimate requests before lane
    rw [List.foldl_cons, ih, hlanes, List.map_append, List.map_singleton, hid, htotal,
      List.append_assoc]
    rfl

end Injection

namespace Render

open Injection

variable (env : Environment)

/-- Items and requests are conserved in what is reported. In a slot, whatever its loops and those
inside them did, the items included and those dropped are all that there were, and none was dropped
unless something was refused. Each lane that is used reports how many requests were addressed to it
and that it put in no more; and a drop is reported for exactly those lanes that put in fewer, in
their order, of as many requests as are missing. -/
theorem included_add_dropped_eq_total :
    (∀ (slot : Blueprint.Slot) (ledger : Ledger),
      let tally := (fillSlot env slot ledger).1.stats.tally
      tally.included + tally.dropped = tally.total ∧
        (0 < tally.dropped → tally.truncated = true)) ∧
    ∀ (lanes : List Blueprint.Lane) (requests : List Request) (placed : List Placed)
      (ledger : Ledger),
      let injected := inject env.estimate lanes requests placed ledger
      injected.lanes.map (fun stats => (stats.id, stats.total)) =
          (lanesInOrder lanes).map (fun lane => (lane.id, (served lane.id requests).length)) ∧
        (∀ stats ∈ injected.lanes, stats.included ≤ stats.total) ∧
        injected.drops.map (fun dropped => (dropped.scope, dropped.count)) =
          injected.lanes.filterMap LaneStats.leftOut? := by
  constructor
  · intro slot ledger
    have hslot := isBalanced_fillSlot env slot ledger
    exact ⟨hslot.conserved, hslot.truncated_of_dropped⟩
  · intro lanes requests placed ledger
    have hstart : (⟨placed, ledger, [], []⟩ : Injected).IsBalanced := ⟨nofun, rfl⟩
    have hlanes := hstart.foldl_injectLane env.estimate requests (lanesInOrder lanes)
    exact ⟨lanes_foldl_injectLane env.estimate requests (lanesInOrder lanes) _,
      hlanes.included_le, hlanes.drops_eq⟩

open Sample in
/-- With room for five tokens one of the two tales is dropped, beside the three of their parts, and
the slot is truncated. Of two requests with room for one, the lane drops the other. -/
theorem included_add_dropped_eq_total_tales :
    (fillSlot talesEnvironment talesSlot (Ledger.ofCapacity 5)).1.stats.tally.dropped = 1 ∧
      (fillSlot talesEnvironment talesSlot (Ledger.ofCapacity 5)).1.stats.tally.truncated = true ∧
      (fillSlot talesEnvironment talesSlot (Ledger.ofCapacity 5)).1.stats.tally.included + 1 = 5 ∧
      (inject talesEnvironment.estimate blueprint.lanes
          [⟨"lore", [], .string "z", 0, none⟩, ⟨"lore", [], .string "y", 0, none⟩] []
          (Ledger.ofCapacity 1)).drops.map (fun dropped => (dropped.scope, dropped.count)) =
        [("lane:lore", 1)] := by
  obtain ⟨hslots, hlanes⟩ := included_add_dropped_eq_total talesEnvironment
  have hdropped : (fillSlot talesEnvironment talesSlot
      (Ledger.ofCapacity 5)).1.stats.tally.dropped = 1 := by decide +kernel
  have htotal : (fillSlot talesEnvironment talesSlot
      (Ledger.ofCapacity 5)).1.stats.tally.total = 5 := by decide +kernel
  obtain ⟨hconserved, htruncated⟩ := hslots talesSlot (Ledger.ofCapacity 5)
  rw [hdropped, htotal] at hconserved
  refine ⟨hdropped, htruncated (by omega), hconserved, ?_⟩
  exact (hlanes blueprint.lanes _ [] (Ledger.ofCapacity 1)).2.2.trans (by cbv)

end Render

end ChatPrompt
