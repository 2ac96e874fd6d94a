import ChatPrompt.Injection.Lanes
import ChatPrompt.Proofs.Charging
import ChatPrompt.Proofs.Weaving

/-!
# Lanes charge what they put in

A lane first gives up what was set aside for it and then charges exactly the cost of the
messages that it puts into the prompt, by charges that were accepted. The messages that were
there before stay, whatever gaps the new ones go into.
-/

namespace ChatPrompt.Injection

open Render

variable (env : Environment)

/-- A lane between two blocks has charged what its messages so far cost. -/
structure LaneState.Charges (start : Ledger) (state : LaneState) : Prop where
  /-- The ledger is the one at the start with the cost charged. -/
  ledger_eq : state.ledger = start.charge state.tokens
  /-- The cost is that of the messages. -/
  tokens_eq : state.tokens = env.costs (state.inserts.map fun insert => insert.2.message)
  /-- The cost was accepted bit by bit. -/
  admits : start.Admits state.tokens

/-- A lane between its release and its blocks has charged nothing. -/
theorem charges_start (ledger : Ledger) :
    LaneState.Charges env ledger ⟨ledger, 0, 0, [], false⟩ :=
  ⟨by simp, rfl, .nothing ledger⟩

/-- A block is charged as the one message that it becomes. -/
theorem insert_charges (lane : Blueprint.Lane) (placed : List Placed) (block : Block)
    (accepted : List String) {start : Ledger} {state : LaneState}
    (h : state.Charges env start) :
    (state.insert env.estimate lane placed block accepted).Charges env start := by
  simp only [LaneState.insert]
  cases hspend : state.ledger.spend (env.estimate (compose lane block.group accepted)) with
  | error refusal => exact ⟨h.ledger_eq, h.tokens_eq, h.admits⟩
  | ok charged =>
    obtain ⟨hnone, hcharged⟩ := (Ledger.spend_eq_ok_iff _).1 hspend
    constructor
    · dsimp only
      rw [hcharged, h.ledger_eq, Ledger.charge_charge]
    · dsimp only
      rw [List.map_append, costs_append, h.tokens_eq]
      simp [Environment.cost, Message.of]
    · exact .next h.admits (.single (h.ledger_eq ▸ hnone))

/-- A block is charged, or nothing of it is admitted. -/
theorem add_charges (lane : Blueprint.Lane) (placed : List Placed) (block : Block)
    {start : Ledger} {state : LaneState} (h : state.Charges env start) :
    (state.add env.estimate lane placed block).Charges env start := by
  rw [LaneState.add]
  split
  · exact h
  · have hnoted : ∀ exhausted,
        ({ state with exhausted := exhausted } : LaneState).Charges env start :=
      fun _ => ⟨h.ledger_eq, h.tokens_eq, h.admits⟩
    dsimp only
    split
    · exact hnoted _
    · exact insert_charges env lane placed block _ (hnoted _)

theorem foldl_add_charges (lane : Blueprint.Lane) (placed : List Placed) (blocks : List Block)
    {start : Ledger} {state : LaneState} (h : state.Charges env start) :
    (blocks.foldl (LaneState.add env.estimate lane placed) state).Charges env start := by
  induction blocks generalizing state with
  | nil => exact h
  | cons block rest ih => exact ih (add_charges env lane placed block h)

/-- What a lane does: some messages join those that were there, and their cost is charged
after the reserve of the lane was given up. -/
structure Joins (lane : Blueprint.Lane) (before after : Injected) (inserted : List Placed) :
    Prop where
  /-- The messages are those that were there and the new ones. -/
  placed_perm : after.placed.Perm (before.placed ++ inserted)
  /-- The new messages are charged. -/
  ledger_eq : after.ledger = (before.ledger.release (laneFloor lane.id)).charge
    (env.costs (inserted.map Placed.message))
  /-- Their cost was accepted bit by bit. -/
  admits : (before.ledger.release (laneFloor lane.id)).Admits
    (env.costs (inserted.map Placed.message))
  /-- The lane reports their cost. -/
  lanes_eq : ∃ stats, after.lanes = before.lanes ++ [stats] ∧
    stats.tokens = env.costs (inserted.map Placed.message)

/-- Injecting a lane makes some messages join. -/
theorem injectLane_joins (requests : List Request) (before : Injected)
    (lane : Blueprint.Lane) :
    ∃ inserted, Joins env lane before (injectLane env.estimate requests before lane)
      inserted := by
  have hcharges := foldl_add_charges env lane before.placed
    (blocks lane (served lane.id requests))
    (charges_start env (before.ledger.release (laneFloor lane.id)))
  generalize hstate : (blocks lane (served lane.id requests)).foldl
    (LaneState.add env.estimate lane before.placed)
      ⟨before.ledger.release (laneFloor lane.id), 0, 0, [], false⟩ = state at hcharges
  have htokens : state.tokens = env.costs ((state.inserts.map Prod.snd).map Placed.message) := by
    rw [hcharges.tokens_eq, List.map_map]
    rfl
  refine ⟨state.inserts.map Prod.snd, ?_, ?_, ?_, ?_⟩
  · simp only [injectLane, hstate]
    exact weave_perm before.placed state.inserts
  · simp only [injectLane, hstate]
    rw [← htokens, hcharges.ledger_eq]
  · rw [← htokens]
    exact hcharges.admits
  · simp only [injectLane, hstate]
    exact ⟨_, rfl, htokens⟩

end ChatPrompt.Injection
