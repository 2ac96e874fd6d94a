import ChatPrompt.Proofs.Accounting
import ChatPrompt.Proofs.Conservation
import ChatPrompt.Proofs.Holdings
import ChatPrompt.Proofs.Precedence
import ChatPrompt.Proofs.Renumbering
import ChatPrompt.Proofs.Totals

/-!
# The order of a layout decides positions only

If no two slots have the same priority, the order of the layout decides nothing but where messages
stand. In another order the same texts are set aside, though under other keys; the slots are filled
in the same order, though they have other numbers; and before each slot the same amount is set aside
altogether, which is all that a slot sees of it. So each slot is filled with the same messages, and
the lanes find the same ledger, of which they admit the same.
-/

namespace ChatPrompt

namespace Injection

open Render

variable {estimate : Estimator} {lane : Blueprint.Lane} {placed others : List Placed}

/-- Two lanes have done the same, wherever their messages go. -/
structure LaneState.Alike (state other : LaneState) : Prop where
  /-- The ledgers are the same. -/
  ledger_eq : other.ledger = state.ledger
  /-- The costs are the same. -/
  tokens_eq : other.tokens = state.tokens
  /-- As many requests are in the messages. -/
  included_eq : other.included = state.included
  /-- The messages are the same. -/
  inserted_eq : other.inserts.map Prod.snd = state.inserts.map Prod.snd
  /-- The lanes have both run out, or neither has. -/
  exhausted_eq : other.exhausted = state.exhausted

/-- A block becomes the same message, wherever it goes. -/
theorem insert_alike (block : Block) (accepted : List String) {state other : LaneState}
    (h : state.Alike other) : (state.insert estimate lane placed block accepted).Alike
      (other.insert estimate lane others block accepted) := by
  have hinserted : ∀ entry : Placed, ∀ gap again,
      (other.inserts ++ [(gap, entry)]).map Prod.snd =
        (state.inserts ++ [(again, entry)]).map Prod.snd := by
    intro entry gap again
    rw [List.map_append, List.map_append, h.inserted_eq]
    rfl
  rw [LaneState.insert, LaneState.insert, h.ledger_eq, h.tokens_eq, h.included_eq]
  cases state.ledger.spend (estimate (compose lane block.group accepted)) with
  | error refusal => exact ⟨rfl, rfl, rfl, h.inserted_eq, rfl⟩
  | ok charged => exact ⟨rfl, rfl, rfl, hinserted _ _ _, h.exhausted_eq⟩

/-- As much of a block is admitted, wherever it goes. -/
theorem add_alike (block : Block) {state other : LaneState} (h : state.Alike other) :
    (state.add estimate lane placed block).Alike (other.add estimate lane others block) := by
  rw [LaneState.add, LaneState.add, h.exhausted_eq, h.ledger_eq]
  split
  · exact h
  · have hnoted : ∀ exhausted, LaneState.Alike { state with exhausted := exhausted }
        ⟨state.ledger, other.tokens, other.included, other.inserts, exhausted⟩ := fun exhausted =>
      ⟨rfl, h.tokens_eq, h.included_eq, h.inserted_eq, rfl⟩
    dsimp only
    split
    · exact hnoted _
    · exact insert_alike block _ (hnoted _)

/-- Injecting has done the same, with messages in another order. -/
structure Injected.Alike (injected other : Injected) : Prop where
  /-- The messages are the same. -/
  placed_perm : other.placed.Perm injected.placed
  /-- The ledgers are the same. -/
  ledger_eq : other.ledger = injected.ledger
  /-- The lanes report the same. -/
  lanes_eq : other.lanes = injected.lanes
  /-- The same is dropped. -/
  drops_eq : other.drops = injected.drops

/-- A lane does the same among messages in another order. -/
theorem injectLane_alike (requests : List Request) {before other : Injected}
    (h : before.Alike other) : (injectLane estimate requests before lane).Alike
      (injectLane estimate requests other lane) := by
  have hstate : LaneState.Alike
      ((blocks lane (served lane.id requests)).foldl (LaneState.add estimate lane before.placed)
        ⟨before.ledger.release (laneFloor lane.id), 0, 0, [], false⟩)
      ((blocks lane (served lane.id requests)).foldl (LaneState.add estimate lane other.placed)
        ⟨other.ledger.release (laneFloor lane.id), 0, 0, [], false⟩) := by
    refine List.foldl_rel ?_ fun block _ state again hstate => add_alike block hstate
    exact ⟨by rw [h.ledger_eq], rfl, rfl, rfl, rfl⟩
  have hlength := congrArg List.length hstate.inserted_eq
  rw [List.length_map, List.length_map] at hlength
  rw [injectLane, injectLane]
  refine ⟨?_, hstate.ledger_eq, ?_, ?_⟩
  · refine (weave_perm _ _).trans (List.Perm.trans ?_ (weave_perm _ _).symm)
    rw [hstate.inserted_eq]
    exact h.placed_perm.append_right _
  · rw [hstate.tokens_eq, hstate.included_eq, hlength, h.lanes_eq]
  · rw [hstate.tokens_eq, hstate.included_eq, hlength, hstate.exhausted_eq, h.drops_eq]

/-- All lanes do the same among messages in another order. -/
theorem foldl_injectLane_alike (requests : List Request) (lanes : List Blueprint.Lane)
    {before other : Injected} (h : before.Alike other) :
    (lanes.foldl (injectLane estimate requests) before).Alike
      (lanes.foldl (injectLane estimate requests) other) :=
  List.foldl_rel h fun _ _ _ _ halike => injectLane_alike requests halike

end Injection

namespace Render

variable (env : Environment)

/-- What the texts of an element of the layout cost that go into the prompt, given which slots are
empty. -/
def shownCosts (isEmpty : Nat → Bool) (node : Blueprint.LayoutNode) : List Tokens :=
  ((prepareNode env 0 node).shown isEmpty).map fun held => env.estimate held.text

/-- What a header or footer costs does not depend on the key under which that is set aside. -/
theorem costs_prepareFrame (scope : Scope) (floor key : String) (frame : Option Blueprint.Frame) :
    ((prepareFrame scope floor frame).toList.map fun held => env.estimate held.text) =
      (prepareFrame scope key frame).toList.map fun held => env.estimate held.text := by
  cases frame with
  | none => rfl
  | some frame =>
    simp only [prepareFrame, Option.bind_some]
    cases Text.contentful? (frame.content.render scope) <;> rfl

/-- What the texts of an element cost does not depend on its place. -/
theorem costs_shown_prepareNode (isEmpty : Nat → Bool) (index : Nat)
    (node : Blueprint.LayoutNode) :
    (((prepareNode env index node).shown isEmpty).map fun held => env.estimate held.text) =
      shownCosts env isEmpty node := by
  cases node with
  | message details =>
    simp only [shownCosts, prepareNode]
    split <;> rfl
  | slot place =>
    simp only [shownCosts, prepareNode, PreparedNode.shown]
    split
    · rfl
    · rw [List.map_append, List.map_append,
        costs_prepareFrame env _ (layoutFloor index ++ ".header") (layoutFloor 0 ++ ".header"),
        costs_prepareFrame env _ (layoutFloor index ++ ".footer") (layoutFloor 0 ++ ".footer")]

/-- Buffers of slots with other numbers. -/
def Buffers.renumber (number : Nat → Nat) (buffers : Buffers) : Buffers :=
  buffers.map fun entry => (number entry.1, entry.2)

/-- Buffers have the same messages under other numbers. -/
theorem Buffers.messages_renumber (number : Nat → Nat) (buffers : Buffers) :
    (buffers.renumber number).messages = buffers.messages := by
  rw [messages, messages, renumber, List.flatMap_map]

/-- A slot is filled with the same wherever its place is. -/
theorem fillSlot_eq_of_unplaced {slot other : Blueprint.Slot} (h : slot.unplaced = other.unplaced)
    (ledger : Ledger) : fillSlot env slot ledger = fillSlot env other ledger := by
  change fillSlot env slot.unplaced ledger = fillSlot env other.unplaced ledger
  rw [h]

namespace Setup

variable (setup : Setup)

/-- No cap is open between two slots. -/
theorem caps_filledUpTo (order : List Nat) : (setup.filledUpTo order).2.caps = [] := by
  obtain ⟨floors, hreserved⟩ := setup.reserved_eq
  have hdepth : (setup.filledUpTo order).2.depth = 0 := by
    rw [filledUpTo, kept_fillSlots _ isKept_depth, hreserved]
    rfl
  exact List.eq_nil_of_length_eq_zero hdepth

/-- No cap is open when the layout is put together. -/
theorem caps_assembledUpTo (nodes : List PreparedNode) : (setup.assembledUpTo nodes).caps = [] := by
  have hdepth : (setup.assembledUpTo nodes).depth = 0 := by
    have hcaps := setup.caps_filledUpTo setup.blueprint.order
    rw [assembledUpTo, kept_foldl_settleText _ isKept_depth, filled, Ledger.depth, hcaps]
    rfl
  exact List.eq_nil_of_length_eq_zero hdepth

/-- The capacity is that of the render between two slots. -/
theorem capacity_filledUpTo (order : List Nat) :
    (setup.filledUpTo order).2.capacity = setup.capacity := by
  rw [filledUpTo, kept_fillSlots _ isKept_capacity, capacity_reserved]

/-- What is spent between two slots is what the messages of the slots cost. -/
theorem spent_filledUpTo (order : List Nat) : (setup.filledUpTo order).2.spent =
    setup.env.costs (setup.filledUpTo order).1.messages := by
  rw [filledUpTo, spent_fillSlots, setup.spent_reserved, UInt64.zero_add]

variable {setup} {number : Nat → Nat} {other : Blueprint}
  (h : other.Rearranges number setup.blueprint)

include h

/-- The lanes are the same in any order of the layout. -/
theorem lanes_rearranged : (setup.withBlueprint other).lanes = setup.lanes := by
  rw [lanes, lanes, mergedLanes, mergedLanes, withBlueprint, h.lanes_eq]

variable (hlaid : setup.blueprint.IsLaidOut) (hlaid' : other.IsLaidOut)

section Texts

include hlaid'

omit h in
/-- Elements of the layout refer to slots. -/
theorem slot_lt_of_mem_layout {place : Blueprint.Placeholder}
    (hplace : Blueprint.LayoutNode.slot place ∈ other.layout) :
    place.slot < other.slots.length :=
  hlaid'.slot_lt (List.mem_filterMap.2 ⟨_, hplace, rfl⟩)

/-- The texts that go in cost the same in any order of the layout, where corresponding slots are
empty. -/
theorem costs_shown_rearranged {isEmpty again : Nat → Bool}
    (hempty : ∀ index < other.slots.length, again index = isEmpty (number index)) :
    (((setup.withBlueprint other).nodes.flatMap (PreparedNode.shown again)).map
        fun held => setup.env.estimate held.text).sum =
      ((setup.nodes.flatMap (PreparedNode.shown isEmpty)).map
        fun held => setup.env.estimate held.text).sum := by
  have hcosts : ∀ (one : Setup) (isEmpty : Nat → Bool), one.env = setup.env →
      ((one.nodes.flatMap (PreparedNode.shown isEmpty)).map
        fun held => setup.env.estimate held.text) =
          one.blueprint.layout.flatMap (shownCosts setup.env isEmpty) := by
    intro one isEmpty henv
    rw [nodes, henv, List.map_flatMap]
    exact flatMap_mapIdx_prepareNode setup.env (costs_shown_prepareNode setup.env isEmpty)
  rw [hcosts (setup.withBlueprint other) again rfl, hcosts setup isEmpty rfl]
  refine (h.flatMap_perm fun node hnode => ?_).sum_eq
  cases node with
  | message details =>
    simp only [shownCosts, Blueprint.LayoutNode.renumber, prepareNode]
    split <;> rfl
  | slot place =>
    have hslot := hempty _ (slot_lt_of_mem_layout hlaid' hnode)
    simp only [shownCosts, Blueprint.LayoutNode.renumber, prepareNode, PreparedNode.shown, hslot]

/-- The texts of the layout cost the same in any order. -/
theorem floorTokens_rearranged :
    (setup.withBlueprint other).prepared.floorTokens = setup.prepared.floorTokens := by
  have hall : ∀ one : Setup,
      one.texts = one.nodes.flatMap (PreparedNode.shown fun _ => false) := fun one =>
    (List.flatMap_congr fun node _ => shown_of_not_empty node).symm
  have hcosts := @costs_shown_rearranged _ _ _ h hlaid' (fun _ => false) (fun _ => false)
    fun _ _ => rfl
  rw [← hall, ← hall] at hcosts
  exact hcosts

end Texts

/-- The same is set aside for the lanes in any order of the layout. -/
theorem laneFloors_rearranged : (setup.withBlueprint other).laneFloors = setup.laneFloors := by
  rw [laneFloors, laneFloors, lanes_rearranged h]

section Filling

variable {before after : List Nat} (horder : other.order = before ++ after)

include hlaid hlaid' horder

/-- What slots are filled with corresponds as far as their buffers do. -/
theorem fill_of_mem_of_buffers
    (hbuffers : (setup.filledUpTo (before.map number)).1 =
      ((setup.withBlueprint other).filledUpTo before).1.renumber number)
    {index : Nat} (hindex : index ∈ before) :
    (setup.withBlueprint other).fill index = setup.fill (number index) := by
  have hnumbers := (setup.withBlueprint other).numbers_filledUpTo hlaid' horder
  obtain ⟨entry, hentry, rfl⟩ := List.mem_map.1 (hnumbers.symm ▸ hindex)
  have hagain : (number entry.1, entry.2) ∈ (setup.filledUpTo (before.map number)).1 :=
    hbuffers ▸ List.mem_map_of_mem hentry
  have hfilled := ((setup.withBlueprint other).filledUpTo_isPrefix horder).subset hentry
  have hfilled' := (setup.filledUpTo_isPrefix (h.order_append horder)).subset hagain
  rw [(setup.withBlueprint other).fill_of_mem hlaid' hfilled]
  exact (setup.fill_of_mem hlaid hfilled').symm

/-- As much is spent and set aside before corresponding slots if those before them are filled with
the same. -/
theorem filledUpTo_alike
    (hbuffers : (setup.filledUpTo (before.map number)).1 =
      ((setup.withBlueprint other).filledUpTo before).1.renumber number) :
    (setup.filledUpTo (before.map number)).2.Alike
      ((setup.withBlueprint other).filledUpTo before).2 := by
  have hlt : ∀ index ∈ before, index < other.slots.length := fun index hindex =>
    (setup.withBlueprint other).lt_of_mem_order hlaid' index
      (horder.symm ▸ List.mem_append_left _ hindex)
  -- a slot is gone in the one order if the corresponding one is in the other
  have hgone : ∀ index < other.slots.length, (setup.withBlueprint other).isGone before index =
      setup.isGone (before.map number) (number index) := by
    intro index hindex
    by_cases hin : index ∈ before
    · have hfill := fill_of_mem_of_buffers h hlaid hlaid' horder hbuffers hin
      have hin' : number index ∈ before.map number := List.mem_map_of_mem hin
      simp [isGone, hin, hin', hfill]
    · have hnot : number index ∉ before.map number := by
        intro hmem
        obtain ⟨again, hagain, heq⟩ := List.mem_map.1 hmem
        exact hin (h.number_inj again (hlt again hagain) index hindex heq ▸ hagain)
      simp [isGone, hin, hnot]
  refine ⟨?_, ?_, ?_, ?_⟩
  · rw [capacity_filledUpTo, capacity_filledUpTo]
    rfl
  · rw [spent_filledUpTo, spent_filledUpTo, hbuffers, Buffers.messages_renumber]
    rfl
  · have hholds := setup.holds_filledUpTo hlaid (h.order_append horder)
    have hholds' := (setup.withBlueprint other).holds_filledUpTo hlaid' horder
    rw [hholds.floorTotal_eq, hholds'.floorTotal_eq, laneFloors_rearranged h]
    exact congrArg (· + _) (costs_shown_rearranged h hlaid' hgone)
  · rw [caps_filledUpTo, caps_filledUpTo]

/-- Corresponding slots are filled with the same. -/
theorem buffers_rearranged : (setup.filledUpTo (before.map number)).1 =
    ((setup.withBlueprint other).filledUpTo before).1.renumber number := by
  induction before using List.reverseRecOn generalizing after with
  | nil => rfl
  | append_singleton before index ih =>
    rw [List.append_assoc] at horder
    have hbuffers := ih horder
    have halike := filledUpTo_alike h hlaid hlaid' horder hbuffers
    have hindex : index < other.slots.length :=
      (setup.withBlueprint other).lt_of_mem_order hlaid' index (by simp [horder, withBlueprint])
    have hslot : (setup.withBlueprint other).blueprint.slots[index]? = some other.slots[index] :=
      List.getElem?_eq_getElem hindex
    have hsame := h.slots index hindex
    rw [List.getElem?_eq_getElem hindex, Option.map_some] at hsame
    obtain ⟨slot, hfound, hunplaced⟩ := Option.map_eq_some_iff.1 hsame
    have hfill : (fillSlot setup.env other.slots[index]
        ((setup.withBlueprint other).filledUpTo before).2).1 =
          (fillSlot setup.env slot (setup.filledUpTo (before.map number)).2).1 := by
      rw [← fillSlot_eq_of_unplaced setup.env hunplaced]
      exact (fillSlot_alike setup.env slot halike).1
    rw [List.map_append, List.map_singleton, setup.buffers_filledUpTo_snoc hfound,
      (setup.withBlueprint other).buffers_filledUpTo_snoc hslot, Buffers.renumber,
      List.map_append, hbuffers, ← hfill]
    rfl

end Filling

include hlaid hlaid'

/-- All slots are filled with the same in any order of the layout. -/
theorem filled_rearranged :
    setup.filled.1 = (setup.withBlueprint other).filled.1.renumber number := by
  have hbuffers := buffers_rearranged h hlaid hlaid' (List.append_nil other.order).symm
  rw [h.order_eq] at hbuffers
  exact hbuffers

/-- Each slot has the same buffer in any order of the layout. -/
theorem lookup_rearranged {index : Nat} (hindex : index < other.slots.length) :
    ∃ buffer, setup.filled.1.lookup (number index) = some buffer ∧
      (setup.withBlueprint other).filled.1.lookup index = some buffer := by
  have hin : index ∈ (setup.withBlueprint other).filled.1.map Prod.fst := by
    rw [(setup.withBlueprint other).numbers_filled hlaid']
    exact hlaid'.order_perm.mem_iff.2 (List.mem_range.2 hindex)
  obtain ⟨entry, hentry, rfl⟩ := List.mem_map.1 hin
  have hagain : (number entry.1, entry.2) ∈ setup.filled.1 :=
    filled_rearranged h hlaid hlaid' ▸ List.mem_map_of_mem hentry
  exact ⟨entry.2, Keyed.lookup_of_mem (setup.nodup_filled hlaid) hagain,
    Keyed.lookup_of_mem ((setup.withBlueprint other).nodup_filled hlaid') hentry⟩

theorem fill_rearranged {index : Nat} (hindex : index < other.slots.length) :
    (setup.withBlueprint other).fill index = setup.fill (number index) := by
  obtain ⟨buffer, hlookup, hlookup'⟩ := lookup_rearranged h hlaid hlaid' hindex
  rw [fill, fill, Buffers.fill, Buffers.fill, hlookup, hlookup']

theorem placed_rearranged : (setup.withBlueprint other).placed.Perm setup.placed := by
  rw [placed_eq_flatMap, placed_eq_flatMap]
  refine h.flatMap_perm fun node hnode => ?_
  cases node with
  | message details => rfl
  | slot place =>
    have hfill := fill_rearranged h hlaid hlaid' (slot_lt_of_mem_layout hlaid' hnode)
    simp only [emits, Blueprint.LayoutNode.renumber, hfill]
    rfl

/-- As much is spent when the layout is put together, in any order. -/
theorem spent_assembledUpTo_rearranged :
    ((setup.withBlueprint other).assembledUpTo (setup.withBlueprint other).nodes).spent =
      (setup.assembledUpTo setup.nodes).spent := by
  have hcosts : ∀ texts : List HeldText, setup.env.costs (texts.map HeldText.message) =
      (texts.map fun held => setup.env.estimate held.text).sum := by
    intro texts
    rw [Environment.costs, List.map_map]
    rfl
  have hshown := @costs_shown_rearranged _ _ _ h hlaid'
    (fun found => (setup.fill found).isEmpty)
    (fun found => ((setup.withBlueprint other).fill found).isEmpty)
    fun index hindex => congrArg List.isEmpty (fill_rearranged h hlaid hlaid' hindex)
  rw [spent_assembled, spent_assembled, costs_append, costs_append,
    filled_rearranged h hlaid hlaid', Buffers.messages_renumber]
  refine congrArg (_ + ·) ?_
  exact (hcosts _).trans (hshown.trans (hcosts _).symm)

/-- The lanes find the same ledger in any order of the layout. -/
theorem assembledUpTo_rearranged :
    (setup.withBlueprint other).assembledUpTo (setup.withBlueprint other).nodes =
      setup.assembledUpTo setup.nodes := by
  have hcapacity : ((setup.withBlueprint other).assembledUpTo
      (setup.withBlueprint other).nodes).capacity = (setup.assembledUpTo setup.nodes).capacity := by
    rw [capacity_assembledUpTo, capacity_assembledUpTo]
    rfl
  have hfloors : ((setup.withBlueprint other).assembledUpTo
      (setup.withBlueprint other).nodes).floors = (setup.assembledUpTo setup.nodes).floors := by
    rw [floors_assembledUpTo_nodes _ hlaid, floors_assembledUpTo_nodes _ hlaid',
      laneFloors_rearranged h]
  have hcaps : ((setup.withBlueprint other).assembledUpTo
      (setup.withBlueprint other).nodes).caps = (setup.assembledUpTo setup.nodes).caps := by
    rw [caps_assembledUpTo, caps_assembledUpTo]
  have htotal := congrArg (fun floors => (floors.map Prod.snd).sum) hfloors
  exact Ledger.Alike.eq_of_floors
    ⟨hcapacity, spent_assembledUpTo_rearranged h hlaid hlaid', htotal, hcaps⟩ hfloors

theorem injected_rearranged : setup.injected.Alike (setup.withBlueprint other).injected := by
  have hlanes := lanes_rearranged h
  rw [injected, injected, hlanes]
  exact Injection.foldl_injectLane_alike _ _ ⟨placed_rearranged h hlaid hlaid',
    assembledUpTo_rearranged h hlaid hlaid', rfl, rfl⟩

/-- The report is the same in any order of the layout. -/
theorem report_rearranged : (setup.withBlueprint other).report = setup.report := by
  have hstats : (setup.withBlueprint other).stats = setup.stats := by
    rw [stats, stats, filled_rearranged h hlaid hlaid', Buffers.renumber, List.map_map]
    rfl
  have hinjected := injected_rearranged h hlaid hlaid'
  rw [report, report, hstats, hinjected.ledger_eq, hinjected.lanes_eq, hinjected.drops_eq,
    floorTokens_rearranged h hlaid']
  rfl

theorem said_rearranged : ((setup.withBlueprint other).prompt.messages.map Message.said).Perm
    (setup.prompt.messages.map Message.said) := by
  have hinjected := injected_rearranged h hlaid hlaid'
  rw [said_messages, said_messages]
  exact (hinjected.placed_perm.map Placed.message).map Message.said

end Setup

/-- Where no two slots have the same priority, the order of the layout decides positions only. Of
two templates that differ only in that order, both are rendered, with the same report; each slot of
the one has the same buffer as the slot of the other that is the same but for its place; and the
same is said by the same, in an order of its own. -/
theorem report_eq_of_layout_perm {compiler another : Compiler} (hcompiler : compiler.IsReached)
    (hanother : another.IsReached) {allowed permitted : Option (List String)}
    {source : Template} {layout : List Template.LayoutNode} (hlayout : layout.Perm source.layout)
    (hpriorities : (source.slots.map fun slot => slot.2.priority).Nodup) {made again : Blueprint}
    (hmade : (compiler.compileAllowing allowed source).1 = .ok made)
    (hagain : (another.compileAllowing permitted { source with layout := layout }).1 = .ok again)
    (options : RenderOptions) (capacity : Tokens) :
    ∃ prompt changed, render env made options capacity = .ok prompt ∧
      render env again options capacity = .ok changed ∧ changed.report = prompt.report ∧
      (∀ first slot, made.slots[first]? = some slot →
        ∃ second buffer, (again.slots[second]?).map Blueprint.Slot.unplaced = some slot.unplaced ∧
          (Setup.mk env made options capacity).filled.1.lookup first = some buffer ∧
          (Setup.mk env again options capacity).filled.1.lookup second = some buffer) ∧
      (changed.messages.map Message.said).Perm (prompt.messages.map Message.said) := by
  have hlaid : made.IsLaidOut := Blueprint.IsCompiled.isLaidOut ⟨compiler, allowed, source, hmade⟩
  have hlaid' : again.IsLaidOut :=
    Blueprint.IsCompiled.isLaidOut ⟨another, permitted, _, hagain⟩
  let setup : Setup := ⟨env, made, options, capacity⟩
  let changed : Setup := ⟨env, again, options, capacity⟩
  have h : again.Rearranges (made.numberIn again) setup.blueprint :=
    Template.rearranges_of_perm (hcompiler.becomes hmade) (hanother.becomes hagain) hlayout rfl rfl
      hpriorities
  refine ⟨setup.prompt, changed.prompt, setup.render_eq hlaid, changed.render_eq hlaid',
    @Setup.report_rearranged setup _ _ h hlaid hlaid', ?_,
    @Setup.said_rearranged setup _ _ h hlaid hlaid'⟩
  intro first slot hfirst
  obtain ⟨hlt, -⟩ := List.getElem?_eq_some_iff.1 hfirst
  -- the slot is filled in both, and so has a number in the other
  have hin : first ∈ again.order.map (made.numberIn again) :=
    h.order_eq.symm ▸ hlaid.order_perm.mem_iff.2 (List.mem_range.2 hlt)
  obtain ⟨second, hsecond, rfl⟩ := List.mem_map.1 hin
  have hlt' := List.mem_range.1 (hlaid'.order_perm.mem_iff.1 hsecond)
  obtain ⟨buffer, hlookup, hlookup'⟩ := @Setup.lookup_rearranged setup _ _ h hlaid hlaid' _ hlt'
  refine ⟨second, buffer, ?_, hlookup, hlookup'⟩
  rw [← h.slots second hlt']
  exact congrArg (Option.map Blueprint.Slot.unplaced) hfirst

end Render

namespace Sample

open Render

/-- The slot of a low priority says one short text. -/
def lowSlot : Template.Slot := ⟨0, none, none, saysOnce "x", .null⟩

/-- The elements of the layout with the slot of a high priority above that of a low one. -/
def descendingLayout : List Template.LayoutNode :=
  [.slot ⟨"high", none, none, none⟩, .slot ⟨"low", some ⟨.system, "L"⟩, none, none⟩]

/-- The blueprint with the slot of a low priority above that of a high one. -/
def ascendingBlueprint : Blueprint :=
  rankedBlueprint ⟨"low", 0, none, none, saidOnce "x", .null, 0⟩

/-- The blueprint with the slot of a high priority above that of a low one. -/
def descendingBlueprint : Blueprint where
  id := "ranked"
  task := "chat"
  name := "Ranked"
  version := 1
  layout := [.slot ⟨"high", 0, none, none, true⟩,
    .slot ⟨"low", 1, some ⟨.system, ⟨"L", [.text "L"]⟩⟩, none, true⟩]
  slots := [⟨"high", 1, none, none, saidOnce "h", .null, 0⟩,
    ⟨"low", 0, none, none, saidOnce "x", .null, 1⟩]
  order := [0, 1]
  lanes := []

end Sample

namespace Render

/-- In both orders there is room for the header and what the two slots say, which comes out in the
order of the layout. -/
theorem report_eq_of_layout_perm_ranked :
    (render Sample.environment Sample.ascendingBlueprint .none 3).map
        (fun prompt => prompt.messages.map Message.said) =
      .ok [(.system, "L"), (.user, "x"), (.user, "h")] ∧
    ∃ prompt changed,
      render Sample.environment Sample.ascendingBlueprint .none 3 = .ok prompt ∧
      render Sample.environment Sample.descendingBlueprint .none 3 = .ok changed ∧
      changed.report = prompt.report ∧
      (changed.messages.map Message.said).Perm (prompt.messages.map Message.said) := by
  have hmade : ((Compiler.fresh none).compileAllowing none
      (Sample.rankedTemplate Sample.lowSlot)).1 = .ok Sample.ascendingBlueprint := by cbv
  have hagain : ((Compiler.fresh none).compileAllowing none { Sample.rankedTemplate Sample.lowSlot
      with layout := Sample.descendingLayout }).1 = .ok Sample.descendingBlueprint := by cbv
  have hlayout : Sample.descendingLayout.Perm (Sample.rankedTemplate Sample.lowSlot).layout :=
    List.Perm.swap _ _ _
  obtain ⟨prompt, changed, hprompt, hchanged, hreport, -, hsaid⟩ :=
    report_eq_of_layout_perm Sample.environment (.fresh none) (.fresh none) hlayout (by decide)
      hmade hagain .none 3
  exact ⟨by cbv, prompt, changed, hprompt, hchanged, hreport, hsaid⟩

end Render

end ChatPrompt
