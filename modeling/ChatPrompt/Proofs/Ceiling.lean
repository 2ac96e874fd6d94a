import ChatPrompt.Proofs.Floors
import ChatPrompt.Proofs.Lanes
import Mathlib.Data.List.Flatten
import Mathlib.Data.List.Pairwise

/-!
# The capacity is a ceiling

What is spent and what is set aside never exceed the capacity together, except for what was
set aside before anything was spent. This is kept up by charges that were accepted, by giving
up what was set aside, and by spending it on what it was for. It holds for all keys together,
where the reserves of lanes count, and for the keys of the layout alone, where they do not;
the second is what is left when the prompt is finished.
-/

namespace ChatPrompt

namespace Ledger

/-- What is spent and set aside altogether. -/
def committed (ledger : Ledger) : Nat := ledger.spent.toNat + ledger.floorTotal.toNat

/-- What is spent, and set aside under some keys, is within a bound that is no less than the
capacity. -/
structure Within (keep : String → Bool) (bound : Nat) (ledger : Ledger) : Prop where
  /-- What is spent and set aside is within the bound. -/
  spent_le : ledger.spent.toNat + ledger.held keep ≤ bound
  /-- All that is set aside is in the range of amounts. -/
  heldInAll_lt : ledger.heldInAll < 2 ^ 64
  /-- The capacity is within the bound. -/
  capacity_le : ledger.capacity.toNat ≤ bound
  /-- The bound is in the range of amounts. -/
  bound_lt : bound < 2 ^ 64

variable {keep : String → Bool} {bound : Nat} {ledger : Ledger}

/-- A charge that was accepted stays within the bound. -/
theorem Within.charge (h : ledger.Within keep bound) {amount : Tokens}
    (hadmits : ledger.Admits amount) : (ledger.charge amount).Within keep bound := by
  rcases hadmits.fits h.heldInAll_lt with rfl | hfits
  · rw [charge_zero]
    exact h
  · have hkept := ledger.held_le_heldInAll keep
    have hcapacity := h.capacity_le
    have hrange := h.bound_lt
    have hspent : (ledger.charge amount).spent.toNat =
        ledger.spent.toNat + amount.toNat := by
      change (ledger.spent + amount).toNat = _
      rw [UInt64.toNat_add, Nat.mod_eq_of_lt (by omega)]
    refine ⟨?_, h.heldInAll_lt, h.capacity_le, h.bound_lt⟩
    rw [hspent, held_charge]
    omega

/-- Giving something up stays within the bound. -/
theorem Within.release (h : ledger.Within keep bound) (key : String) :
    (ledger.release key).Within keep bound := by
  have hkept := ledger.held_release_le keep key
  have hall : (ledger.release key).heldInAll ≤ ledger.heldInAll := ledger.held_release_le _ key
  have hspent := h.spent_le
  refine ⟨?_, Nat.lt_of_le_of_lt hall h.heldInAll_lt, h.capacity_le, h.bound_lt⟩
  change ledger.spent.toNat + _ ≤ _
  omega

/-- Spending no more than what is set aside for it stays within the bound, even where the
capacity is exceeded. -/
theorem Within.settle (h : ledger.Within keep bound) {key : String} (hkeep : keep key = true)
    {amount : Tokens} (hamount : amount.toNat ≤ ledger.held (· == key)) :
    (ledger.settle key amount).Within keep bound := by
  have hrelease := h.release key
  have hheld := ledger.held_release keep key
  rw [if_pos hkeep] at hheld
  have hspent := h.spent_le
  have hrange := h.bound_lt
  have hsum : (ledger.settle key amount).spent.toNat = ledger.spent.toNat + amount.toNat := by
    change (ledger.spent + amount).toNat = _
    rw [UInt64.toNat_add, Nat.mod_eq_of_lt (by omega)]
  refine ⟨?_, hrelease.heldInAll_lt, h.capacity_le, h.bound_lt⟩
  rw [hsum, Ledger.settle, held_charge]
  omega

/-- Where all keys count, the bound is one on what is spent and set aside altogether. -/
theorem Within.committed_le (h : ledger.Within (fun _ => true) bound) :
    ledger.committed ≤ bound := by
  have hspent := h.spent_le
  rw [committed, ledger.toNat_floorTotal h.heldInAll_lt]
  exact hspent

end Ledger

namespace Render

variable (env : Environment) {keep : String → Bool} {bound : Nat}

/-- What is set aside for some texts is enough for them. -/
def Covers (texts : List HeldText) (ledger : Ledger) : Prop :=
  ∀ held ∈ texts, (env.estimate held.text).toNat ≤ ledger.held (· == held.floor)

theorem within_foldl_releaseText (texts : List HeldText) {ledger : Ledger}
    (h : ledger.Within keep bound) : (texts.foldl releaseText ledger).Within keep bound := by
  induction texts generalizing ledger with
  | nil => exact h
  | cons held rest ih => exact ih (h.release held.floor)

/-- Giving up texts leaves what is set aside for others. -/
theorem covers_foldl_releaseText {texts : List HeldText} (given : List HeldText)
    {ledger : Ledger} (h : Covers env texts ledger)
    (hne : ∀ held ∈ texts, ∀ other ∈ given, held.floor ≠ other.floor) :
    Covers env texts (given.foldl releaseText ledger) := by
  induction given generalizing ledger with
  | nil => exact h
  | cons other rest ih =>
    refine ih ?_ fun held hheld later hlater => hne held hheld later (List.mem_cons_of_mem _ hlater)
    intro held hheld
    rw [releaseText, ledger.held_release_of_ne (hne held hheld other List.mem_cons_self)]
    exact h held hheld

/-- A slot stays within the bound. -/
theorem within_afterSlot (prepared : PreparedLayout) (number : Nat) (slot : Blueprint.Slot)
    {ledger : Ledger} (h : ledger.Within keep bound) :
    (afterSlot env prepared number slot ledger).Within keep bound := by
  obtain ⟨hcharged, hadmits⟩ := fillSlot_charges env slot ledger
  have hfilled : (fillSlot env slot ledger).2.Within keep bound := hcharged ▸ h.charge hadmits
  rw [afterSlot]
  split
  · exact within_foldl_releaseText _ hfilled
  · exact hfilled

theorem within_fillSlots (blueprint : Blueprint) (prepared : PreparedLayout)
    (order : List Nat) {ledger : Ledger} (h : ledger.Within keep bound) :
    (fillSlots env blueprint prepared order ledger).2.Within keep bound := by
  induction order generalizing ledger with
  | nil => exact h
  | cons number rest ih =>
    cases hslot : blueprint.slots[number]? with
    | none =>
      rw [fillSlots_cons_of_none env hslot]
      exact ih h
    | some slot =>
      rw [fillSlots_cons env hslot]
      exact ih (within_afterSlot env prepared number slot h)

/-- Filling slots leaves what is set aside for texts that none of the empty ones gives up. -/
theorem covers_fillSlots (blueprint : Blueprint) (prepared : PreparedLayout)
    (order : List Nat) {texts : List HeldText} {ledger : Ledger} (h : Covers env texts ledger)
    (hne : ∀ entry ∈ (fillSlots env blueprint prepared order ledger).1, entry.2.entries = [] →
      ∀ held ∈ texts, ∀ other ∈ omittedTexts entry.1 prepared.nodes,
        held.floor ≠ other.floor) :
    Covers env texts (fillSlots env blueprint prepared order ledger).2 := by
  induction order generalizing ledger with
  | nil => exact h
  | cons number rest ih =>
    cases hslot : blueprint.slots[number]? with
    | none =>
      rw [fillSlots_cons_of_none env hslot] at hne ⊢
      exact ih h hne
    | some slot =>
      rw [fillSlots_cons env hslot] at hne ⊢
      refine ih ?_ fun entry hentry => hne entry (List.mem_cons_of_mem _ hentry)
      have hfilled : Covers env texts (fillSlot env slot ledger).2 := by
        rw [(fillSlot_charges env slot ledger).1]
        exact h
      rw [afterSlot]
      split
      · next hempty =>
        exact covers_foldl_releaseText env _ hfilled
          (hne _ List.mem_cons_self (List.isEmpty_iff.1 hempty))
      · exact hfilled

/-- Spending what is set aside for texts stays within the bound, if it is enough for them and
they have different keys. -/
theorem within_foldl_settleText (texts : List HeldText) {ledger : Ledger}
    (h : ledger.Within keep bound) (hkeep : ∀ held ∈ texts, keep held.floor = true)
    (hnodup : (texts.map HeldText.floor).Nodup) (hcovers : Covers env texts ledger) :
    (texts.foldl (settleText env) ledger).Within keep bound := by
  induction texts generalizing ledger with
  | nil => exact h
  | cons held rest ih =>
    obtain ⟨hfresh, hnodup⟩ := List.nodup_cons.1 hnodup
    refine ih (h.settle (hkeep held List.mem_cons_self) (hcovers held List.mem_cons_self))
      (fun other hother => hkeep other (List.mem_cons_of_mem _ hother)) hnodup ?_
    intro other hother
    have hne : other.floor ≠ held.floor :=
      fun heq => hfresh (heq ▸ List.mem_map_of_mem hother)
    rw [settleText, Ledger.settle, Ledger.held_charge, ledger.held_release_of_ne hne]
    exact hcovers other (List.mem_cons_of_mem _ hother)

/-- Injecting lanes stays within the bound. -/
theorem within_foldl_injectLane (requests : List Injection.Request)
    (lanes : List Blueprint.Lane) {before : Injection.Injected}
    (h : before.ledger.Within keep bound) :
    (lanes.foldl (Injection.injectLane env.estimate requests) before).ledger.Within
      keep bound := by
  induction lanes generalizing before with
  | nil => exact h
  | cons lane rest ih =>
    obtain ⟨inserted, hjoins⟩ := Injection.injectLane_joins env requests before lane
    refine ih ?_
    rw [hjoins.ledger_eq]
    exact (h.release _).charge hjoins.admits

/-- The texts of an element that go in are among those that are set aside. -/
theorem shown_sublist (isEmpty : Nat → Bool) (node : PreparedNode) :
    (node.shown isEmpty).Sublist node.texts := by
  cases node with
  | message held openEnded anchor => exact List.Sublist.refl _
  | omitted => exact List.Sublist.refl _
  | slot name number omitIfEmpty header footer =>
    simp only [PreparedNode.shown, PreparedNode.texts]
    split
    · exact List.nil_sublist _
    · exact List.Sublist.refl _

/-- What is given up around an empty slot belongs to a place that is left out then. -/
theorem exists_of_mem_omittedTexts {number : Nat} {nodes : List PreparedNode}
    {held : HeldText} (h : held ∈ omittedTexts number nodes) :
    ∃ name header footer, PreparedNode.slot name number true header footer ∈ nodes ∧
      held ∈ (PreparedNode.slot name number true header footer).texts := by
  induction nodes with
  | nil => cases h
  | cons node rest ih =>
    have hlater (hin : held ∈ omittedTexts number rest) :
        ∃ name header footer, PreparedNode.slot name number true header footer ∈ node :: rest ∧
          held ∈ (PreparedNode.slot name number true header footer).texts := by
      obtain ⟨name, header, footer, hnode, hheld⟩ := ih hin
      exact ⟨name, header, footer, List.mem_cons_of_mem node hnode, hheld⟩
    cases node with
    | message other openEnded anchor => exact hlater h
    | omitted => exact hlater h
    | slot name slot omitIfEmpty header footer =>
      cases omitIfEmpty with
      | false => exact hlater h
      | true =>
        rw [omittedTexts] at h
        by_cases hslot : slot = number
        · rw [if_pos hslot] at h
          subst hslot
          exact ⟨name, header, footer, List.mem_cons_self, h⟩
        · rw [if_neg hslot] at h
          exact hlater h

/-- Where all texts have different keys, a key belongs to one element. -/
theorem eq_of_floor_eq {nodes : List PreparedNode}
    (hnodup : ((nodes.flatMap PreparedNode.texts).map HeldText.floor).Nodup)
    {node other : PreparedNode} (hnode : node ∈ nodes) (hother : other ∈ nodes)
    {held later : HeldText} (hheld : held ∈ node.texts) (hlater : later ∈ other.texts)
    (hfloor : held.floor = later.floor) : node = other := by
  rw [List.map_flatMap, List.nodup_flatMap] at hnodup
  have hsymm : Std.Symm (Function.onFun List.Disjoint fun node : PreparedNode =>
      node.texts.map HeldText.floor) := ⟨fun _ _ hdisjoint _ hin hout => hdisjoint hout hin⟩
  by_contra hne
  have hdisjoint := hnodup.2.forall hnode hother hne
  exact hdisjoint (List.mem_map_of_mem hheld) (hfloor ▸ List.mem_map_of_mem hlater)

namespace Setup

variable (setup : Setup)

/-- The bound for some keys: the capacity, or what was set aside under them at first. -/
def ceiling (keep : String → Bool) : Nat :=
  max setup.capacity.toNat (setup.reserved.held keep)

/-- The texts that go in are among those that are set aside. -/
theorem shownBy_sublist (nodes : List PreparedNode) :
    (setup.shownBy nodes).Sublist (nodes.flatMap PreparedNode.texts) :=
  List.Sublist.flatMap_right nodes fun node _ => shown_sublist _ node

variable (hrange : setup.setAside < 2 ^ 64)

include hrange

/-- When everything is set aside, it is within the bound. -/
theorem within_reserved (keep : String → Bool) :
    setup.reserved.Within keep (setup.ceiling keep) := by
  have hheld := setup.reserved.held_le_heldInAll keep
  have hall := setup.heldInAll_reserved hrange
  have hcapacity := setup.capacity_reserved
  have hlt := setup.capacity.toNat_lt
  rw [ceiling]
  refine ⟨?_, by omega, by rw [hcapacity]; omega, by omega⟩
  rw [setup.spent_reserved, UInt64.toNat_zero]
  omega

theorem within_filledUpTo (keep : String → Bool) (order : List Nat) :
    (setup.filledUpTo order).2.Within keep (setup.ceiling keep) :=
  within_fillSlots setup.env setup.blueprint setup.prepared order
    (setup.within_reserved hrange keep)

variable (h : setup.blueprint.IsLaidOut)

include h

/-- The texts that go in are covered when the slots are filled: an empty slot gives up only
texts that do not go in. -/
theorem covers_filled : Covers setup.env (setup.shownBy setup.nodes) setup.filled.2 := by
  have hsublist := setup.shownBy_sublist setup.nodes
  refine covers_fillSlots setup.env setup.blueprint setup.prepared _
    (fun held hheld => setup.le_held_reserved hrange (hsublist.subset hheld)) ?_
  intro entry hentry hempty held hheld other hother hfloor
  obtain ⟨node, hnode, hshown⟩ := List.mem_flatMap.1 hheld
  obtain ⟨name, header, footer, hplace, htext⟩ := exists_of_mem_omittedTexts hother
  have hin := (shown_sublist _ node).subset hshown
  have hsame := eq_of_floor_eq setup.nodup_floors hnode hplace hin htext hfloor
  have hfill : setup.fill entry.1 = [] := (setup.fill_of_mem h hentry).trans hempty
  rw [hsame, PreparedNode.shown, hfill] at hshown
  cases hshown

theorem within_assembledUpTo {keep : String → Bool}
    (hkeep : ∀ held ∈ setup.texts, keep held.floor = true) {walked : List PreparedNode}
    (hwalked : walked <+: setup.nodes) :
    (setup.assembledUpTo walked).Within keep (setup.ceiling keep) := by
  obtain ⟨rest, hrest⟩ := hwalked
  have hshown : (setup.shownBy walked).Sublist (setup.shownBy setup.nodes) := by
    rw [← hrest, shownBy, shownBy, List.flatMap_append]
    exact List.sublist_append_left _ _
  have htexts : (setup.shownBy walked).Sublist setup.texts :=
    hshown.trans (setup.shownBy_sublist setup.nodes)
  refine within_foldl_settleText setup.env _
    (setup.within_filledUpTo hrange keep setup.blueprint.order)
    (fun held hheld => hkeep held (htexts.subset hheld))
    ((htexts.map HeldText.floor).nodup setup.nodup_floors) ?_
  intro held hheld
  exact setup.covers_filled hrange h held (hshown.subset hheld)

theorem within_injectedUpTo {keep : String → Bool}
    (hkeep : ∀ held ∈ setup.texts, keep held.floor = true) (lanes : List Blueprint.Lane) :
    (setup.injectedUpTo lanes).ledger.Within keep (setup.ceiling keep) :=
  within_foldl_injectLane setup.env setup.options.injections lanes
    (setup.within_assembledUpTo hrange h hkeep (List.prefix_refl setup.nodes))

end Setup

/-- The capacity is a ceiling for everything that is not mandatory. From the moment when
everything is set aside, and after every slot, every element of the layout and every lane,
what is spent and what is set aside stay within the capacity or the first total; and in the
end what is spent stays within the capacity or the cost of the layout. -/
theorem spent_le_ceiling {setup : Setup} (h : setup.blueprint.IsCompiled)
    (hrange : setup.setAside < 2 ^ 64) :
    setup.reserved.floorTotal.toNat = setup.setAside ∧
    (∀ order, order <+: setup.blueprint.order →
      (setup.filledUpTo order).2.committed ≤ max setup.capacity.toNat setup.setAside) ∧
    (∀ walked, walked <+: setup.nodes →
      (∃ placed, assemble setup.env walked setup.filled.1 setup.filled.2 =
        .ok (placed, setup.assembledUpTo walked)) ∧
      (setup.assembledUpTo walked).committed ≤ max setup.capacity.toNat setup.setAside) ∧
    (∀ lanes, lanes <+: Injection.lanesInOrder setup.lanes →
      (setup.injectedUpTo lanes).ledger.committed ≤
        max setup.capacity.toNat setup.setAside) ∧
    render setup.env setup.blueprint setup.options setup.capacity = .ok setup.prompt ∧
    setup.prompt.report.spent.toNat ≤
      max setup.capacity.toNat setup.prompt.report.floorTokens.toNat ∧
    (setup.prompt.report.floorTokens ≤ setup.capacity →
      setup.prompt.report.spent ≤ setup.capacity) := by
  have hlaid := h.isLaidOut
  have hall : setup.ceiling (fun _ => true) = max setup.capacity.toNat setup.setAside :=
    congrArg (max _) (setup.heldInAll_reserved hrange)
  have htexts : setup.ceiling setup.isTextKey =
      max setup.capacity.toNat setup.prompt.report.floorTokens.toNat := by
    have hfloors : setup.prompt.report.floorTokens = setup.prepared.floorTokens := rfl
    rw [hfloors, setup.toNat_floorTokens hrange, Setup.ceiling, setup.held_isTextKey_reserved hrange]
  have hkeys : ∀ held ∈ setup.texts, setup.isTextKey held.floor = true :=
    fun held hheld => List.any_eq_true.2 ⟨held, hheld, beq_self_eq_true _⟩
  have hspent : setup.prompt.report.spent.toNat ≤
      max setup.capacity.toNat setup.prompt.report.floorTokens.toNat := by
    have hwithin := setup.within_injectedUpTo hrange hlaid hkeys
      (Injection.lanesInOrder setup.lanes)
    exact htexts ▸ Nat.le_trans (Nat.le_add_right _ _) hwithin.spent_le
  refine ⟨?_, ?_, ?_, ?_, setup.render_eq hlaid, hspent, ?_⟩
  · rw [setup.reserved.toNat_floorTotal ((setup.heldInAll_reserved hrange).symm ▸ hrange)]
    exact setup.heldInAll_reserved hrange
  · intro order _
    exact hall ▸ (setup.within_filledUpTo hrange _ order).committed_le
  · intro walked hwalked
    obtain ⟨rest, hrest⟩ := hwalked
    exact ⟨⟨_, setup.assemble_eq hlaid walked rest hrest.symm⟩,
      hall ▸ (setup.within_assembledUpTo hrange hlaid (fun _ _ => rfl)
        ⟨rest, hrest⟩).committed_le⟩
  · intro lanes _
    exact hall ▸ (setup.within_injectedUpTo hrange hlaid (fun _ _ => rfl) lanes).committed_le
  · intro hfits
    have hfloors := UInt64.le_iff_toNat_le.1 hfits
    exact UInt64.le_iff_toNat_le.2 (by omega)

/-- The sample with one token, which its instructions, its header and the reserve of its lane
exceed. -/
def Setup.overdrawn : Setup :=
  ⟨Sample.environment, Sample.blueprint, Sample.options, 1⟩

/-- The overdrawn sample never commits more than the three tokens that are set aside at
first, and never spends more than the two of its layout. -/
theorem spent_le_ceiling_overdrawn :
    Setup.overdrawn.setAside = 3 ∧ Setup.overdrawn.reserved.floorTotal.toNat = 3 ∧
      (Setup.overdrawn.filledUpTo [0]).2.committed ≤ 3 ∧
      (Setup.overdrawn.assembledUpTo Setup.overdrawn.nodes).committed ≤ 3 ∧
      Setup.overdrawn.injected.ledger.committed ≤ 3 ∧
      Setup.overdrawn.prompt.report.spent.toNat ≤ 2 := by
  have haside : Setup.overdrawn.setAside = 3 := by cbv
  have hfloors : Setup.overdrawn.prompt.report.floorTokens.toNat = 2 := by
    change Setup.overdrawn.prepared.floorTokens.toNat = 2
    cbv
  have hcapacity : Setup.overdrawn.capacity.toNat = 1 := rfl
  obtain ⟨hreserved, hslots, hnodes, hlanes, -, hspent, -⟩ :=
    @spent_le_ceiling Setup.overdrawn Sample.isCompiled (by omega)
  rw [haside, hcapacity] at hslots hnodes hlanes
  rw [hfloors, hcapacity] at hspent
  exact ⟨haside, hreserved.trans haside, hslots [0] (List.prefix_refl _),
    (hnodes _ (List.prefix_refl _)).2, hlanes _ (List.prefix_refl _), hspent⟩

end Render

end ChatPrompt
