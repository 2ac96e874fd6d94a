import ChatPrompt.Proofs.Releases
import ChatPrompt.Proofs.Translation

/-!
# Slots come before those of lower priority

What a slot is filled with does not depend on the slots that are filled after it. Whatever the
condition, the limit, the plan and the data of one slot are, everything that the texts of the layout
and the lanes need is set aside before any slot is filled, and the order of filling is that of the
priorities and places; so the slots before this one find the same ledger and do the same.
-/

namespace ChatPrompt

namespace Template

/-- Slots under their names are the same, or have a certain name and at least the same priority. -/
structure EntryAgrees (name : String) (entry other : String × Slot) : Prop where
  /-- The names are the same. -/
  name_eq : other.1 = entry.1
  /-- The priorities are the same. -/
  priority_eq : other.2.priority = entry.2.priority
  /-- Under another name than the given one, all is the same. -/
  eq_of_ne : entry.1 ≠ name → other.2 = entry.2

/-- Two templates differ in nothing that a render reads but the condition, the limit, the plan and
the data of one slot. -/
structure AgreesBut (name : String) (source other : Template) : Prop where
  /-- The layouts are the same. -/
  layout_eq : other.layout = source.layout
  /-- The slots agree, one with another. -/
  slots : List.Forall₂ (EntryAgrees name) source.slots other.slots
  /-- The lanes are the same. -/
  attachments_eq : other.attachments = source.attachments

end Template

namespace Blueprint

/-- Slots are the same, or have a certain name and at least the same priority. -/
structure SlotAgrees (name : String) (slot other : Slot) : Prop where
  /-- The names are the same. -/
  name_eq : other.name = slot.name
  /-- The priorities are the same. -/
  priority_eq : other.priority = slot.priority
  /-- Under another name than the given one, all is the same. -/
  eq_of_ne : slot.name ≠ name → other = slot

/-- Two blueprints differ in nothing that a render reads but one slot. -/
structure AgreesBut (name : String) (made other : Blueprint) : Prop where
  /-- The layouts are the same. -/
  layout_eq : other.layout = made.layout
  /-- The slots agree, one with another. -/
  slots : List.Forall₂ (SlotAgrees name) made.slots other.slots
  /-- The orders of filling are the same. -/
  order_eq : other.order = made.order
  /-- The lanes are the same. -/
  lanes_eq : other.lanes = made.lanes

/-- What slots that agree have in common is the same in lists of them. -/
theorem map_eq_of_slotAgrees {name : String} {slots others : List Slot}
    (h : List.Forall₂ (SlotAgrees name) slots others) {α : Type} {f : Slot → α}
    (hf : ∀ slot other, SlotAgrees name slot other → f other = f slot) :
    others.map f = slots.map f := by
  have hmapped : List.Forall₂ Eq (slots.map f) (others.map f) := by
    rw [List.forall₂_map_left_iff, List.forall₂_map_right_iff]
    exact h.imp fun slot other hslot => (hf slot other hslot).symm
  rw [List.forall₂_eq_eq_eq] at hmapped
  exact hmapped.symm

/-- A slot of another name than the given one is the same in two blueprints. -/
theorem AgreesBut.getElem?_eq {name : String} {made other : Blueprint}
    (h : made.AgreesBut name other) {number : Nat}
    (hname : (made.slots[number]?).map Slot.name ≠ some name) :
    other.slots[number]? = made.slots[number]? := by
  have hlength := h.slots.length_eq
  by_cases hlt : number < made.slots.length
  · have hlt' : number < other.slots.length := hlength ▸ hlt
    have hslot := h.slots.get hlt hlt'
    rw [List.getElem?_eq_getElem hlt] at hname ⊢
    rw [List.getElem?_eq_getElem hlt']
    exact congrArg some (hslot.eq_of_ne fun heq => hname (congrArg some heq))
  · rw [List.getElem?_eq_none (Nat.le_of_not_lt hlt),
      List.getElem?_eq_none (hlength ▸ Nat.le_of_not_lt hlt)]

/-- The slots that are filled before one have other names. -/
theorem IsLaidOut.name_ne_of_mem_before {made : Blueprint} (h : made.IsLaidOut)
    {before after : List Nat} {last : Nat} {name : String}
    (horder : made.order = before ++ last :: after)
    (hlast : (made.slots[last]?).map Slot.name = some name) :
    ∀ number ∈ before, (made.slots[number]?).map Slot.name ≠ some name := by
  intro number hnumber hname
  have hnodup := h.nodup_order
  rw [horder] at hnodup
  exact (List.nodup_append.1 hnodup).2.2 number hnumber last List.mem_cons_self
    (Template.number_eq h.names_nodup hname hlast)

end Blueprint

namespace Template

variable {name : String} {source other : Template}

/-- What is kept under a name agrees in two templates that differ in one slot. -/
theorem AgreesBut.lookup {slots others : List (String × Slot)}
    (h : List.Forall₂ (EntryAgrees name) slots others) {key : String} {spec : Slot}
    (hspec : slots.lookup key = some spec) :
    ∃ again, others.lookup key = some again ∧ again.priority = spec.priority ∧
      (key ≠ name → again = spec) := by
  induction h with
  | nil => cases hspec
  | @cons entry found slots others hentry hrest ih =>
    obtain ⟨entryName, entrySlot⟩ := entry
    obtain ⟨foundName, foundSlot⟩ := found
    obtain ⟨hname, hpriority, heq⟩ := hentry
    dsimp only at hname hpriority heq
    subst hname
    rw [List.lookup_cons] at hspec ⊢
    cases hkey : key == foundName with
    | true =>
      rw [hkey] at hspec
      cases Option.some.inj hspec
      exact ⟨foundSlot, rfl, hpriority, fun hne => heq fun hsame => hne (eq_of_beq hkey ▸ hsame)⟩
    | false =>
      rw [hkey] at hspec
      exact ih hspec

/-- A place that points at a slot of its name does so among any slots with the same names. -/
theorem LayoutNode.Becomes.of_names_eq {slots others : List Blueprint.Slot} {node : LayoutNode}
    {made : Blueprint.LayoutNode}
    (hnames : others.map Blueprint.Slot.name = slots.map Blueprint.Slot.name)
    (h : LayoutNode.Becomes slots node made) : LayoutNode.Becomes others node made := by
  cases h with
  | message hdetails => exact .message hdetails
  | slot hname hslot hheader hfooter homit =>
    refine .slot hname ?_ hheader hfooter homit
    rwa [← List.getElem?_map, hnames, List.getElem?_map]

/-- The images of two slots for one place agree. -/
theorem slotAgrees_of_place {slots others : List (String × Slot)}
    (h : List.Forall₂ (EntryAgrees name) slots others) {place : String × Nat}
    {made again : Blueprint.Slot} (hmade : PlaceBecomes slots place made)
    (hagain : PlaceBecomes others place again) : Blueprint.SlotAgrees name made again := by
  obtain ⟨spec, hspec, hslot⟩ := hmade.spec
  obtain ⟨found, hfound, hpriority, heq⟩ := AgreesBut.lookup h hspec
  obtain ⟨_, hother, hslot'⟩ := hagain.spec
  obtain rfl := Option.some.inj (hfound.symm.trans hother)
  refine ⟨hagain.name_eq.trans hmade.name_eq.symm, ?_, fun hne => ?_⟩
  · rw [hslot'.priority_eq, hpriority, hslot.priority_eq]
  · have hsame := heq (hmade.name_eq ▸ hne)
    exact rightUnique_place others hagain ⟨hmade.name_eq, hmade.layoutIndex_eq, found, hfound,
      hsame ▸ hslot⟩

/-- The images of templates that differ in one slot differ in its image alone. -/
theorem AgreesBut.image (h : source.AgreesBut name other) {made again : Blueprint}
    (hmade : source.Becomes made) (hagain : other.Becomes again) :
    made.AgreesBut name again := by
  have hplaces := hagain.slots
  have hlayout := hagain.layout
  have hlanes := hagain.lanes
  rw [h.layout_eq] at hplaces hlayout
  rw [h.attachments_eq] at hlanes
  have hlength := hmade.slots.length_eq
  have hslots : List.Forall₂ (Blueprint.SlotAgrees name) made.slots again.slots := by
    refine List.forall₂_of_length_eq_of_get (hlength.symm.trans hplaces.length_eq) ?_
    intro number hnumber hnumber'
    have hplace := hlength.symm ▸ hnumber
    exact slotAgrees_of_place h.slots (hmade.slots.get hplace hnumber)
      (hplaces.get hplace hnumber')
  have hnames := Blueprint.map_eq_of_slotAgrees hslots fun _ _ hslot => hslot.name_eq
  have hpriorities := Blueprint.map_eq_of_slotAgrees hslots fun _ _ hslot => hslot.priority_eq
  refine ⟨?_, hslots, hmade.order_eq hagain hpriorities,
    rightUnique_lane.forall₂ hlanes hmade.lanes⟩
  have hsame := hlayout.imp fun node image hnode =>
    LayoutNode.Becomes.of_names_eq hnames.symm hnode
  exact (rightUnique_layoutNode hmade.names_nodup).forall₂ hsame hmade.layout

/-- What is filled before a slot stands before it in the order of filling. -/
theorem Becomes.mem_of_fillsBefore {made : Blueprint} (h : source.Becomes made)
    {before after : List Nat} {first last : Nat} (horder : made.order = before ++ last :: after)
    (hfirst : first < made.slots.length) (hbefore : Blueprint.FillsBefore made.slots first last) :
    first ∈ before := by
  have hlt : last < made.slots.length :=
    List.mem_range.1 (h.order_perm.mem_iff.1 (by simp [horder]))
  have hin := h.order_perm.mem_iff.2 (List.mem_range.2 hfirst)
  have hsorted := h.order_sorted
  rw [horder] at hin hsorted
  rcases List.mem_append.1 hin with hfront | hback
  · exact hfront
  · exfalso
    rcases List.mem_cons.1 hback with rfl | hafter
    · exact hbefore.asymm hfirst hfirst hbefore
    · have hlater := (List.pairwise_cons.1 (List.pairwise_append.1 hsorted).2.1).1 first hafter
      exact hbefore.asymm hfirst hlt hlater

end Template

namespace Render

variable (env : Environment)

/-- Slots are filled alike where they are the same. -/
theorem fillSlots_congr {made other : Blueprint} {order : List Nat}
    (h : ∀ number ∈ order, other.slots[number]? = made.slots[number]?)
    (prepared : PreparedLayout) (ledger : Ledger) :
    fillSlots env other prepared order ledger = fillSlots env made prepared order ledger := by
  induction order generalizing ledger with
  | nil => rfl
  | cons number rest ih =>
    obtain ⟨hfirst, hrest⟩ := List.forall_mem_cons.1 h
    cases hslot : made.slots[number]? with
    | none =>
      rw [hslot] at hfirst
      rw [fillSlots_cons_of_none env hslot, fillSlots_cons_of_none env hfirst, ih hrest]
    | some slot =>
      rw [hslot] at hfirst
      rw [fillSlots_cons env hslot, fillSlots_cons env hfirst, ih hrest]

namespace Setup

variable {setup : Setup} {other : Blueprint} {name : String}
  (h : setup.blueprint.AgreesBut name other)

include h

/-- What is set aside for the texts of the layout does not depend on what fills a slot. -/
theorem prepared_congr : (setup.withBlueprint other).prepared = setup.prepared := by
  simp only [prepared, texts, nodes, withBlueprint, h.layout_eq]

/-- What is set aside altogether does not depend on what fills a slot. -/
theorem reserved_congr : (setup.withBlueprint other).reserved = setup.reserved := by
  simp only [reserved, lanes, mergedLanes, texts, nodes, withBlueprint, h.layout_eq, h.lanes_eq]

/-- Slots of other names that are filled first are filled alike. -/
theorem filledUpTo_congr {before : List Nat}
    (hnames : ∀ number ∈ before,
      (setup.blueprint.slots[number]?).map Blueprint.Slot.name ≠ some name) :
    (setup.withBlueprint other).filledUpTo before = setup.filledUpTo before := by
  rw [filledUpTo, prepared_congr h, reserved_congr h]
  exact fillSlots_congr setup.env (fun number hnumber => h.getElem?_eq (hnames number hnumber)) _ _

omit h in
/-- What is among the first buffers is found under its number, and reported at its place. -/
theorem lookup_filled_of_getElem? (hlaid : setup.blueprint.IsLaidOut) {before after : List Nat}
    (horder : setup.blueprint.order = before ++ after) {index : Nat} {entry : Nat × SlotBuffer}
    (hentry : (setup.filledUpTo before).1[index]? = some entry) :
    setup.filled.1.lookup entry.1 = some entry.2 ∧
      setup.report.slots[index]? = some entry.2.stats := by
  obtain ⟨rest, hrest⟩ := setup.filledUpTo_isPrefix horder
  have hfilled : setup.filled.1[index]? = some entry := by
    rw [← hrest, List.getElem?_append_left (List.getElem?_eq_some_iff.1 hentry).1, hentry]
  constructor
  · exact Keyed.lookup_of_mem (setup.nodup_filled hlaid) (List.mem_of_getElem? hfilled)
  · rw [report, stats, List.getElem?_map, hfilled]
    rfl

end Setup

/-- No slot can take anything from one that is filled before it. Of two templates that differ only
in the condition, the limit, the plan and the data of one slot, both are rendered, with the same
cost of the texts of the layout; and each slot of a higher priority, or of the same priority and an
earlier place, is filled with the same messages in both and reports the same at the same place. -/
theorem buffer_eq_of_fillsBefore {compiler another : Compiler} (hcompiler : compiler.IsReached)
    (hanother : another.IsReached) {allowed permitted : Option (List String)} {name : String}
    {source other : Template} (hagrees : source.AgreesBut name other) {made again : Blueprint}
    (hmade : (compiler.compileAllowing allowed source).1 = .ok made)
    (hagain : (another.compileAllowing permitted other).1 = .ok again)
    (options : RenderOptions) (capacity : Tokens) :
    ∃ prompt changed, render env made options capacity = .ok prompt ∧
      render env again options capacity = .ok changed ∧
      changed.report.floorTokens = prompt.report.floorTokens ∧
      ∀ first slot last, made.slots[first]? = some slot →
        (made.slots[last]?).map Blueprint.Slot.name = some name →
        Blueprint.FillsBefore made.slots first last →
        again.slots[first]? = some slot ∧
          ∃ buffer, (Setup.mk env made options capacity).filled.1.lookup first = some buffer ∧
            (Setup.mk env again options capacity).filled.1.lookup first = some buffer ∧
            ∃ index : Nat, prompt.report.slots[index]? = some buffer.stats ∧
              changed.report.slots[index]? = some buffer.stats := by
  have hbecomes := hcompiler.becomes hmade
  have hboth : made.AgreesBut name again := hagrees.image hbecomes (hanother.becomes hagain)
  have hlaid : made.IsLaidOut := Blueprint.IsCompiled.isLaidOut ⟨compiler, allowed, source, hmade⟩
  have hlaid' : again.IsLaidOut :=
    Blueprint.IsCompiled.isLaidOut ⟨another, permitted, other, hagain⟩
  let setup : Setup := ⟨env, made, options, capacity⟩
  let changed : Setup := ⟨env, again, options, capacity⟩
  refine ⟨setup.prompt, changed.prompt, setup.render_eq hlaid, changed.render_eq hlaid',
    congrArg PreparedLayout.floorTokens (@Setup.prepared_congr setup _ _ hboth), ?_⟩
  intro first slot last hfirst hlast hbefore
  obtain ⟨hlt, -⟩ := List.getElem?_eq_some_iff.1 hfirst
  have hlt' : last < made.slots.length := by
    obtain ⟨_, hslot, -⟩ := Option.map_eq_some_iff.1 hlast
    exact (List.getElem?_eq_some_iff.1 hslot).1
  obtain ⟨before, after, horder⟩ :=
    List.append_of_mem (hlaid.order_perm.mem_iff.2 (List.mem_range.2 hlt'))
  have hin : first ∈ before := hbecomes.mem_of_fillsBefore horder hlt hbefore
  have hnames := hlaid.name_ne_of_mem_before horder hlast
  have hsame : changed.filledUpTo before = setup.filledUpTo before :=
    @Setup.filledUpTo_congr setup _ _ hboth _ hnames
  have hnumbers := setup.numbers_filledUpTo hlaid horder
  obtain ⟨entry, hentry, rfl⟩ := List.mem_map.1 (hnumbers.symm ▸ hin)
  obtain ⟨index, hindex⟩ := List.mem_iff_getElem?.1 hentry
  obtain ⟨hlookup, hreport⟩ := Setup.lookup_filled_of_getElem? hlaid horder hindex
  obtain ⟨hlookup', hreport'⟩ := @Setup.lookup_filled_of_getElem? changed hlaid' _ _
    (hboth.order_eq.trans horder) _ _ (hsame ▸ hindex)
  exact ⟨(hboth.getElem?_eq (hnames _ hin)).trans hfirst, entry.2, hlookup, hlookup', index,
    hreport, hreport'⟩

end Render

namespace Sample

open Render

/-- A plan that says one text. -/
def saysOnce (text : String) : List Template.PlanNode :=
  [.message ⟨.user, some text, none, none, none⟩]

/-- The steps of the plan that says one text. -/
def saidOnce (text : String) : List Blueprint.PlanNode :=
  [.message ⟨.user, .text ⟨text, [.text text]⟩, false, none, none⟩]

/-- A template with a slot of a low priority above one of a high priority. -/
def rankedTemplate (low : Template.Slot) : Template where
  id := "ranked"
  task := "chat"
  name := "Ranked"
  version := 1
  layout := [.slot ⟨"low", some ⟨.system, "L"⟩, none, none⟩, .slot ⟨"high", none, none, none⟩]
  slots := [("high", ⟨1, none, none, saysOnce "h", .null⟩), ("low", low)]
  attachments := []

/-- The blueprint of the template with a slot of a high priority. -/
def rankedBlueprint (low : Blueprint.Slot) : Blueprint where
  id := "ranked"
  task := "chat"
  name := "Ranked"
  version := 1
  layout := [.slot ⟨"low", 0, some ⟨.system, ⟨"L", [.text "L"]⟩⟩, none, true⟩,
    .slot ⟨"high", 1, none, none, true⟩]
  slots := [low, ⟨"high", 1, none, none, saidOnce "h", .null, 1⟩]
  order := [1, 0]
  lanes := []

end Sample

namespace Render

/-- The slot of the high priority is filled with one message, whether the other says something that
does not fit or is left out. -/
theorem buffer_eq_of_fillsBefore_ranked :
    let greedy := Sample.rankedBlueprint ⟨"low", 0, none, none, Sample.saidOnce "xxx", .null, 0⟩
    let modest := Sample.rankedBlueprint
      ⟨"low", 0, some (.expression (.literal .null)), some 1, [], .bool true, 0⟩
    (Setup.mk Sample.environment greedy .none 2).fill 1 = [⟨Message.of .user "h", none⟩] ∧
      ∃ buffer, (Setup.mk Sample.environment greedy .none 2).filled.1.lookup 1 = some buffer ∧
        (Setup.mk Sample.environment modest .none 2).filled.1.lookup 1 = some buffer := by
  intro greedy modest
  have hgreedy : ((Compiler.fresh none).compileAllowing none (Sample.rankedTemplate
      ⟨0, none, none, Sample.saysOnce "xxx", .null⟩)).1 = .ok greedy := by cbv
  have hmodest : ((Compiler.fresh none).compileAllowing none (Sample.rankedTemplate
      ⟨0, some (.expression "null"), some 1, [], .bool true⟩)).1 = .ok modest := by cbv
  have hagrees : (Sample.rankedTemplate ⟨0, none, none, Sample.saysOnce "xxx", .null⟩).AgreesBut
      "low" (Sample.rankedTemplate ⟨0, some (.expression "null"), some 1, [], .bool true⟩) := by
    refine ⟨rfl, .cons ⟨rfl, rfl, fun _ => rfl⟩ (.cons ⟨rfl, rfl, fun hne => ?_⟩ .nil), rfl⟩
    exact absurd rfl hne
  obtain ⟨prompt, changed, -, -, -, hall⟩ := buffer_eq_of_fillsBefore Sample.environment
    (.fresh none) (.fresh none) hagrees hgreedy hmodest .none 2
  have hbefore : Blueprint.FillsBefore greedy.slots 1 0 := by
    intro one hone other hother
    cases hone
    cases hother
    exact .inl (by decide)
  obtain ⟨-, buffer, hlookup, hlookup', -⟩ := hall 1 _ 0 rfl rfl hbefore
  exact ⟨by simp only [greedy]; cbv, buffer, hlookup, hlookup'⟩

end Render

end ChatPrompt
