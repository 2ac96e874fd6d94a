import ChatPrompt.Blueprint.Compiler
import Mathlib

/-!
# A compiled blueprint places each slot once

Whatever else is wrong or right in a template, the blueprint that a compilation makes of it
is laid out: the places for slots in its layout name the slots by their numbers, in order and
each once, under names that are all different, and the order of filling goes through all
slots. A render relies on nothing else about compilation.
-/

namespace ChatPrompt

namespace Blueprint

/-- The place that an element of the layout is for a slot, if it is one. -/
def LayoutNode.placeholder? : LayoutNode → Option Placeholder
  | .message _ => none
  | .slot placeholder => some placeholder

/-- The places for slots in the layout, in order. -/
def places (blueprint : Blueprint) : List Placeholder :=
  blueprint.layout.filterMap LayoutNode.placeholder?

/-- Each slot has one place in the layout, the places are in the order of the slots, and each
slot is filled once. -/
structure IsLaidOut (blueprint : Blueprint) : Prop where
  /-- The order of filling goes through the numbers of all slots. -/
  order_perm : blueprint.order.Perm (List.range blueprint.slots.length)
  /-- The places carry the names and the numbers of the slots. -/
  places_eq : (blueprint.layout.filterMap LayoutNode.placeholder?).map
      (fun place => (place.name, place.slot)) =
    blueprint.slots.zipIdx.map fun slot => (slot.1.name, slot.2)
  /-- No two slots have one name. -/
  names_nodup : (blueprint.slots.map Slot.name).Nodup

namespace IsLaidOut

variable {blueprint : Blueprint} (h : blueprint.IsLaidOut)

include h

/-- No slot is filled twice. -/
theorem nodup_order : blueprint.order.Nodup := h.order_perm.nodup_iff.2 List.nodup_range

/-- The places have the numbers of the slots, in order. -/
theorem numbers_places : blueprint.places.map Placeholder.slot =
    List.range blueprint.slots.length := by
  have hplaces := congrArg (List.map Prod.snd) h.places_eq
  simp only [List.map_map, Function.comp_def] at hplaces
  exact hplaces.trans (by simp [List.range_eq_range'])

/-- Each place has the number of a slot. -/
theorem slot_lt {place : Placeholder} (hplace : place ∈ blueprint.places) :
    place.slot < blueprint.slots.length := by
  have hmem := List.mem_map_of_mem (f := Placeholder.slot) hplace
  rw [h.numbers_places] at hmem
  exact List.mem_range.1 hmem

end IsLaidOut

/-- The blueprint was compiled from a template, with any sources allowed and any leaves
read before. -/
def IsCompiled (blueprint : Blueprint) : Prop :=
  ∃ (compiler : Compiler) (allowed : Option (List String)) (template : Template),
    (compiler.compileAllowing allowed template).1 = .ok blueprint

namespace Compilation

/-- What a part of a compilation makes satisfies a condition, whatever was done before. -/
def Returns {α : Type} (compilation : Compilation α) (Q : α → Prop) : Prop :=
  ∀ progress, Q (compilation progress).1

variable {α β : Type} {P : α → Prop} {Q : β → Prop}

theorem returns_pure {value : α} (h : P value) : (pure value : Compilation α).Returns P :=
  fun _ => h

theorem returns_bind {first : Compilation α} {next : α → Compilation β}
    (hfirst : first.Returns P) (hnext : ∀ value, P value → (next value).Returns Q) :
    (first >>= next).Returns Q :=
  fun progress => hnext _ (hfirst progress) (first progress).2

/-- A part of which nothing needs to be known. -/
theorem returns_of_bind {first : Compilation α} {next : α → Compilation β}
    (hnext : ∀ value, (next value).Returns Q) : (first >>= next).Returns Q :=
  fun progress => hnext _ (first progress).2

/-- Slots and their places, as the elements of a layout from a position on give them: a place
may be passed over, and those that count are met in order. -/
inductive Places : Nat → List Template.LayoutNode → List (String × Nat) → Prop where
  /-- There is nothing left. -/
  | nil (position : Nat) : Places position [] []
  /-- A message. -/
  | message {position : Nat} {details : Template.LayoutMessage}
    {rest : List Template.LayoutNode} {placed : List (String × Nat)}
    (h : Places (position + 1) rest placed) : Places position (.message details :: rest) placed
  /-- A place that does not count. -/
  | passed {position : Nat} {place : Template.Placeholder} {rest : List Template.LayoutNode}
    {placed : List (String × Nat)} (h : Places (position + 1) rest placed) :
    Places position (.slot place :: rest) placed
  /-- A place that counts. -/
  | counted {position : Nat} {place : Template.Placeholder}
    {rest : List Template.LayoutNode} {placed : List (String × Nat)}
    (h : Places (position + 1) rest placed) :
    Places position (.slot place :: rest) ((place.name, position) :: placed)

/-- No place lies before the position from which on places are looked for. -/
theorem Places.le {position : Nat} {layout : List Template.LayoutNode}
    {placed : List (String × Nat)} (h : Places position layout placed) :
    ∀ entry ∈ placed, position ≤ entry.2 := by
  induction h with
  | nil position => simp
  | message _ ih | passed _ ih =>
    intro entry hentry
    have hle := ih entry hentry
    omega
  | counted _ ih =>
    intro entry hentry
    rcases List.mem_cons.1 hentry with rfl | hrest
    · exact Nat.le_refl _
    · have hle := ih entry hrest
      omega

/-- The slots that have a place exist, are all different, and stand where the layout has
them. -/
theorem placedSlots_returns (slots : List (String × Template.Slot)) (position : Nat)
    (met : List String) (layout : List Template.LayoutNode) :
    (placedSlots slots position met layout).Returns fun placed =>
      Places position layout placed ∧ (placed.map Prod.fst).Nodup ∧
        ∀ entry ∈ placed, (slots.lookup entry.1).isSome ∧ entry.1 ∉ met := by
  induction layout generalizing position met with
  | nil => exact returns_pure ⟨.nil position, List.nodup_nil, by simp⟩
  | cons node rest ih =>
    cases node with
    | message details =>
      rw [placedSlots]
      intro progress
      obtain ⟨hplaces, hrest⟩ := ih (position + 1) met progress
      exact ⟨.message hplaces, hrest⟩
    | slot place =>
      rw [placedSlots]
      split
      · refine returns_of_bind ?_
        intro _ progress
        obtain ⟨hplaces, hrest⟩ := ih (position + 1) met progress
        exact ⟨.passed hplaces, hrest⟩
      · next hknown =>
        split
        · refine returns_of_bind ?_
          intro _ progress
          obtain ⟨hplaces, hrest⟩ := ih (position + 1) met progress
          exact ⟨.passed hplaces, hrest⟩
        · next hfresh =>
          refine returns_bind (ih (position + 1) (place.name :: met)) ?_
          rintro placed ⟨hplaces, hnodup, hmem⟩
          refine returns_pure ?_
          have hname : place.name ∉ placed.map Prod.fst := by
            intro hin
            obtain ⟨entry, hentry, heq⟩ := List.mem_map.1 hin
            exact (hmem entry hentry).2 (heq ▸ List.mem_cons_self)
          refine ⟨.counted hplaces, List.nodup_cons.2 ⟨hname, hnodup⟩, ?_⟩
          intro entry hentry
          rcases List.mem_cons.1 hentry with rfl | hrest
          · exact ⟨by simpa [Option.isNone_iff_eq_none, Option.isSome_iff_ne_none] using hknown,
              by simpa using hfresh⟩
          · obtain ⟨hsome, hmet⟩ := hmem entry hrest
            exact ⟨hsome, fun hin => hmet (List.mem_cons_of_mem _ hin)⟩

/-- A position that is the place of no slot has no number. -/
theorem findIdx?_eq_none {placed : List (String × Nat)} {position : Nat}
    (h : ∀ entry ∈ placed, entry.2 ≠ position) :
    placed.findIdx? (fun entry => entry.2 == position) = none := by
  rw [List.findIdx?_eq_none_iff]
  intro entry hentry
  exact beq_eq_false_iff_ne.2 (h entry hentry)

/-- The number of the slot whose place is at a position, given the slots before it. -/
theorem findIdx?_place {before after : List (String × Nat)} {name : String} {position : Nat}
    (hbefore : ∀ entry ∈ before, entry.2 < position) :
    (before ++ (name, position) :: after).findIdx? (fun entry => entry.2 == position) =
      some before.length := by
  have hnone : before.findIdx? (fun entry => entry.2 == position) = none :=
    findIdx?_eq_none fun entry hentry => Nat.ne_of_lt (hbefore entry hentry)
  simp [List.findIdx?_append, hnone, List.findIdx?_cons]

/-- The places of the layout that is made carry the numbers of the slots that have one, in
order. -/
theorem layoutFrom_returns (allowed : Option (List String)) (position : Nat)
    (layout : List Template.LayoutNode) (before after : List (String × Nat))
    (hbefore : ∀ entry ∈ before, entry.2 < position) (hafter : Places position layout after) :
    (layoutFrom allowed (before ++ after) position layout).Returns fun nodes =>
      (nodes.filterMap LayoutNode.placeholder?).map (fun place => (place.name, place.slot)) =
        (after.zipIdx before.length).map fun entry => (entry.1.1, entry.2) := by
  have hlater : ∀ {before : List (String × Nat)} {position : Nat},
      (∀ entry ∈ before, entry.2 < position) → ∀ entry ∈ before, entry.2 < position + 1 :=
    fun h entry hentry => Nat.lt_succ_of_lt (h entry hentry)
  induction hafter generalizing before with
  | nil position => exact returns_pure rfl
  | @message position details rest placed _ ih =>
    rw [layoutFrom]
    refine returns_of_bind ?_
    intro message
    refine returns_bind (ih before (hlater hbefore)) ?_
    intro others hothers
    refine returns_pure ?_
    cases message with
    | none => simpa using hothers
    | some message =>
      simpa [List.filterMap_cons, LayoutNode.placeholder?] using hothers
  | @passed position place rest placed hplaces ih =>
    rw [layoutFrom]
    have hne : ∀ entry ∈ before ++ placed, entry.2 ≠ position := by
      intro entry hentry
      rcases List.mem_append.1 hentry with hin | hin
      · exact Nat.ne_of_lt (hbefore entry hin)
      · exact Nat.ne_of_gt (hplaces.le entry hin)
    rw [findIdx?_eq_none hne]
    exact ih before (hlater hbefore)
  | @counted position place rest placed _ ih =>
    rw [layoutFrom]
    rw [findIdx?_place hbefore]
    have hfirst : (placeholder [.key "layout", .index position] before.length place).Returns
        fun node => ∃ made, node = .slot made ∧ made.name = place.name ∧
          made.slot = before.length :=
      fun progress => ⟨_, rfl, rfl, rfl⟩
    refine returns_bind hfirst ?_
    rintro _ ⟨made, rfl, hname, hslot⟩
    -- the place that is met joins the slots before the ones that follow
    have hnext := ih (before ++ [(place.name, position)]) (by
      intro entry hentry
      rcases List.mem_append.1 hentry with hin | hin
      · exact hlater hbefore entry hin
      · rw [List.mem_singleton.1 hin]
        exact Nat.lt_succ_self position)
    rw [List.append_assoc, List.singleton_append] at hnext
    refine returns_bind hnext ?_
    intro others hothers
    refine returns_pure ?_
    simp [LayoutNode.placeholder?, hname, hslot, hothers, List.zipIdx_cons]

/-- The slots that are made carry the names of those that have a place. -/
theorem slots_returns (allowed : Option (List String)) (specs : List (String × Template.Slot))
    (placed : List (String × Nat))
    (hknown : ∀ entry ∈ placed, (specs.lookup entry.1).isSome) :
    (slots allowed specs placed).Returns fun made =>
      made.map Slot.name = placed.map Prod.fst := by
  induction placed with
  | nil => exact returns_pure rfl
  | cons entry rest ih =>
    obtain ⟨name, layoutIndex⟩ := entry
    rw [slots]
    cases hspec : specs.lookup name with
    | none =>
      have hsome := hknown (name, layoutIndex) List.mem_cons_self
      rw [hspec] at hsome
      cases hsome
    | some spec =>
      refine returns_of_bind ?_
      intro test
      refine returns_of_bind ?_
      intro plan
      refine returns_bind (ih fun entry hentry => hknown entry (List.mem_cons_of_mem _ hentry)) ?_
      intro others hothers
      refine returns_pure ?_
      simp [hothers]

/-- The order of filling goes through all slots. -/
theorem fillingOrder_perm (slots : List Slot) :
    (fillingOrder slots).Perm (List.range slots.length) := by
  have hsorted := (List.mergeSort_perm slots.zipIdx
    fun a b => decide (b.1.priority ≤ a.1.priority)).map Prod.snd
  rw [fillingOrder]
  simpa [List.zipIdx_map_snd, ← List.range_eq_range'] using hsorted

/-- What is compiled of any template is laid out. -/
theorem template_returns (allowed : Option (List String)) (source : Template) :
    (template allowed source).Returns IsLaidOut := by
  rw [template]
  refine returns_bind (placedSlots_returns source.slots 0 [] source.layout) ?_
  rintro placed ⟨hplaces, hnodup, hmem⟩
  refine returns_of_bind ?_
  intro _
  have hlayout := layoutFrom_returns allowed 0 source.layout [] placed (by simp) hplaces
  rw [List.nil_append] at hlayout
  refine returns_bind hlayout ?_
  intro layout hlayout
  refine returns_bind (slots_returns allowed source.slots placed fun entry h => (hmem entry h).1) ?_
  intro slots hslots
  refine returns_of_bind ?_
  intro lanes
  refine returns_pure ?_
  refine ⟨fillingOrder_perm slots, ?_, hslots ▸ hnodup⟩
  dsimp only
  have hnames : slots.zipIdx.map (fun slot => (slot.1.name, slot.2)) =
      (slots.map Slot.name).zipIdx := by
    simp [List.zipIdx_map]
  rw [hlayout, hnames, hslots, List.zipIdx_map]
  rfl

end Compilation

/-- A compiled blueprint is laid out. -/
theorem IsCompiled.isLaidOut {blueprint : Blueprint} (h : blueprint.IsCompiled) :
    blueprint.IsLaidOut := by
  obtain ⟨compiler, allowed, source, hcompile⟩ := h
  have hlaid := Compilation.template_returns allowed source ⟨compiler.leaves, [], []⟩
  rw [Compiler.compileAllowing, Compilation.run_eq_ok_iff] at hcompile
  obtain ⟨-, rfl⟩ := hcompile
  exact hlaid

end Blueprint

namespace Sample

/-- The template of a conversation: instructions, the turns of the context as far as they
fit, with a line between them, and a lane for lore that has something set aside. -/
def template : Template where
  id := "chat"
  task := "chat"
  name := "Chat"
  version := 1
  layout := [.message ⟨.system, some "H", none, false, none⟩,
    .slot ⟨"turns", some ⟨.system, "T"⟩, none, none⟩]
  slots := [("turns", ⟨0, none, none,
    [.forEach ⟨⟨none, .null, some "turns"⟩, .ascending, none, none, .appending,
        some ⟨.system, "-"⟩, none, true⟩
      [.message ⟨.user, some "\x7b\x7bitem\x7d\x7d", none, none, none⟩]], .null⟩)]
  attachments := [⟨"lore", true, .system, "\x7b\x7bpayload\x7d\x7d", 0, [], some 1⟩]

/-- The blueprint of the conversation. -/
def blueprint : Blueprint where
  id := "chat"
  task := "chat"
  name := "Chat"
  version := 1
  layout := [.message ⟨.system, .text ⟨"H", [.text "H"]⟩, false, none, none⟩,
    .slot ⟨"turns", 0, some ⟨.system, ⟨"T", [.text "T"]⟩⟩, none, true⟩]
  slots := [⟨"turns", 0, none, none,
    [.forEach ⟨⟨.scope ⟨"turns", []⟩, .literal .null⟩, .ascending, none, none, .appending,
        some ⟨.system, ⟨"-", [.text "-"]⟩⟩, none, true⟩
      [.message ⟨.user, .text ⟨"\x7b\x7bitem\x7d\x7d", [.value (.path ⟨"item", []⟩)]⟩, false, none,
        none⟩]],
    .null, 1⟩]
  order := [0]
  lanes := [⟨"lore", true, .system,
    ⟨"\x7b\x7bpayload\x7d\x7d", [.value (.path ⟨"payload", []⟩)]⟩, 0, [], some 1⟩]

theorem isCompiled : blueprint.IsCompiled :=
  ⟨Compiler.fresh none, none, template, by cbv⟩

end Sample

end ChatPrompt
