import ChatPrompt.Proofs.Image

/-!
# A layout in another order

The slots of a blueprint are numbered in the order of their places in the layout, so a layout in
another order gives them other numbers. Apart from that, and from the places themselves, the
blueprint stays the same: its elements, its slots and its lanes; and if no two slots have the same
priority, the order in which the slots are filled does too.
-/

namespace ChatPrompt

namespace Blueprint

/-- An element of the layout with the slot of another number. -/
def LayoutNode.renumber (number : Nat → Nat) : LayoutNode → LayoutNode
  | .message details => .message details
  | .slot place => .slot { place with slot := number place.slot }

/-- A slot without its place. -/
def Slot.unplaced (slot : Slot) : Slot := { slot with layoutIndex := 0 }

/-- Two blueprints are the same but for the order of their layouts, where slots with certain numbers
in the one have certain other numbers in the other. -/
structure Rearranges (number : Nat → Nat) (other made : Blueprint) : Prop where
  /-- The elements are the same. -/
  layout_perm : (other.layout.map (LayoutNode.renumber number)).Perm made.layout
  /-- The slots with corresponding numbers are the same. -/
  slots : ∀ index < other.slots.length,
    (made.slots[number index]?).map Slot.unplaced = (other.slots[index]?).map Slot.unplaced
  /-- No two slots correspond to the same one. -/
  number_inj : ∀ index < other.slots.length, ∀ again < other.slots.length,
    number index = number again → index = again
  /-- The slots are filled in the same order. -/
  order_eq : other.order.map number = made.order
  /-- The lanes are the same. -/
  lanes_eq : other.lanes = made.lanes

/-- Where slots are filled in one order, the corresponding ones are in the other. -/
theorem Rearranges.order_append {number : Nat → Nat} {other made : Blueprint}
    (h : other.Rearranges number made) {before after : List Nat}
    (horder : other.order = before ++ after) :
    made.order = before.map number ++ after.map number := by
  rw [← h.order_eq, horder, List.map_append]

/-- The elements give the same in both orders, where they are read with corresponding numbers. -/
theorem Rearranges.flatMap_perm {number : Nat → Nat} {other made : Blueprint}
    (h : other.Rearranges number made) {α : Type} {read again : LayoutNode → List α}
    (hread : ∀ node ∈ other.layout, again node = read (node.renumber number)) :
    (other.layout.flatMap again).Perm (made.layout.flatMap read) := by
  rw [List.flatMap_congr hread, ← List.flatMap_map]
  exact h.layout_perm.flatMap_right read

/-- The number that the slot of a number has in another blueprint. -/
def numberIn (made other : Blueprint) (index : Nat) : Nat :=
  made.slots.findIdx fun slot => some slot.name == (other.slots[index]?).map Slot.name

/-- The slot of the number that a slot has in another blueprint has its name, if any has. -/
theorem name_numberIn {made other : Blueprint} {index : Nat} {name : String}
    (hindex : (other.slots[index]?).map Slot.name = some name)
    (hname : name ∈ made.slots.map Slot.name) :
    (made.slots[made.numberIn other index]?).map Slot.name = some name := by
  obtain ⟨slot, hslot, rfl⟩ := List.mem_map.1 hname
  have hlt : made.numberIn other index < made.slots.length := by
    refine List.findIdx_lt_length_of_exists ⟨slot, hslot, ?_⟩
    simp [hindex]
  have hfound := List.findIdx_getElem (w := hlt)
  rw [List.getElem?_eq_getElem hlt]
  exact (eq_of_beq hfound).trans hindex

end Blueprint

namespace Template

open Blueprint.Compilation

/-- The image of a slot without its place is made of the same. -/
theorem PlaceBecomes.unplaced {slots : List (String × Slot)} {place : String × Nat}
    {made : Blueprint.Slot} (h : PlaceBecomes slots place made) :
    PlaceBecomes slots (place.1, 0) made.unplaced := by
  obtain ⟨spec, hspec, hslot⟩ := h.spec
  exact ⟨h.name_eq, rfl, spec, hspec, hslot.priority_eq, hslot.condition, hslot.budget_eq,
    hslot.plan, hslot.metadata_eq⟩

/-- An element of the layout has the same image in another blueprint, but for the number of its
slot. -/
theorem LayoutNode.Becomes.renumber {number : Nat → Nat} {slots others : List Blueprint.Slot}
    (hnumber : ∀ index name, (others[index]?).map Blueprint.Slot.name = some name →
      (slots[number index]?).map Blueprint.Slot.name = some name)
    {node : LayoutNode} {made : Blueprint.LayoutNode} (h : LayoutNode.Becomes others node made) :
    LayoutNode.Becomes slots node (made.renumber number) := by
  cases h with
  | message hdetails => exact .message hdetails
  | slot hname hslot hheader hfooter homit =>
    exact .slot hname (hnumber _ _ hslot) hheader hfooter homit

namespace Becomes

variable {source : Template} {made : Blueprint} (h : source.Becomes made)

include h

/-- Each slot is made of what is kept under its name. -/
theorem place {slot : Blueprint.Slot} (hslot : slot ∈ made.slots) :
    PlaceBecomes source.slots (slot.name, 0) slot.unplaced := by
  obtain ⟨index, hindex, rfl⟩ := List.mem_iff_getElem.1 hslot
  have hplace := h.slots.get (h.slots.length_eq ▸ hindex) hindex
  have hname := hplace.name_eq
  have hunplaced := hplace.unplaced
  rw [← hname] at hunplaced
  exact hunplaced

/-- Slots of different names have different priorities if those of the template have. -/
theorem nodup_priorities (hpriorities : (source.slots.map fun slot => slot.2.priority).Nodup) :
    (made.slots.map Blueprint.Slot.priority).Nodup := by
  have hnames := List.pairwise_map.1 h.names_nodup
  refine List.pairwise_map.2 (hnames.imp_of_mem fun {slot other} hslot hother hne heq => hne ?_)
  obtain ⟨spec, hspec, hmade⟩ := (h.place hslot).spec
  obtain ⟨again, hagain, hmade'⟩ := (h.place hother).spec
  have hpriority : spec.priority = again.priority :=
    hmade.priority_eq.symm.trans (heq.trans hmade'.priority_eq)
  have hentry : (slot.name, spec) = (other.name, again) :=
    List.inj_on_of_nodup_map hpriorities (Keyed.mem_of_lookup hspec) (Keyed.mem_of_lookup hagain)
      hpriority
  exact congrArg Prod.fst hentry

/-- Where no two slots have the same priority, slots are filled by their priorities alone. -/
theorem priority_lt_of_fillsBefore
    (hpriorities : (source.slots.map fun slot => slot.2.priority).Nodup) {first second : Nat}
    (hbefore : Blueprint.FillsBefore made.slots first second) {one other : Blueprint.Slot}
    (hone : made.slots[first]? = some one) (hother : made.slots[second]? = some other) :
    other.priority < one.priority := by
  rcases hbefore one hone other hother with hlt | ⟨heq, hplace⟩
  · exact hlt
  · have hfirst := (List.getElem?_eq_some_iff.1 hone).1
    have hsame : (made.slots.map Blueprint.Slot.priority)[first]? =
        (made.slots.map Blueprint.Slot.priority)[second]? := by
      rw [List.getElem?_map, List.getElem?_map, hone, hother]
      exact congrArg some heq
    have hindex := (List.getElem?_inj (by rwa [List.length_map])
      (h.nodup_priorities hpriorities)).1 hsame
    exact absurd hindex (Nat.ne_of_lt hplace)

end Becomes

section Rearranged

variable {source another : Template} {made other : Blueprint} (hmade : source.Becomes made)
  (hother : another.Becomes other) (hlayout : another.layout.Perm source.layout)

include hmade hother hlayout

/-- Slots of corresponding numbers have the same name. -/
theorem name_numberIn_of_perm (index : Nat) (name : String)
    (hindex : (other.slots[index]?).map Blueprint.Slot.name = some name) :
    (made.slots[made.numberIn other index]?).map Blueprint.Slot.name = some name := by
  refine Blueprint.name_numberIn hindex ?_
  have hin : name ∈ other.slots.map Blueprint.Slot.name := by
    obtain ⟨slot, hslot, rfl⟩ := Option.map_eq_some_iff.1 hindex
    exact List.mem_map_of_mem (List.mem_of_getElem? hslot)
  rw [hother.names_eq] at hin
  rw [hmade.names_eq]
  exact (hlayout.filterMap _).mem_iff.1 hin

/-- There are as many slots. -/
theorem length_slots_of_perm : other.slots.length = made.slots.length := by
  have hlength := (hlayout.filterMap LayoutNode.slotName?).length_eq
  rw [← List.length_map Blueprint.Slot.name, hother.names_eq, placeNames, hlength, ← placeNames,
    ← hmade.names_eq, List.length_map]

/-- A slot has a corresponding one of the same name. -/
theorem exists_slot_of_perm {index : Nat} {slot : Blueprint.Slot}
    (hslot : other.slots[index]? = some slot) :
    ∃ again, made.slots[made.numberIn other index]? = some again ∧ again.name = slot.name := by
  have hname := name_numberIn_of_perm hmade hother hlayout index slot.name
    (congrArg (Option.map Blueprint.Slot.name) hslot)
  exact Option.map_eq_some_iff.1 hname

/-- No two slots have the same corresponding one. -/
theorem numberIn_inj_of_perm {index again : Nat} (hindex : index < other.slots.length)
    (hagain : again < other.slots.length)
    (heq : made.numberIn other index = made.numberIn other again) : index = again := by
  have hone : (other.slots[index]?).map Blueprint.Slot.name = some other.slots[index].name := by
    rw [List.getElem?_eq_getElem hindex, Option.map_some]
  have htwo : (other.slots[again]?).map Blueprint.Slot.name = some other.slots[again].name := by
    rw [List.getElem?_eq_getElem hagain, Option.map_some]
  have hname := name_numberIn_of_perm hmade hother hlayout _ _ hone
  have hname' := name_numberIn_of_perm hmade hother hlayout _ _ htwo
  rw [heq] at hname
  rw [Option.some.inj (hname.symm.trans hname')] at hone
  exact number_eq hother.names_nodup hone htwo

/-- Slots of corresponding numbers are the same, apart from their places. -/
theorem unplaced_eq_of_perm (hslots : another.slots = source.slots) {index : Nat}
    {slot again : Blueprint.Slot} (hslot : other.slots[index]? = some slot)
    (hagain : made.slots[made.numberIn other index]? = some again) :
    again.unplaced = slot.unplaced := by
  obtain ⟨found, hfound, hname⟩ := exists_slot_of_perm hmade hother hlayout hslot
  obtain rfl := Option.some.inj (hfound.symm.trans hagain)
  have hplace := hmade.place (List.mem_of_getElem? hagain)
  have hplace' := hother.place (List.mem_of_getElem? hslot)
  rw [hname] at hplace
  rw [hslots] at hplace'
  exact rightUnique_place source.slots hplace hplace'

/-- The elements of the layout are the same, apart from the numbers of their slots. -/
theorem renumber_perm : (other.layout.map
    (Blueprint.LayoutNode.renumber (made.numberIn other))).Perm made.layout := by
  obtain ⟨others, himages, hperm⟩ := List.perm_comp_forall₂ hlayout hmade.layout
  have hrenumbered : List.Forall₂ (LayoutNode.Becomes made.slots) another.layout
      (other.layout.map (Blueprint.LayoutNode.renumber (made.numberIn other))) := by
    rw [List.forall₂_map_right_iff]
    exact hother.layout.imp fun node image hnode =>
      hnode.renumber (name_numberIn_of_perm hmade hother hlayout)
  rwa [(rightUnique_layoutNode hmade.names_nodup).forall₂ hrenumbered himages]

/-- If no two slots have the same priority, the slots are filled in the same order. -/
theorem map_order_of_perm (hslots : another.slots = source.slots)
    (hpriorities : (source.slots.map fun slot => slot.2.priority).Nodup) :
    other.order.map (made.numberIn other) = made.order := by
  have hlength := length_slots_of_perm hmade hother hlayout
  have hlt : ∀ index ∈ other.order, index < other.slots.length := fun index hindex =>
    List.mem_range.1 (hother.order_perm.mem_iff.1 hindex)
  have hexists : ∀ index < other.slots.length, ∃ slot again, other.slots[index]? = some slot ∧
      made.slots[made.numberIn other index]? = some again ∧ again.priority = slot.priority := by
    intro index hindex
    have hslot := List.getElem?_eq_getElem hindex
    obtain ⟨again, hagain, -⟩ := exists_slot_of_perm hmade hother hlayout hslot
    have heq := unplaced_eq_of_perm hmade hother hlayout hslots hslot hagain
    have hpriority : again.unplaced.priority = other.slots[index].unplaced.priority :=
      congrArg Blueprint.Slot.priority heq
    exact ⟨_, again, hslot, hagain, hpriority⟩
  refine Blueprint.order_unique ?_ hmade.order_perm ?_ hmade.order_sorted
  · -- the numbers are different, and there are as many of them as slots
    have hnodup : (other.order.map (made.numberIn other)).Nodup := by
      refine List.Nodup.map_on (fun index hindex again hagain heq => ?_)
        (hother.order_perm.nodup_iff.2 List.nodup_range)
      exact numberIn_inj_of_perm hmade hother hlayout (hlt index hindex) (hlt again hagain) heq
    have hsubset : other.order.map (made.numberIn other) ⊆ List.range made.slots.length := by
      intro number hnumber
      obtain ⟨index, hindex, rfl⟩ := List.mem_map.1 hnumber
      obtain ⟨_, again, -, hagain, -⟩ := hexists index (hlt index hindex)
      exact List.mem_range.2 (List.getElem?_eq_some_iff.1 hagain).1
    refine (hnodup.subperm hsubset).perm_of_length_le ?_
    rw [List.length_map, hother.order_perm.length_eq, List.length_range, List.length_range, hlength]
  · refine List.pairwise_map.2 (hother.order_sorted.imp_of_mem ?_)
    intro first second hfirst hsecond hbefore one hone another hanother
    obtain ⟨slot, found, hslot, hfound, hpriority⟩ := hexists first (hlt first hfirst)
    obtain ⟨slot', found', hslot', hfound', hpriority'⟩ := hexists second (hlt second hsecond)
    obtain rfl := Option.some.inj (hfound.symm.trans hone)
    obtain rfl := Option.some.inj (hfound'.symm.trans hanother)
    rw [hpriority, hpriority']
    exact .inl (hother.priority_lt_of_fillsBefore (hslots ▸ hpriorities) hbefore hslot hslot')

/-- A template with the elements of its layout in another order becomes the same blueprint, but for
the order of its layout, if no two slots have the same priority. -/
theorem rearranges_of_perm (hslots : another.slots = source.slots)
    (hattachments : another.attachments = source.attachments)
    (hpriorities : (source.slots.map fun slot => slot.2.priority).Nodup) :
    other.Rearranges (made.numberIn other) made := by
  refine ⟨renumber_perm hmade hother hlayout, fun index hindex => ?_,
    fun index hindex again hagain => numberIn_inj_of_perm hmade hother hlayout hindex hagain,
    map_order_of_perm hmade hother hlayout hslots hpriorities, ?_⟩
  · have hslot := List.getElem?_eq_getElem hindex
    obtain ⟨again, hagain, -⟩ := exists_slot_of_perm hmade hother hlayout hslot
    rw [hslot, hagain]
    exact congrArg some (unplaced_eq_of_perm hmade hother hlayout hslots hslot hagain)
  · have hlanes := hother.lanes
    rw [hattachments] at hlanes
    exact rightUnique_lane.forall₂ hlanes hmade.lanes

end Rearranged

end Template

end ChatPrompt
