import ChatPrompt.Proofs.Inventory
import Mathlib.Data.List.Infix

/-!
# A place tells whether its text is examined

Two texts of a template may have the same place only if both are examined or neither is: names of
arguments may be repeated, but what is not examined always lies below another field or another
element than what is. Texts are taken together with the steps below which they lie, and lists of
texts that lie below different steps have no place in common.
-/

namespace ChatPrompt.Template

/-- All texts lie below a place and are examined. -/
def IsPlain (here : Location) (readings : List Reading) : Prop :=
  ∀ reading ∈ readings, here <+: reading.location ∧ reading.isExamined = true

/-- All texts lie below some steps from a place, and those at one place are all examined or all
not. -/
structure Tells (here : Location) (steps : Segment → Prop) (readings : List Reading) : Prop where
  /-- Each text lies below one of the steps. -/
  below : ∀ reading ∈ readings, ∃ step, steps step ∧ here ++ [step] <+: reading.location
  /-- Its place tells whether it is examined. -/
  same : ∀ reading ∈ readings, ∀ other ∈ readings, reading.location = other.location →
    reading.isExamined = other.isExamined

variable {here : Location} {readings others : List Reading}

theorem isPlain_nil : IsPlain here [] := fun _ hin => nomatch hin

/-- Two lists of texts. -/
theorem IsPlain.append (h : IsPlain here readings) (hothers : IsPlain here others) :
    IsPlain here (readings ++ others) :=
  fun reading hin => (List.mem_append.1 hin).elim (h reading) (hothers reading)

/-- What lies below a step lies below the place before it. -/
theorem IsPlain.up {step : Segment} (h : IsPlain (here ++ [step]) readings) :
    IsPlain here readings :=
  fun reading hin => ⟨(List.prefix_append here [step]).trans (h reading hin).1, (h reading hin).2⟩

theorem isPlain_leafReading (here : Location) (source : Option String) :
    IsPlain here (source.toList.map (leafReading here)) := by
  intro reading hin
  obtain ⟨source, -, rfl⟩ := List.mem_map.1 hin
  exact ⟨List.prefix_refl here, rfl⟩

theorem isPlain_pathReading (here : Location) (source : Option String) :
    IsPlain here (source.toList.map (pathReading here)) := by
  intro reading hin
  obtain ⟨source, -, rfl⟩ := List.mem_map.1 hin
  exact ⟨List.prefix_refl here, rfl⟩

mutual

theorem isPlain_argumentReadings (here : Location) (value : Json) :
    IsPlain here (argumentReadings here value) := by
  cases value with
  | null | bool _ | number _ =>
    rw [argumentReadings]
    · exact isPlain_nil
    all_goals simp
  | string source =>
    rw [argumentReadings]
    split
    · exact isPlain_leafReading here (some source)
    · exact isPlain_nil
  | array items =>
    rw [argumentReadings]
    exact isPlain_itemReadings here 0 items
  | object fields =>
    rw [argumentReadings]
    exact isPlain_memberReadings here fields

theorem isPlain_itemReadings (here : Location) (position : Nat) (items : List Json) :
    IsPlain here (itemReadings here position items) := by
  cases items with
  | nil =>
    rw [itemReadings]
    exact isPlain_nil
  | cons item rest =>
    rw [itemReadings]
    exact (isPlain_argumentReadings _ item).up.append (isPlain_itemReadings here _ rest)

theorem isPlain_memberReadings (here : Location) (fields : Json.Fields) :
    IsPlain here (memberReadings here fields) := by
  cases fields with
  | nil =>
    rw [memberReadings]
    exact isPlain_nil
  | cons field rest =>
    obtain ⟨key, value⟩ := field
    rw [memberReadings]
    exact (isPlain_argumentReadings _ value).up.append (isPlain_memberReadings here rest)

end

theorem Reference.isPlain_readings (here : Location) (reference : Reference) :
    IsPlain here (reference.readings here) :=
  (isPlain_argumentReadings _ reference.args).up.append (isPlain_pathReading _ reference.path).up

mutual

theorem Condition.isPlain_readings (here : Location) (test : Condition) :
    IsPlain here (test.readings here) := by
  cases test with
  | present target | nonEmpty target | compare target _ _ =>
    rw [Condition.readings]
    exact (target.isPlain_readings _).up
  | expression source =>
    rw [Condition.readings]
    intro reading hin
    rw [List.mem_singleton.1 hin]
    exact ⟨List.prefix_append here _, rfl⟩
  | all conditions | any conditions =>
    rw [Condition.readings]
    exact (isPlain_conditionReadings _ 0 conditions).up
  | negation inner =>
    rw [Condition.readings]
    exact (inner.isPlain_readings _).up

theorem isPlain_conditionReadings (here : Location) (position : Nat)
    (conditions : List Condition) : IsPlain here (conditionReadings here position conditions) := by
  cases conditions with
  | nil =>
    rw [conditionReadings]
    exact isPlain_nil
  | cons first rest =>
    rw [conditionReadings]
    exact (first.isPlain_readings _).up.append (isPlain_conditionReadings here _ rest)

end

theorem isPlain_frameReadings (here : Location) (frame : Option Frame) :
    IsPlain here (frameReadings here frame) := by
  intro reading hin
  obtain ⟨frame, -, rfl⟩ := List.mem_map.1 hin
  exact ⟨List.prefix_refl here, rfl⟩

theorem isPlain_groupReadings (here : Location) (position : Nat) (groups : List LaneGroup) :
    IsPlain here (groupReadings here position groups) := by
  induction groups generalizing position with
  | nil => exact isPlain_nil
  | cons group rest ih =>
    exact ((isPlain_leafReading _ group.opening).up.append
      (isPlain_leafReading _ group.closing).up).up.append (ih (position + 1))

theorem Lane.isPlain_readings (here : Location) (lane : Lane) :
    IsPlain here (lane.readings here) :=
  (isPlain_leafReading _ (some lane.template)).up.append
    (isPlain_groupReadings _ 0 lane.groups).up

theorem isPlain_laneReadings (position : Nat) (lanes : List Lane) :
    IsPlain [.key "attachments"] (laneReadings position lanes) := by
  induction lanes generalizing position with
  | nil => exact isPlain_nil
  | cons lane rest ih =>
    have hlane : IsPlain ([.key "attachments"] ++ [.index position]) (lane.readings _) :=
      lane.isPlain_readings _
    exact hlane.up.append (ih (position + 1))

variable {steps more : Segment → Prop} {step : Segment}

/-- No texts. -/
theorem tells_nil : Tells here steps [] where
  below _ hin := nomatch hin
  same _ hin := nomatch hin

/-- Texts that are all examined lie below a step. -/
theorem IsPlain.tells (h : IsPlain (here ++ [step]) readings) : Tells here (· = step) readings where
  below reading hin := ⟨step, rfl, (h reading hin).1⟩
  same reading hin other hother _ := (h reading hin).2.trans (h other hother).2.symm

/-- What lies below some steps from a step lies below that. -/
theorem Tells.up (h : Tells (here ++ [step]) steps readings) : Tells here (· = step) readings where
  below reading hin := by
    obtain ⟨next, -, hbelow⟩ := h.below reading hin
    exact ⟨step, rfl, (List.prefix_append _ _).trans hbelow⟩
  same := h.same

/-- What lies below some steps lies below more of them. -/
theorem Tells.mono (h : Tells here steps readings) (hmore : ∀ step, steps step → more step) :
    Tells here more readings where
  below reading hin := by
    obtain ⟨step, hstep, hbelow⟩ := h.below reading hin
    exact ⟨step, hmore step hstep, hbelow⟩
  same := h.same

/-- What lies below two steps from a place lies below one step. -/
theorem step_eq {location : Location} {step next : Segment} (hstep : here ++ [step] <+: location)
    (hnext : here ++ [next] <+: location) : step = next := by
  have hbegin := List.prefix_of_prefix_length_le hstep hnext (by simp)
  have hboth := List.append_cancel_left (hbegin.eq_of_length (by simp))
  exact List.head_eq_of_cons_eq hboth

/-- Texts that lie below different steps have no place in common. -/
theorem Tells.append (h : Tells here steps readings) (hothers : Tells here more others)
    (hapart : ∀ step, steps step → ¬ more step) :
    Tells here (fun step => steps step ∨ more step) (readings ++ others) := by
  have hne : ∀ reading ∈ readings, ∀ other ∈ others, reading.location ≠ other.location := by
    intro reading hin other hother hsame
    obtain ⟨step, hstep, hbelow⟩ := h.below reading hin
    obtain ⟨next, hnext, hbelow'⟩ := hothers.below other hother
    rw [hsame] at hbelow
    exact hapart step hstep (step_eq hbelow hbelow' ▸ hnext)
  refine ⟨fun reading hin => ?_, fun reading hin other hother hsame => ?_⟩
  · rcases List.mem_append.1 hin with hfirst | hsecond
    · obtain ⟨step, hstep, hbelow⟩ := h.below reading hfirst
      exact ⟨step, .inl hstep, hbelow⟩
    · obtain ⟨step, hstep, hbelow⟩ := hothers.below reading hsecond
      exact ⟨step, .inr hstep, hbelow⟩
  · rcases List.mem_append.1 hin with hfirst | hsecond
    · rcases List.mem_append.1 hother with hfirst' | hsecond'
      · exact h.same reading hfirst other hfirst' hsame
      · exact absurd hsame (hne reading hfirst other hsecond')
    · rcases List.mem_append.1 hother with hfirst' | hsecond'
      · exact absurd hsame.symm (hne other hfirst' reading hsecond)
      · exact hothers.same reading hsecond other hsecond' hsame

/-- A condition for all texts concerns those at one place alike. -/
theorem Tells.onlyIf (h : Tells here steps readings) (condition : Bool) :
    Tells here steps (Reading.onlyIf condition readings) := by
  refine ⟨fun reading hin => ?_, fun reading hin other hother hsame => ?_⟩
  · obtain ⟨source, hsource, rfl⟩ := List.mem_map.1 hin
    exact h.below source hsource
  · obtain ⟨source, hsource, rfl⟩ := List.mem_map.1 hin
    obtain ⟨source', hsource', rfl⟩ := List.mem_map.1 hother
    exact congrArg (· && condition) (h.same source hsource source' hsource' hsame)

/-- The texts of a message. -/
theorem tells_messageReadings (here : Location) (content : Option String)
    (source : Option Reference) (anchor : Option String) :
    Tells here (fun _ => True) (messageReadings here content source anchor) := by
  have hsource : IsPlain (here.field "from")
      (source.toList.flatMap (Reference.readings (here.field "from"))) := by
    cases source with
    | none => exact isPlain_nil
    | some source => simpa using source.isPlain_readings (here.field "from")
  have hcontent := ((isPlain_leafReading (here.field "content") content).tells.append hsource.tells
    (by rintro _ rfl; simp)).onlyIf (content.isNone || source.isNone)
  have hall := hcontent.append (isPlain_leafReading (here.field "anchor") anchor).tells
    (by rintro _ (rfl | rfl) <;> simp)
  exact hall.mono fun _ _ => trivial

/-- The texts of an element, and those of the elements behind it. -/
theorem Tells.next {position : Nat}
    (h : Tells (here ++ [.index position]) steps readings)
    (hothers : Tells here (fun step => ∃ place, position + 1 ≤ place ∧ step = .index place)
      others) :
    Tells here (fun step => ∃ place, position ≤ place ∧ step = .index place)
      (readings ++ others) := by
  refine (h.up.append hothers ?_).mono ?_
  · rintro _ rfl ⟨place, hle, heq⟩
    cases heq
    omega
  · rintro _ (rfl | ⟨place, hle, rfl⟩)
    · exact ⟨position, Nat.le_refl _, rfl⟩
    · exact ⟨place, by omega, rfl⟩

mutual

/-- The texts of a step of a plan. -/
theorem PlanNode.tells_readings (here : Location) (node : PlanNode) :
    Tells here (fun _ => True) (node.readings here) := by
  cases node with
  | message details =>
    rw [PlanNode.readings]
    exact tells_messageReadings here details.content details.source details.anchor
  | forEach header body =>
    rw [PlanNode.readings]
    have hsource := (header.source.isPlain_readings (here.field "source")).tells
    have hsortBy := (isPlain_pathReading (here.field "sortBy") header.sortBy).tells
    have hbody := (tells_planReadings (here.field "map") 0 body).up
    have hseparator := (isPlain_frameReadings (here.field "interleave") header.separator).tells
    have hrest := (hbody.append hseparator (by rintro _ rfl; simp)).onlyIf header.isSortable
    have hlater := hsortBy.append hrest (by rintro _ rfl; simp)
    exact (hsource.append hlater (by rintro _ rfl; simp)).mono fun _ _ => trivial
  | branch test whenTrue whenFalse =>
    rw [PlanNode.readings]
    have htest := (test.isPlain_readings (here.field "condition")).tells
    have htrue := (tells_planReadings (here.field "then") 0 whenTrue).up
    have hfalse := (tells_planReadings (here.field "else") 0 whenFalse).up
    have hsides := htrue.append hfalse (by rintro _ rfl; simp)
    exact (htest.append hsides (by rintro _ rfl; simp)).mono fun _ _ => trivial

/-- The texts of the steps of a plan lie below their positions. -/
theorem tells_planReadings (here : Location) (position : Nat) (nodes : List PlanNode) :
    Tells here (fun step => ∃ place, position ≤ place ∧ step = .index place)
      (planReadings here position nodes) := by
  cases nodes with
  | nil =>
    rw [planReadings]
    exact tells_nil
  | cons node rest =>
    rw [planReadings]
    exact (node.tells_readings (here.element position)).next (tells_planReadings here _ rest)

end

/-- The texts of a slot. -/
theorem Slot.tells_readings (here : Location) (slot : Slot) :
    Tells here (fun _ => True) (slot.readings here) := by
  have hcondition : IsPlain (here.field "when")
      (slot.condition.toList.flatMap (Condition.readings (here.field "when"))) := by
    cases slot.condition with
    | none => exact isPlain_nil
    | some test => simpa using test.isPlain_readings (here.field "when")
  have hplan := (tells_planReadings (here.field "plan") 0 slot.plan).up
  exact (hcondition.tells.append hplan (by rintro _ rfl; simp)).mono fun _ _ => trivial

/-- The texts of the slot that is kept under a name lie below the name. -/
theorem tells_slotReadings (slots : List (String × Slot)) (name : String) :
    Tells [.key "slots"] (· = .key name) (slotReadings slots name) := by
  rw [slotReadings]
  cases slots.lookup name with
  | none => exact tells_nil
  | some slot =>
    rw [Option.toList_some, List.flatMap_singleton]
    have hslot : Tells ([.key "slots"] ++ [.key name]) _ (slot.readings _) :=
      slot.tells_readings _
    exact hslot.up

/-- The texts of some slots. A name that comes twice has the same texts twice. -/
theorem tells_flatMap_slotReadings (slots : List (String × Slot)) (names : List String) :
    Tells [.key "slots"] (fun _ => True) (names.flatMap (slotReadings slots)) := by
  refine ⟨fun reading hin => ?_, fun reading hin other hother hsame => ?_⟩
  · obtain ⟨name, -, hin⟩ := List.mem_flatMap.1 hin
    exact ((tells_slotReadings slots name).mono fun _ _ => trivial).below reading hin
  · obtain ⟨name, -, hin⟩ := List.mem_flatMap.1 hin
    obtain ⟨name', -, hother⟩ := List.mem_flatMap.1 hother
    obtain ⟨_, rfl, hbelow⟩ := (tells_slotReadings slots name).below reading hin
    obtain ⟨_, rfl, hbelow'⟩ := (tells_slotReadings slots name').below other hother
    rw [← hsame] at hbelow'
    obtain rfl : name = name' := Segment.key.inj (step_eq hbelow hbelow')
    exact (tells_slotReadings slots name).same reading hin other hother hsame

/-- The texts of a layout lie below the positions of its elements. -/
theorem tells_layoutReadings (slots : List (String × Slot)) (position : Nat)
    (layout : List LayoutNode) :
    Tells [.key "layout"] (fun step => ∃ place, position ≤ place ∧ step = .index place)
      (layoutReadings slots position layout) := by
  induction layout generalizing position with
  | nil => exact tells_nil
  | cons node rest ih =>
    cases node with
    | message details =>
      rw [layoutReadings]
      have hfirst : Tells ([.key "layout"] ++ [.index position]) _ (messageReadings _ _ _ _) :=
        tells_messageReadings _ details.content details.source details.anchor
      exact hfirst.next (ih (position + 1))
    | slot place =>
      rw [layoutReadings]
      have hheader : IsPlain ([.key "layout", .index position] ++ [.key "header"]) _ :=
        isPlain_frameReadings _ place.header
      have hfooter : IsPlain ([.key "layout", .index position] ++ [.key "footer"]) _ :=
        isPlain_frameReadings _ place.footer
      have hframes := (hheader.tells.append hfooter.tells (by rintro _ rfl; simp)).onlyIf
        (slots.lookup place.name).isSome
      have hfirst : Tells ([.key "layout"] ++ [.index position]) _ _ := hframes
      exact hfirst.next (ih (position + 1))

end ChatPrompt.Template

namespace ChatPrompt

/-- Texts of a template that have one place are all examined or all not. -/
theorem Template.isExamined_eq {template : Template} {reading other : Template.Reading}
    (hin : reading ∈ template.readings) (hother : other ∈ template.readings)
    (hsame : reading.location = other.location) : reading.isExamined = other.isExamined := by
  have hlayout : Tells ([] ++ [.key "layout"]) _ _ :=
    tells_layoutReadings template.slots 0 template.layout
  have hslots : Tells ([] ++ [.key "slots"]) _ _ :=
    tells_flatMap_slotReadings template.slots template.placeNames
  have hlanes : IsPlain ([] ++ [.key "attachments"]) _ :=
    isPlain_laneReadings 0 template.attachments
  have hlater := hslots.up.append hlanes.tells (by rintro _ rfl; simp)
  have hall := hlayout.up.append hlater (by rintro _ rfl; simp)
  exact hall.same reading hin other hother hsame

/-- The fault of a text is among the issues of the texts of a template exactly if the text is
examined: it cannot stand for another text at the same place, which is examined only if it is. -/
theorem Template.Reading.mem_issues_iff {template : Template} {reading : Template.Reading}
    (hin : reading ∈ template.readings) {fault : Leaf.Fault}
    (hfault : reading.fault? = some fault) :
    .leaf reading.location fault ∈ issues template.readings ↔ reading.isExamined = true := by
  constructor
  · intro hissue
    obtain ⟨other, hother, hmade⟩ := List.mem_filterMap.1 hissue
    obtain ⟨hexamined, fault', -, hsame⟩ := issue?_eq_some hmade
    obtain ⟨hlocation, -⟩ := Blueprint.Issue.leaf.inj hsame
    rw [isExamined_eq hin hother hlocation.symm, hexamined]
  · intro hexamined
    exact List.mem_filterMap.2 ⟨reading, hin, by simp [issue?, hexamined, hfault]⟩

end ChatPrompt
