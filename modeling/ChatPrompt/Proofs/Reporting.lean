import ChatPrompt.Proofs.Separation
import ChatPrompt.Proofs.Translation

/-!
# All faults are reported together

A compilation goes on behind an issue, so the faults of a template are found together: each part of
a compilation notes the faults of exactly those texts that it examines, in their order, among the
issues of other kinds. What is examined is known beforehand; only for the places of the layout it
depends on what was found before, which is why each slot has to have one place, and lanes and
groups names of their own.
-/

namespace ChatPrompt

namespace Blueprint

/-- Whether an issue is that a text cannot be read. -/
def Issue.isLeaf : Issue → Bool
  | .leaf _ _ => true
  | _ => false

/-- The place that an issue names, if it names one. -/
def Issue.location? : Issue → Option Location
  | .leaf location _ => some location
  | .repeatedAnchor _ location => some location
  | .fixedAnchorInLoop _ location => some location
  | .openEndedRole location _ => some location
  | .twoContents location => some location
  | .noContent location => some location
  | .unknownSource _ location => some location
  | .invalid location _ => some location
  | _ => none

/-- The issues that are reported of what was to be made. -/
def Issue.reported {α : Type} : Except Issue α → List Issue
  | .ok _ => []
  | .error issue => issue.parts

namespace Compilation

open Template

variable {α β : Type} {allowed : Option (List String)}

/-- A part of a compilation notes the issues of some texts, and no others of their kind, behind
those found before; what it makes satisfies a condition. -/
def Reports (compilation : Compilation α) (readings : List Reading) (Q : α → Prop) : Prop :=
  ∀ progress : Progress, progress.leaves.IsFaithful →
    (compilation progress).2.leaves.IsFaithful ∧ Q (compilation progress).1 ∧
      ∃ noted, (compilation progress).2.issues = progress.issues ++ noted ∧
        (∀ issue ∈ noted, issue.parts = [issue]) ∧
        noted.filter Issue.isLeaf = Reading.issues readings

/-- A part of a compilation notes the issues of some texts, and no others of their kind. -/
abbrev Collects (compilation : Compilation α) (readings : List Reading) : Prop :=
  Reports compilation readings fun _ => True

/-- What is reported is known of any texts with the same issues. -/
theorem Reports.restate {compilation : Compilation α} {readings others : List Reading}
    {P Q : α → Prop} (h : Reports compilation readings P)
    (hissues : Reading.issues readings = Reading.issues others)
    (hmade : ∀ value, P value → Q value) : Reports compilation others Q := by
  intro progress hleaves
  obtain ⟨hfaithful, hvalue, noted, happend, hparts, hnoted⟩ := h progress hleaves
  exact ⟨hfaithful, hmade _ hvalue, noted, happend, hparts, hnoted.trans hissues⟩

/-- A value that is made at once. -/
theorem reports_pure {Q : α → Prop} {value : α} (h : Q value) :
    Reports (pure value : Compilation α) [] Q :=
  fun _ hleaves => ⟨hleaves, h, [], (List.append_nil _).symm, by simp, rfl⟩

/-- Two parts one after the other report the issues of both. -/
theorem Reports.bind {first : Compilation α} {next : α → Compilation β}
    {readings others : List Reading} {P : α → Prop} {Q : β → Prop}
    (hfirst : Reports first readings P) (hnext : ∀ value, P value → Reports (next value) others Q) :
    Reports (first >>= next) (readings ++ others) Q := by
  intro progress hleaves
  obtain ⟨hfaithful, hvalue, noted, happend, hparts, hnoted⟩ := hfirst progress hleaves
  obtain ⟨hlater, hmade, more, hmore, hparts', hnoted'⟩ := hnext _ hvalue _ hfaithful
  refine ⟨hlater, hmade, noted ++ more, ?_, ?_, ?_⟩
  · rw [← List.append_assoc, ← happend]
    exact hmore
  · exact fun issue hissue => (List.mem_append.1 hissue).elim (hparts issue) (hparts' issue)
  · rw [List.filter_append, hnoted, hnoted', Reading.issues_append]

theorem Reports.map {first : Compilation α} {readings : List Reading} {P : α → Prop} {Q : β → Prop}
    {f : α → β} (hfirst : Reports first readings P) (hmade : ∀ value, P value → Q (f value)) :
    Reports (first >>= fun value => pure (f value)) readings Q := by
  have hboth := hfirst.bind fun value hvalue => reports_pure (hmade value hvalue)
  rw [List.append_nil] at hboth
  exact hboth

theorem Collects.map {first : Compilation α} {readings : List Reading}
    (hfirst : Collects first readings) (f : α → β) :
    Collects (first >>= fun value => pure (f value)) readings :=
  Reports.map hfirst fun _ _ => trivial

/-- Texts that are not examined have no issues. -/
theorem Collects.unexamined {compilation : Compilation α} (h : Collects compilation [])
    (readings : List Reading) : Collects compilation (Reading.onlyIf false readings) :=
  Reports.restate h (Reading.issues_onlyIf_false readings).symm fun _ _ => trivial

/-- Issues of other kinds are noted besides. -/
theorem reports_note {next : Unit → Compilation α} {readings : List Reading} {Q : α → Prop}
    {issue : Issue} (hkind : issue.isLeaf = false) (hparts : issue.parts = [issue])
    (hnext : Reports (next ()) readings Q) : Reports (note issue >>= next) readings Q := by
  have hfirst : Collects (note issue) [] := by
    intro progress hleaves
    refine ⟨hleaves, trivial, [issue], rfl, ?_, ?_⟩
    · intro other hother
      rw [List.mem_singleton.1 hother]
      exact hparts
    · rw [List.filter_singleton, hkind]
      rfl
  exact hfirst.bind fun _ _ => hnext

/-- The issue of a text that cannot be read. -/
theorem issues_of_fault {reading : Reading} {fault : Leaf.Fault}
    (hexamined : reading.isExamined = true) (hfault : reading.fault? = some fault) :
    Reading.issues [reading] = [.leaf reading.location fault] := by
  simp [Reading.issues, Reading.issue?, hexamined, hfault]

/-- A text that can be read has no issue. -/
theorem issues_of_fault_eq_none {reading : Reading} (hfault : reading.fault? = none) :
    Reading.issues [reading] = [] := by
  simp [Reading.issues, Reading.issue?, hfault]

/-- The issue of a text that cannot be read is noted. -/
theorem reports_fault {reading : Reading} {fault : Leaf.Fault} {value : α} {Q : α → Prop}
    (hexamined : reading.isExamined = true) (hfault : reading.fault? = some fault) (h : Q value) :
    Reports (do note (.leaf reading.location fault); pure value) [reading] Q := by
  intro progress hleaves
  refine ⟨hleaves, h, [.leaf reading.location fault], rfl, ?_, ?_⟩
  · intro other hother
    rw [List.mem_singleton.1 hother]
    rfl
  · rw [issues_of_fault hexamined hfault]
    rfl

/-- A text that can be read is passed over. -/
theorem reports_pure_of_fault_eq_none {reading : Reading} {value : α} {Q : α → Prop}
    (hfault : reading.fault? = none) (h : Q value) :
    Reports (pure value : Compilation α) [reading] Q :=
  (reports_pure h).restate (issues_of_fault_eq_none hfault).symm fun _ hvalue => hvalue

/-- The fault of a leaf is reported. -/
theorem collects_leaf (here : Location) (source : String) :
    Collects (leaf here source) [leafReading here source] := by
  intro progress hleaves
  have hfaithful := Leaf.Cache.isFaithful_fetch hleaves source
  -- whatever the cache holds, the text is read as it is without one
  rcases leaf_apply here source hleaves with ⟨found, hread, happly⟩ | ⟨fault, hread, happly⟩
  · have hfault : (leafReading here source).fault? = none := by
      simp [Reading.fault?, leafReading, hread]
    rw [happly, issues_of_fault_eq_none hfault]
    exact ⟨hfaithful, trivial, [], (List.append_nil _).symm, by simp, rfl⟩
  · have hfault : (leafReading here source).fault? = some fault := by
      simp [Reading.fault?, leafReading, hread]
    rw [happly, issues_of_fault rfl hfault]
    exact ⟨hfaithful, trivial, [.leaf here fault], rfl, by simp [Issue.parts], rfl⟩

theorem collects_leaf? (here : Location) (source : Option String) :
    Collects (leaf? here source) (source.toList.map (leafReading here)) := by
  cases source with
  | none => exact reports_pure trivial
  | some source => exact collects_leaf here source

/-- The fault of a path is reported, and there is a path where there is none. -/
theorem reports_path (here : Location) (source : String) :
    Reports (path here source) [pathReading here source]
      fun made => made.isSome = (Path.ofText source).isOk := by
  rw [path]
  cases hread : Path.ofText source with
  | ok found =>
    have hfault : (pathReading here source).fault? = none := by
      simp [Reading.fault?, pathReading, hread]
    exact reports_pure_of_fault_eq_none hfault rfl
  | error e =>
    have hfault : (pathReading here source).fault? = some (Leaf.Fault.ofSyntaxError source e) := by
      simp [Reading.fault?, pathReading, hread]
    exact reports_fault rfl hfault rfl

theorem collects_path (here : Location) (source : String) :
    Collects (path here source) [pathReading here source] :=
  (reports_path here source).restate rfl fun _ _ => trivial

theorem collects_expression (here : Location) (source : String) :
    Collects (expression here source) [⟨here, .expression, source, true⟩] := by
  rw [expression]
  cases hread : Expr.ofText source with
  | ok found =>
    refine reports_pure_of_fault_eq_none ?_ trivial
    simp [Reading.fault?, hread]
  | error e =>
    have hfault : Reading.fault? ⟨here, .expression, source, true⟩ =
        some (Leaf.Fault.ofSyntaxError source e) := by
      simp [Reading.fault?, hread]
    exact reports_fault rfl hfault trivial

mutual

theorem collects_arguments (here : Location) (value : Json) :
    Collects (arguments here value) (argumentReadings here value) := by
  cases value with
  | null | bool _ | number _ =>
    rw [arguments, argumentReadings]
    · exact reports_pure trivial
    all_goals simp
  | string source =>
    rw [arguments, argumentReadings]
    split
    · exact (collects_leaf here source).map _
    · exact reports_pure trivial
  | array items =>
    rw [arguments, argumentReadings]
    exact (collects_argumentItems here 0 items).map _
  | object fields =>
    rw [arguments, argumentReadings]
    exact (collects_argumentFields here fields).map _

theorem collects_argumentItems (here : Location) (position : Nat) (items : List Json) :
    Collects (argumentItems here position items) (itemReadings here position items) := by
  cases items with
  | nil =>
    rw [argumentItems, itemReadings]
    exact reports_pure trivial
  | cons item rest =>
    rw [argumentItems, itemReadings]
    exact (collects_arguments _ item).bind
      fun _ _ => (collects_argumentItems here _ rest).map _

theorem collects_argumentFields (here : Location) (fields : Json.Fields) :
    Collects (argumentFields here fields) (memberReadings here fields) := by
  cases fields with
  | nil =>
    rw [argumentFields, memberReadings]
    exact reports_pure trivial
  | cons field rest =>
    obtain ⟨key, value⟩ := field
    rw [argumentFields, memberReadings]
    exact (collects_arguments _ value).bind fun _ _ => (collects_argumentFields here rest).map _

end

/-- No fault of a text is noted of a source. -/
theorem collects_checkSource (here : Location) (name : String) :
    Collects (checkSource allowed here name) [] := by
  cases allowed with
  | none => exact reports_pure trivial
  | some names =>
    rw [checkSource]
    split
    · exact reports_pure trivial
    · exact reports_note rfl rfl (reports_pure trivial)

/-- The fault of the path of a reference is reported. -/
theorem collects_target (here : Location) (source way : Option String) :
    Collects (target allowed here source way)
      (way.toList.map (pathReading (here.field "path"))) := by
  cases source with
  | none =>
    cases way with
    | none => exact reports_note rfl rfl (reports_pure trivial)
    | some way => exact (collects_path _ way).map _
  | some name =>
    cases way with
    | none => exact (collects_checkSource here name).map _
    | some way => exact (collects_checkSource here name).bind fun _ _ => (collects_path _ way).map _

theorem collects_reference (here : Location) (source : Template.Reference) :
    Collects (reference allowed here source) (source.readings here) := by
  rw [reference, Template.Reference.readings]
  exact (collects_arguments _ source.args).bind
    fun _ _ => (collects_target here source.source source.path).map _

mutual

theorem collects_condition (here : Location) (test : Template.Condition) :
    Collects (condition allowed here test) (test.readings here) := by
  cases test with
  | present target =>
    rw [condition, Template.Condition.readings]
    exact (collects_reference _ target).map _
  | nonEmpty target =>
    rw [condition, Template.Condition.readings]
    exact (collects_reference _ target).map _
  | compare target op value =>
    rw [condition, Template.Condition.readings]
    exact (collects_reference _ target).map _
  | expression source =>
    rw [condition, Template.Condition.readings]
    exact (collects_expression _ source).map _
  | all conditions =>
    rw [condition, Template.Condition.readings]
    exact (collects_conditionList _ 0 conditions).map _
  | any conditions =>
    rw [condition, Template.Condition.readings]
    exact (collects_conditionList _ 0 conditions).map _
  | negation inner =>
    rw [condition, Template.Condition.readings]
    exact (collects_condition _ inner).map _

/-- The faults of conditions are reported, also behind one that has one. -/
theorem collects_conditionList (here : Location) (position : Nat)
    (conditions : List Template.Condition) :
    Collects (conditionList allowed here position conditions)
      (conditionReadings here position conditions) := by
  cases conditions with
  | nil =>
    rw [conditionList, conditionReadings]
    exact reports_pure trivial
  | cons first rest =>
    rw [conditionList, conditionReadings]
    exact (collects_condition _ first).bind
      fun _ _ => (collects_conditionList here _ rest).map _

end

theorem collects_condition? (here : Location) (test : Option Template.Condition) :
    Collects (condition? allowed here test)
      (test.toList.flatMap (Template.Condition.readings here)) := by
  cases test with
  | none => exact reports_pure trivial
  | some test =>
    rw [condition?, Option.toList_some, List.flatMap_singleton]
    exact collects_condition here test

theorem collects_frame? (here : Location) (frame : Option Template.Frame) :
    Collects (frame? here frame) (frameReadings here frame) := by
  cases frame with
  | none => exact reports_pure trivial
  | some frame => exact (collects_leaf here frame.content).map _

/-- The faults of what a message says are reported, unless it is two things. -/
theorem collects_content (here : Location) (own : Option String)
    (source : Option Template.Reference) :
    Collects (content allowed here own source) (contentReadings here own source) := by
  cases own with
  | none =>
    have hall : contentReadings here none source =
        source.toList.flatMap (Template.Reference.readings (here.field "from")) := by
      simp [contentReadings, Reading.onlyIf_true]
    rw [hall]
    cases source with
    | none => exact reports_note rfl rfl (reports_pure trivial)
    | some source =>
      rw [Option.toList_some, List.flatMap_singleton]
      exact (collects_reference _ source).map _
  | some own =>
    cases source with
    | none =>
      have hall : contentReadings here (some own) none =
          [leafReading (here.field "content") own] := by
        simp [contentReadings, Reading.onlyIf_true]
      rw [hall]
      exact (collects_leaf _ own).map _
    | some source =>
      have hrefused : Collects (content allowed here (some own) (some source)) [] :=
        reports_note rfl rfl (reports_pure trivial)
      exact hrefused.unexamined _

/-- No fault of a text is noted of a key that was read. -/
theorem collects_keepAnchor (here : Location) (inLoop : Bool) (key : String) (leaf : Leaf) :
    Collects (keepAnchor here inLoop key leaf) [] := by
  have hmeet : Collects (meetKey here key leaf) [] := by
    intro progress hleaves
    rw [meetKey_apply]
    split
    · exact ⟨hleaves, trivial, [.repeatedAnchor key here], rfl, by simp [Issue.parts], rfl⟩
    · exact ⟨hleaves, trivial, [], (List.append_nil _).symm, by simp, rfl⟩
  rw [keepAnchor]
  split
  · exact reports_pure trivial
  · split
    · exact reports_note rfl rfl (reports_pure trivial)
    · exact hmeet

/-- The fault of an optional key is reported. -/
theorem collects_anchor? (here : Location) (inLoop : Bool) (key : Option String) :
    Collects (anchor? here inLoop key) (key.toList.map (leafReading here)) := by
  cases key with
  | none => exact reports_pure trivial
  | some key =>
    have hanchor : Collects (anchor here inLoop key) [leafReading here key] := by
      rw [anchor_eq]
      refine (collects_leaf here key).bind fun found _ => ?_
      cases found with
      | none => exact reports_pure trivial
      | some leaf => exact collects_keepAnchor here inLoop key leaf
    exact hanchor.map _

/-- The faults of a message of the layout are reported, also where it may not be open. -/
theorem collects_layoutMessage (here : Location) (details : LayoutMessage) :
    Collects (layoutMessage allowed here details)
      (messageReadings here details.content details.source details.anchor) := by
  have hrest : Collects (do
      let content ← content allowed here details.content details.source
      let anchor ← anchor? (here.field "anchor") false details.anchor
      return content.bind fun content => anchor.map fun anchor =>
        ⟨details.role, content, details.openEnded, anchor, none⟩ : Compilation (Option Message))
      (messageReadings here details.content details.source details.anchor) :=
    (collects_content here _ _).bind fun _ _ => (collects_anchor? _ _ _).map _
  rw [layoutMessage]
  split
  · exact reports_note rfl rfl hrest
  · exact hrest

theorem collects_planMessage (here : Location) (inLoop : Bool) (details : PlanMessage) :
    Collects (planMessage allowed here inLoop details)
      (messageReadings here details.content details.source details.anchor) := by
  rw [planMessage, messageReadings]
  exact (collects_content here _ _).bind fun _ _ => (collects_anchor? _ _ _).map _

/-- The fault of an optional path to sort by is reported, and the loop goes on where there is
none. -/
theorem reports_sortBy? (here : Location) (header : Template.Loop) :
    Reports (sortBy? here header.sortBy) (header.sortBy.toList.map (pathReading here))
      fun made => made.isSome = header.isSortable := by
  rw [Template.Loop.isSortable]
  cases header.sortBy with
  | none => exact reports_pure rfl
  | some source => exact (reports_path here source).map fun made hmade => by simpa using hmade

mutual

theorem collects_planNode (here : Location) (inLoop : Bool) (node : Template.PlanNode) :
    Collects (planNode allowed here inLoop node) (node.readings here) := by
  cases node with
  | message details =>
    rw [planNode, PlanNode.readings]
    exact (collects_planMessage here inLoop details).map _
  | forEach header body =>
    rw [planNode, PlanNode.readings]
    refine (collects_reference _ header.source).bind fun source _ => ?_
    refine (reports_sortBy? _ header).bind fun sortBy hsortBy => ?_
    rw [← hsortBy]
    -- without a path to sort by that can be read the loop is given up, and the rest is not examined
    cases sortBy with
    | none =>
      have hgivenUp : Collects (pure none : Compilation (Option PlanNode)) [] :=
        reports_pure trivial
      exact hgivenUp.unexamined _
    | some sortBy =>
      rw [Option.isSome_some, Reading.onlyIf_true]
      exact (collects_planFrom _ true 0 body).bind fun _ _ => (collects_frame? _ _).map _
  | branch test whenTrue whenFalse =>
    rw [planNode, PlanNode.readings]
    exact (collects_condition _ test).bind fun _ _ =>
      (collects_planFrom _ inLoop 0 whenTrue).bind fun _ _ =>
        (collects_planFrom _ inLoop 0 whenFalse).map _

/-- The faults of the steps of a plan are reported, also behind one that has one. -/
theorem collects_planFrom (here : Location) (inLoop : Bool) (position : Nat)
    (nodes : List Template.PlanNode) :
    Collects (planFrom allowed here inLoop position nodes) (planReadings here position nodes) := by
  cases nodes with
  | nil =>
    rw [planFrom, planReadings]
    exact reports_pure trivial
  | cons node rest =>
    rw [planFrom, planReadings]
    exact (collects_planNode _ inLoop node).bind fun _ _ =>
      (collects_planFrom here inLoop _ rest).map _

end

/-- The faults of the groups of a lane are reported, if their names are new. -/
theorem collects_laneGroups (here : Location) (position : Nat) {met : List String}
    {groups : List Template.LaneGroup} (hnew : AreNew met (groups.map Template.LaneGroup.id)) :
    Collects (laneGroups here position met groups) (groupReadings here position groups) := by
  induction groups generalizing position met with
  | nil => exact reports_pure trivial
  | cons group rest ih =>
    rw [laneGroups, groupReadings]
    split
    · next hmet => exact absurd hnew (not_areNew_cons (List.contains_iff_mem.1 hmet))
    · next hfresh =>
      rw [List.map_cons, areNew_cons_iff fun hin => hfresh (List.contains_iff_mem.2 hin)] at hnew
      rw [List.append_assoc]
      exact (collects_leaf? _ group.opening).bind fun _ _ =>
        (collects_leaf? _ group.closing).bind fun _ _ => (ih _ hnew).map _

/-- The faults of a lane are reported, if no two of its groups have one name. -/
theorem collects_lane (here : Location) {source : Template.Lane}
    (hgroups : (source.groups.map Template.LaneGroup.id).Nodup) :
    Collects (lane here source) (source.readings here) := by
  rw [lane, Lane.readings]
  exact (collects_leaf _ source.template).bind fun _ _ =>
    (collects_laneGroups _ 0 (areNew_nil_iff.2 hgroups)).map _

/-- The faults of the lanes are reported, if their names are new. -/
theorem collects_lanes (position : Nat) {met : List String} {sources : List Template.Lane}
    (hnew : AreNew met (sources.map Template.Lane.id))
    (hgroups : ∀ lane ∈ sources, (lane.groups.map Template.LaneGroup.id).Nodup) :
    Collects (lanes position met sources) (laneReadings position sources) := by
  induction sources generalizing position met with
  | nil => exact reports_pure trivial
  | cons source rest ih =>
    obtain ⟨hfirst, hothers⟩ := List.forall_mem_cons.1 hgroups
    rw [lanes, laneReadings]
    split
    · next hmet => exact absurd hnew (not_areNew_cons (List.contains_iff_mem.1 hmet))
    · next hfresh =>
      rw [List.map_cons, areNew_cons_iff fun hin => hfresh (List.contains_iff_mem.2 hin)] at hnew
      exact (collects_lane _ hfirst).bind fun _ _ => (ih _ hnew hothers).map _

/-- The places of a layout for slots that exist. -/
def knownPlaces (specs : List (String × Template.Slot)) (position : Nat)
    (layout : List Template.LayoutNode) : List (String × Nat) :=
  (placesFrom position layout).filter fun entry => (specs.lookup entry.1).isSome

/-- The places that count are those for slots that exist, if each of these has one place. No fault
of a text is noted of them. -/
theorem reports_placedSlots (specs : List (String × Template.Slot)) (position : Nat)
    (met : List String) (layout : List Template.LayoutNode) :
    Reports (placedSlots specs position met layout) [] fun placed =>
      AreNew met ((knownPlaces specs position layout).map Prod.fst) →
        placed = knownPlaces specs position layout := by
  induction layout generalizing position met with
  | nil => exact reports_pure fun _ => rfl
  | cons node rest ih =>
    cases node with
    | message details => exact ih (position + 1) met
    | slot place =>
      rw [placedSlots, knownPlaces, placesFrom]
      split
      · next hunknown =>
        have hskip : (specs.lookup place.name).isSome = false := by
          rwa [Option.isSome_eq_false_iff]
        rw [List.filter_cons, hskip]
        exact reports_note rfl rfl (ih (position + 1) met)
      · next hknown =>
        have hkeep : (specs.lookup place.name).isSome = true := by
          simpa [Option.isSome_iff_ne_none] using hknown
        rw [List.filter_cons, hkeep, if_pos rfl]
        split
        · next hmet =>
          refine reports_note rfl rfl ((ih (position + 1) met).restate rfl fun _ _ hnew => ?_)
          exact absurd hnew (not_areNew_cons (List.contains_iff_mem.1 hmet))
        · next hfresh =>
          refine (ih (position + 1) (place.name :: met)).map fun placed hplaced hnew => ?_
          rw [List.map_cons,
            areNew_cons_iff fun hin => hfresh (List.contains_iff_mem.2 hin)] at hnew
          rw [hplaced hnew]
          rfl

/-- No fault of a text is noted of slots without a place. -/
theorem collects_checkPlaced (placed : List (String × Nat))
    (specs : List (String × Template.Slot)) : Collects (checkPlaced placed specs) [] := by
  induction specs with
  | nil => exact reports_pure trivial
  | cons spec rest ih =>
    obtain ⟨name, spec⟩ := spec
    rw [checkPlaced]
    split
    · exact reports_note rfl rfl ih
    · exact ih

/-- The faults of the frames around a place are reported. -/
theorem collects_placeholder (here : Location) (number : Nat) (place : Template.Placeholder) :
    Collects (placeholder here number place)
      (frameReadings (here.field "header") place.header ++
        frameReadings (here.field "footer") place.footer) := by
  rw [placeholder]
  exact (collects_frame? _ place.header).bind fun _ _ => (collects_frame? _ place.footer).map _

/-- The faults of the elements of a layout are reported, except for those around places of slots
that do not exist. -/
theorem collects_layoutFrom {specs : List (String × Template.Slot)} {start position : Nat}
    {whole layout : List Template.LayoutNode}
    (hpart : ∀ entry ∈ placesFrom position layout, entry ∈ placesFrom start whole) :
    Collects (layoutFrom allowed (knownPlaces specs start whole) position layout)
      (layoutReadings specs position layout) := by
  induction layout generalizing position with
  | nil => exact reports_pure trivial
  | cons node rest ih =>
    cases node with
    | message details =>
      rw [layoutFrom, layoutReadings]
      exact (collects_layoutMessage _ details).bind fun _ _ => (ih hpart).map _
    | slot place =>
      obtain ⟨hthis, hlater⟩ := List.forall_mem_cons.1 hpart
      rw [layoutFrom, layoutReadings]
      split
      · next hnone =>
        have hunknown : (specs.lookup place.name).isSome = false := by
          rw [List.findIdx?_eq_none_iff] at hnone
          by_contra hknown
          have hin : (place.name, position) ∈ knownPlaces specs start whole :=
            List.mem_filter.2 ⟨hthis, Bool.of_not_eq_false hknown⟩
          simpa using hnone _ hin
        rw [hunknown]
        refine (ih hlater).restate ?_ fun _ _ => trivial
        rw [Reading.issues_append, Reading.issues_onlyIf_false, List.nil_append]
      · next number hnumber =>
        -- the place that is found at this position is this one, and only those for slots count
        have hknown : (specs.lookup place.name).isSome = true := by
          obtain ⟨hlt, hfound, -⟩ := List.findIdx?_eq_some_iff_getElem.1 hnumber
          obtain ⟨hentry, hkept⟩ := List.mem_filter.1 (List.getElem_mem hlt)
          have hname := name_eq_of_mem_placesFrom hentry hthis (eq_of_beq hfound)
          rwa [hname] at hkept
        rw [hknown, Reading.onlyIf_true]
        exact (collects_placeholder _ number place).bind fun _ _ => (ih hlater).map _

/-- The faults of slots that have a place are reported. -/
theorem collects_slots (specs : List (String × Template.Slot)) (placed : List (String × Nat)) :
    Collects (slots allowed specs placed)
      ((placed.map Prod.fst).flatMap (slotReadings specs)) := by
  induction placed with
  | nil => exact reports_pure trivial
  | cons entry rest ih =>
    obtain ⟨name, layoutIndex⟩ := entry
    rw [slots, List.map_cons, List.flatMap_cons, slotReadings]
    cases specs.lookup name with
    | none => exact ih
    | some spec =>
      rw [Option.toList_some, List.flatMap_singleton, Slot.readings, List.append_assoc]
      exact (collects_condition? _ spec.condition).bind fun _ _ =>
        (collects_planFrom _ false 0 spec.plan).bind fun _ _ => ih.map _

/-- Places for slots that do not exist have no texts of a slot. -/
theorem flatMap_slotReadings_knownPlaces (specs : List (String × Template.Slot)) (position : Nat)
    (layout : List Template.LayoutNode) :
    ((knownPlaces specs position layout).map Prod.fst).flatMap (slotReadings specs) =
      (layout.filterMap LayoutNode.slotName?).flatMap (slotReadings specs) := by
  rw [← names_placesFrom position layout, knownPlaces]
  induction placesFrom position layout with
  | nil => rfl
  | cons entry rest ih =>
    rw [List.filter_cons, List.map_cons, List.flatMap_cons, ← ih]
    cases hspec : specs.lookup entry.1 with
    | none => simp [slotReadings, hspec]
    | some spec => simp

/-- The places for slots that exist are for different ones, if each of these has one place. -/
theorem nodup_knownPlaces {source : Template}
    (hplaced : ∀ name ∈ source.slots.map Prod.fst, source.placeNames.count name = 1) :
    ((knownPlaces source.slots 0 source.layout).map Prod.fst).Nodup := by
  have hsublist : ((knownPlaces source.slots 0 source.layout).map Prod.fst).Sublist
      source.placeNames := by
    rw [placeNames, ← names_placesFrom 0 source.layout]
    exact List.filter_sublist.map _
  rw [List.nodup_iff_count_le_one]
  intro name
  by_cases hname : name ∈ (knownPlaces source.slots 0 source.layout).map Prod.fst
  · obtain ⟨entry, hentry, rfl⟩ := List.mem_map.1 hname
    have hknown : entry.1 ∈ source.slots.map Prod.fst := by
      by_contra hout
      rw [← isNone_lookup_iff, Option.isNone_iff_eq_none] at hout
      have hkept := (List.mem_filter.1 hentry).2
      rw [hout] at hkept
      cases hkept
    exact (hsublist.count_le _).trans (hplaced _ hknown).le
  · rw [List.count_eq_zero_of_not_mem hname]
    exact Nat.zero_le 1

/-- The faults of a template are reported, if each slot has one place and no two lanes and no two
groups of a lane have one name. -/
theorem collects_template {source : Template}
    (hplaced : ∀ name ∈ source.slots.map Prod.fst, source.placeNames.count name = 1)
    (hlanes : (source.attachments.map Template.Lane.id).Nodup)
    (hgroups : ∀ lane ∈ source.attachments, (lane.groups.map Template.LaneGroup.id).Nodup) :
    Collects (template allowed source) source.readings := by
  have hnew := areNew_nil_iff.2 (nodup_knownPlaces hplaced)
  have hslots : ∀ placed, Collects (slots allowed source.slots placed) _ :=
    collects_slots source.slots
  rw [template, Template.readings]
  refine (reports_placedSlots source.slots 0 [] source.layout).bind fun placed hmade => ?_
  rw [hmade hnew]
  refine (collects_checkPlaced _ source.slots).bind fun _ _ => ?_
  refine (collects_layoutFrom fun _ hentry => hentry).bind fun layout _ => ?_
  rw [placeNames, ← flatMap_slotReadings_knownPlaces source.slots 0 source.layout]
  exact (hslots _).bind fun _ _ => (collects_lanes 0 (areNew_nil_iff.2 hlanes) hgroups).map _

/-- What is reported of a compilation are the issues that it notes. -/
theorem Collects.reported_run {compilation : Compilation α} {readings : List Reading}
    (h : Collects compilation readings) {leaves : Leaf.Cache} (hleaves : leaves.IsFaithful) :
    (Issue.reported (compilation.run leaves).1).filter Issue.isLeaf = Reading.issues readings := by
  obtain ⟨-, -, noted, happend, hparts, hnoted⟩ := h ⟨leaves, [], []⟩ hleaves
  rw [List.nil_append] at happend
  rw [← hnoted, fst_run, happend]
  cases noted with
  | nil => rfl
  | cons issue rest =>
    cases rest with
    | nil => exact congrArg (List.filter Issue.isLeaf) (hparts issue List.mem_cons_self)
    | cons other others => rfl

end Compilation

end Blueprint

open Blueprint Blueprint.Compilation in
/-- A compiler reports the faults of all texts of a template that are examined, in their order and
together, and no other faults of texts, whatever else is wrong in the template. So a text that is
to be read and cannot be has an issue at its place exactly if it is examined. -/
theorem Compiler.reports_each {compiler : Compiler} (h : compiler.IsReached)
    (allowed : Option (List String)) (template : Template)
    (hplaced : ∀ name ∈ template.slots.map Prod.fst, template.placeNames.count name = 1)
    (hlanes : (template.attachments.map Template.Lane.id).Nodup)
    (hgroups : ∀ lane ∈ template.attachments, (lane.groups.map Template.LaneGroup.id).Nodup) :
    Template.AreOf template.readings template.parts ∧
      (Issue.reported (compiler.compileAllowing allowed template).1).filter Issue.isLeaf =
        Template.Reading.issues template.readings ∧
      ∀ reading ∈ template.readings, ∀ fault, reading.fault? = some fault →
        (.leaf reading.location fault ∈
            Issue.reported (compiler.compileAllowing allowed template).1 ↔
          reading.isExamined = true) := by
  have hcollects : Collects (Compilation.template allowed template) template.readings :=
    collects_template hplaced hlanes hgroups
  have hreported : (Issue.reported (compiler.compileAllowing allowed template).1).filter
      Issue.isLeaf = Template.Reading.issues template.readings :=
    hcollects.reported_run h.isFaithful
  refine ⟨template.areOf_readings, hreported, fun reading hreading fault hfault => ?_⟩
  rw [← Template.Reading.mem_issues_iff hreading hfault, ← hreported, List.mem_filter]
  exact ⟨fun hin => ⟨hin, rfl⟩, And.left⟩

namespace Sample

/-- A template with a loop over notes, in the order of a path, of which each is to be said in a
message with a tag that is not closed. -/
def notesBy (path : String) : Template where
  id := "unsorted"
  task := "chat"
  name := "Unsorted"
  version := 1
  layout := [.slot ⟨"notes", none, none, none⟩]
  slots := [("notes", ⟨0, none, none,
    [.forEach ⟨⟨some "notes", .null, none⟩, .ascending, some path, none, .appending, none, none,
        true⟩
      [.message ⟨.user, some "\x7b\x7bitem", none, none, none⟩]], .null⟩)]
  attachments := []

/-- The place of the loop. -/
def notesLoop : Location := [.key "slots", .key "notes", .key "plan", .index 0]

end Sample

open Blueprint in
/-- Of the loop in the order of a path that ends too early, the path is reported and nothing
else. -/
theorem Compiler.reports_each_notesBy :
    ((Issue.reported ((Compiler.fresh none).compileAllowing none
        (Sample.notesBy "rank.")).1).filter Issue.isLeaf).length = 1 ∧
      ∃ fault, .leaf (Sample.notesLoop.field "sortBy") fault ∈
        Issue.reported ((Compiler.fresh none).compileAllowing none (Sample.notesBy "rank.")).1 := by
  obtain ⟨-, hall, heach⟩ := Compiler.reports_each (.fresh none) none (Sample.notesBy "rank.")
    (by decide +kernel) (by decide +kernel) (by decide +kernel)
  have hreading : Template.pathReading (Sample.notesLoop.field "sortBy") "rank." ∈
      (Sample.notesBy "rank.").readings := by decide +kernel
  have hsome : (Template.pathReading (Sample.notesLoop.field "sortBy") "rank.").fault?.isSome := by
    decide +kernel
  obtain ⟨fault, hfault⟩ := Option.isSome_iff_exists.1 hsome
  refine ⟨?_, fault, (heach _ hreading fault hfault).2 rfl⟩
  rw [hall]
  decide +kernel

open Blueprint in
/-- A text that cannot be read may be reported only after another one was repaired: the message of
the loop is not examined as long as the path to sort by cannot be read. -/
theorem Sample.exists_unreported :
    (∀ name ∈ (notesBy "rank.").slots.map Prod.fst, (notesBy "rank.").placeNames.count name = 1) ∧
      ((notesBy "rank.").attachments.map Template.Lane.id).Nodup ∧
      (∀ lane ∈ (notesBy "rank.").attachments,
        (lane.groups.map Template.LaneGroup.id).Nodup) ∧
      ∃ reading ∈ (notesBy "rank.").readings, reading.fault?.isSome ∧
        (∀ issue ∈ Issue.reported ((Compiler.fresh none).compile (notesBy "rank.")).1,
          issue.location? ≠ some reading.location) ∧
        ∃ issue ∈ Issue.reported ((Compiler.fresh none).compile (notesBy "rank")).1,
          issue.location? = some reading.location := by
  decide +kernel

end ChatPrompt
