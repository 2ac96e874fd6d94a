import ChatPrompt.Proofs.Acceptance

/-!
# What was read before makes no difference

A compilation takes its leaves from a cache, and goes on in it from one template to the next. Two
compilations that know the same issues and keys, but have read different leaves, do the same: each
text is the leaf that it is read as, from whichever cache it comes, or is noted with the same fault.
This is said of each part of a compilation, for any two caches that hold nothing wrong; so a
compiler that has read many texts is as good as one that has read none.
-/

namespace ChatPrompt.Blueprint

/-- Two moments at which the same is known, though other leaves may have been read. -/
structure Progress.Alike (first second : Progress) : Prop where
  /-- The leaves of the first are what their texts are read as. -/
  first_faithful : first.leaves.IsFaithful
  /-- So are those of the second. -/
  second_faithful : second.leaves.IsFaithful
  /-- The same issues were found. -/
  issues_eq : second.issues = first.issues
  /-- The same keys were met. -/
  anchors_eq : second.anchors = first.anchors

namespace Compilation

variable {α β : Type} {allowed : Option (List String)}

/-- A part of a compilation makes the same and finds the same, whatever leaves were read before. -/
def IsIndifferent (compilation : Compilation α) : Prop :=
  ∀ first second : Progress, first.Alike second →
    (compilation second).1 = (compilation first).1 ∧
      (compilation first).2.Alike (compilation second).2

theorem isIndifferent_pure (value : α) : IsIndifferent (pure value : Compilation α) :=
  fun _ _ halike => ⟨rfl, halike⟩

theorem IsIndifferent.bind {first : Compilation α} {next : α → Compilation β}
    (hfirst : IsIndifferent first) (hnext : ∀ value, IsIndifferent (next value)) :
    IsIndifferent (first >>= next) := by
  intro one other halike
  obtain ⟨hmade, hlater⟩ := hfirst one other halike
  change (next (first other).1 (first other).2).1 = (next (first one).1 (first one).2).1 ∧
    (next (first one).1 (first one).2).2.Alike (next (first other).1 (first other).2).2
  rw [hmade]
  exact hnext (first one).1 _ _ hlater

theorem IsIndifferent.map {first : Compilation α} (hfirst : IsIndifferent first) (f : α → β) :
    IsIndifferent (first >>= fun value => pure (f value)) :=
  hfirst.bind fun value => isIndifferent_pure (f value)

/-- Noting an issue. -/
theorem isIndifferent_note (issue : Issue) : IsIndifferent (note issue) :=
  fun _ _ halike => ⟨rfl, halike.first_faithful, halike.second_faithful,
    congrArg (· ++ [issue]) halike.issues_eq, halike.anchors_eq⟩

/-- A text is read as the same leaf, or has the same fault. -/
theorem isIndifferent_leaf (here : Location) (source : String) :
    IsIndifferent (leaf here source) := by
  rintro first second ⟨hfirst, hsecond, hissues, hanchors⟩
  have hfetched := Leaf.Cache.isFaithful_fetch hfirst source
  have hfetched' := Leaf.Cache.isFaithful_fetch hsecond source
  rcases leaf_apply here source hfirst with ⟨found, hread, happly⟩ | ⟨fault, hread, happly⟩
  · rcases leaf_apply here source hsecond with ⟨found', hread', happly'⟩ | ⟨_, hread', -⟩
    · obtain rfl : found = found' := Except.ok.inj (hread.symm.trans hread')
      rw [happly, happly']
      exact ⟨rfl, hfetched, hfetched', hissues, hanchors⟩
    · rw [hread] at hread'
      cases hread'
  · rcases leaf_apply here source hsecond with ⟨_, hread', -⟩ | ⟨fault', hread', happly'⟩
    · rw [hread] at hread'
      cases hread'
    · obtain rfl : fault = fault' := Except.error.inj (hread.symm.trans hread')
      rw [happly, happly']
      exact ⟨rfl, hfetched, hfetched', congrArg (· ++ [.leaf here fault]) hissues, hanchors⟩

/-- An optional text. -/
theorem isIndifferent_leaf? (here : Location) (source : Option String) :
    IsIndifferent (leaf? here source) := by
  cases source with
  | none => exact isIndifferent_pure none
  | some source => exact isIndifferent_leaf here source

/-- A path is read without a cache. -/
theorem isIndifferent_path (here : Location) (source : String) :
    IsIndifferent (path here source) := by
  rw [path]
  split
  · exact isIndifferent_pure _
  · exact (isIndifferent_note _).bind fun _ => isIndifferent_pure none

/-- An expression is read without a cache. -/
theorem isIndifferent_expression (here : Location) (source : String) :
    IsIndifferent (expression here source) := by
  rw [expression]
  split
  · exact isIndifferent_pure _
  · exact (isIndifferent_note _).bind fun _ => isIndifferent_pure none

mutual

theorem isIndifferent_arguments (here : Location) (value : Json) :
    IsIndifferent (arguments here value) := by
  cases value with
  | null | bool _ | number _ =>
    rw [arguments]
    · exact isIndifferent_pure _
    all_goals simp
  | string source =>
    rw [arguments]
    split
    · exact (isIndifferent_leaf here source).map _
    · exact isIndifferent_pure _
  | array items =>
    rw [arguments]
    exact (isIndifferent_argumentItems here 0 items).map _
  | object fields =>
    rw [arguments]
    exact (isIndifferent_argumentFields here fields).map _

theorem isIndifferent_argumentItems (here : Location) (position : Nat) (items : List Json) :
    IsIndifferent (argumentItems here position items) := by
  cases items with
  | nil =>
    rw [argumentItems]
    exact isIndifferent_pure _
  | cons item rest =>
    rw [argumentItems]
    exact (isIndifferent_arguments _ item).bind fun _ =>
      (isIndifferent_argumentItems here _ rest).map _

theorem isIndifferent_argumentFields (here : Location) (fields : Json.Fields) :
    IsIndifferent (argumentFields here fields) := by
  cases fields with
  | nil =>
    rw [argumentFields]
    exact isIndifferent_pure _
  | cons field rest =>
    obtain ⟨key, value⟩ := field
    rw [argumentFields]
    exact (isIndifferent_arguments _ value).bind fun _ =>
      (isIndifferent_argumentFields here rest).map _

end

/-- Whether a source is allowed. -/
theorem isIndifferent_checkSource (here : Location) (name : String) :
    IsIndifferent (checkSource allowed here name) := by
  rw [checkSource.eq_def]
  split
  · exact isIndifferent_pure ()
  · split
    · exact isIndifferent_pure ()
    · exact isIndifferent_note _

theorem isIndifferent_target (here : Location) (source way : Option String) :
    IsIndifferent (target allowed here source way) := by
  cases source with
  | none =>
    cases way with
    | none => exact (isIndifferent_note _).bind fun _ => isIndifferent_pure none
    | some way => exact (isIndifferent_path _ way).map _
  | some name =>
    cases way with
    | none => exact (isIndifferent_checkSource here name).map _
    | some way =>
      exact (isIndifferent_checkSource here name).bind fun _ => (isIndifferent_path _ way).map _

theorem isIndifferent_reference (here : Location) (source : Template.Reference) :
    IsIndifferent (reference allowed here source) :=
  (isIndifferent_arguments _ source.args).bind fun _ => (isIndifferent_target here _ _).map _

mutual

theorem isIndifferent_condition (here : Location) (test : Template.Condition) :
    IsIndifferent (condition allowed here test) := by
  cases test with
  | present target | nonEmpty target | compare target op value =>
    rw [condition]
    exact (isIndifferent_reference _ target).map _
  | expression source =>
    rw [condition]
    exact (isIndifferent_expression _ source).map _
  | all conditions | any conditions =>
    rw [condition]
    exact (isIndifferent_conditionList _ 0 conditions).map _
  | negation inner =>
    rw [condition]
    exact (isIndifferent_condition _ inner).map _

theorem isIndifferent_conditionList (here : Location) (position : Nat)
    (conditions : List Template.Condition) :
    IsIndifferent (conditionList allowed here position conditions) := by
  cases conditions with
  | nil =>
    rw [conditionList]
    exact isIndifferent_pure _
  | cons first rest =>
    rw [conditionList]
    exact (isIndifferent_condition _ first).bind fun _ =>
      (isIndifferent_conditionList here _ rest).map _

end

theorem isIndifferent_condition? (here : Location) (test : Option Template.Condition) :
    IsIndifferent (condition? allowed here test) := by
  cases test with
  | none => exact isIndifferent_pure none
  | some test => exact isIndifferent_condition here test

theorem isIndifferent_frame? (here : Location) (frame : Option Template.Frame) :
    IsIndifferent (frame? here frame) := by
  cases frame with
  | none => exact isIndifferent_pure none
  | some frame => exact (isIndifferent_leaf here frame.content).map _

theorem isIndifferent_content (here : Location) (own : Option String)
    (source : Option Template.Reference) :
    IsIndifferent (content allowed here own source) := by
  cases own with
  | none =>
    cases source with
    | none => exact (isIndifferent_note _).bind fun _ => isIndifferent_pure none
    | some source => exact (isIndifferent_reference _ source).map _
  | some own =>
    cases source with
    | none => exact (isIndifferent_leaf _ own).map _
    | some source => exact (isIndifferent_note _).bind fun _ => isIndifferent_pure none

/-- A key is met with the keys that were met before, not with the leaves. -/
theorem isIndifferent_meetKey (here : Location) (key : String) (leaf : Leaf) :
    IsIndifferent (meetKey here key leaf) := by
  rintro first second ⟨hfirst, hsecond, hissues, hanchors⟩
  rw [meetKey_apply, meetKey_apply, hanchors]
  split
  · exact ⟨rfl, hfirst, hsecond, congrArg (· ++ [.repeatedAnchor key here]) hissues, rfl⟩
  · exact ⟨rfl, hfirst, hsecond, hissues, rfl⟩

/-- A key that was read. -/
theorem isIndifferent_keepAnchor (here : Location) (inLoop : Bool) (key : String) (leaf : Leaf) :
    IsIndifferent (keepAnchor here inLoop key leaf) := by
  rw [keepAnchor]
  split
  · exact isIndifferent_pure _
  · split
    · exact (isIndifferent_note _).bind fun _ => isIndifferent_pure none
    · exact isIndifferent_meetKey here key leaf

theorem isIndifferent_anchor (here : Location) (inLoop : Bool) (key : String) :
    IsIndifferent (anchor here inLoop key) := by
  rw [anchor_eq]
  refine (isIndifferent_leaf here key).bind fun found => ?_
  cases found with
  | none => exact isIndifferent_pure none
  | some leaf => exact isIndifferent_keepAnchor here inLoop key leaf

theorem isIndifferent_anchor? (here : Location) (inLoop : Bool) (key : Option String) :
    IsIndifferent (anchor? here inLoop key) := by
  cases key with
  | none => exact isIndifferent_pure _
  | some key => exact (isIndifferent_anchor here inLoop key).map _

theorem isIndifferent_layoutMessage (here : Location) (message : Template.LayoutMessage) :
    IsIndifferent (layoutMessage allowed here message) := by
  have hrest : IsIndifferent (do
      let content ← content allowed here message.content message.source
      let anchor ← anchor? (here.field "anchor") false message.anchor
      return content.bind fun content => anchor.map fun anchor =>
        ⟨message.role, content, message.openEnded, anchor, none⟩ :
          Compilation (Option Message)) :=
    (isIndifferent_content here _ _).bind fun _ => (isIndifferent_anchor? _ _ _).map _
  rw [layoutMessage]
  split
  · exact (isIndifferent_note _).bind fun _ => hrest
  · exact hrest

theorem isIndifferent_planMessage (here : Location) (inLoop : Bool)
    (message : Template.PlanMessage) :
    IsIndifferent (planMessage allowed here inLoop message) :=
  (isIndifferent_content here _ _).bind fun _ => (isIndifferent_anchor? _ _ _).map _

theorem isIndifferent_sortBy? (here : Location) (source : Option String) :
    IsIndifferent (sortBy? here source) := by
  cases source with
  | none => exact isIndifferent_pure _
  | some source => exact (isIndifferent_path here source).map _

mutual

theorem isIndifferent_planNode (here : Location) (inLoop : Bool) (node : Template.PlanNode) :
    IsIndifferent (planNode allowed here inLoop node) := by
  cases node with
  | message details =>
    rw [planNode]
    exact (isIndifferent_planMessage here inLoop details).map _
  | forEach header body =>
    rw [planNode]
    refine (isIndifferent_reference _ header.source).bind fun source => ?_
    refine (isIndifferent_sortBy? _ header.sortBy).bind fun sortBy => ?_
    cases sortBy with
    | none => exact isIndifferent_pure none
    | some sortBy =>
      exact (isIndifferent_planFrom _ true 0 body).bind fun _ => (isIndifferent_frame? _ _).map _
  | branch test whenTrue whenFalse =>
    rw [planNode]
    exact (isIndifferent_condition _ test).bind fun _ =>
      (isIndifferent_planFrom _ inLoop 0 whenTrue).bind fun _ =>
        (isIndifferent_planFrom _ inLoop 0 whenFalse).map _

theorem isIndifferent_planFrom (here : Location) (inLoop : Bool) (position : Nat)
    (nodes : List Template.PlanNode) :
    IsIndifferent (planFrom allowed here inLoop position nodes) := by
  cases nodes with
  | nil =>
    rw [planFrom]
    exact isIndifferent_pure _
  | cons node rest =>
    rw [planFrom]
    exact (isIndifferent_planNode _ inLoop node).bind fun _ =>
      (isIndifferent_planFrom here inLoop _ rest).map _

end

theorem isIndifferent_laneGroups (here : Location) (position : Nat) (met : List String)
    (groups : List Template.LaneGroup) :
    IsIndifferent (laneGroups here position met groups) := by
  induction groups generalizing position met with
  | nil => exact isIndifferent_pure _
  | cons group rest ih =>
    rw [laneGroups]
    split
    · exact (isIndifferent_note _).bind fun _ => ih _ _
    · exact (isIndifferent_leaf? _ group.opening).bind fun _ =>
        (isIndifferent_leaf? _ group.closing).bind fun _ => (ih _ _).map _

theorem isIndifferent_lane (here : Location) (source : Template.Lane) :
    IsIndifferent (lane here source) :=
  (isIndifferent_leaf _ source.template).bind fun _ =>
    (isIndifferent_laneGroups _ 0 [] source.groups).map _

theorem isIndifferent_lanes (position : Nat) (met : List String) (sources : List Template.Lane) :
    IsIndifferent (lanes position met sources) := by
  induction sources generalizing position met with
  | nil => exact isIndifferent_pure _
  | cons source rest ih =>
    rw [lanes]
    split
    · exact (isIndifferent_note _).bind fun _ => ih _ _
    · exact (isIndifferent_lane _ source).bind fun _ => (ih _ _).map _

theorem isIndifferent_placedSlots (specs : List (String × Template.Slot)) (position : Nat)
    (met : List String) (layout : List Template.LayoutNode) :
    IsIndifferent (placedSlots specs position met layout) := by
  induction layout generalizing position met with
  | nil => exact isIndifferent_pure _
  | cons node rest ih =>
    cases node with
    | message details => exact ih _ _
    | slot place =>
      rw [placedSlots]
      split
      · exact (isIndifferent_note _).bind fun _ => ih _ _
      · split
        · exact (isIndifferent_note _).bind fun _ => ih _ _
        · exact (ih _ _).map _

/-- Whether each slot has a place. -/
theorem isIndifferent_checkPlaced (placed : List (String × Nat))
    (specs : List (String × Template.Slot)) : IsIndifferent (checkPlaced placed specs) := by
  induction specs with
  | nil => exact isIndifferent_pure ()
  | cons spec rest ih =>
    rw [checkPlaced]
    split
    · exact (isIndifferent_note _).bind fun _ => ih
    · exact ih

theorem isIndifferent_placeholder (here : Location) (number : Nat)
    (place : Template.Placeholder) : IsIndifferent (placeholder here number place) :=
  (isIndifferent_frame? _ place.header).bind fun _ => (isIndifferent_frame? _ place.footer).map _

/-- The elements of the layout. -/
theorem isIndifferent_layoutFrom (placed : List (String × Nat)) (position : Nat)
    (layout : List Template.LayoutNode) :
    IsIndifferent (layoutFrom allowed placed position layout) := by
  induction layout generalizing position with
  | nil => exact isIndifferent_pure _
  | cons node rest ih =>
    cases node with
    | message details =>
      exact (isIndifferent_layoutMessage _ details).bind fun _ => (ih _).map _
    | slot place =>
      rw [layoutFrom]
      split
      · exact ih _
      · exact (isIndifferent_placeholder _ _ place).bind fun _ => (ih _).map _

theorem isIndifferent_slots (specs : List (String × Template.Slot))
    (placed : List (String × Nat)) : IsIndifferent (slots allowed specs placed) := by
  induction placed with
  | nil => exact isIndifferent_pure _
  | cons entry rest ih =>
    rw [slots]
    split
    · exact ih
    · exact (isIndifferent_condition? _ _).bind fun _ =>
        (isIndifferent_planFrom _ false 0 _).bind fun _ => ih.map _

/-- A template. -/
theorem isIndifferent_template (source : Template) : IsIndifferent (template allowed source) :=
  (isIndifferent_placedSlots source.slots 0 [] source.layout).bind fun placed =>
    (isIndifferent_checkPlaced placed source.slots).bind fun _ =>
      (isIndifferent_layoutFrom placed 0 source.layout).bind fun _ =>
        (isIndifferent_slots source.slots placed).bind fun _ =>
          (isIndifferent_lanes 0 [] source.attachments).map _

/-- A compilation from nothing ends in the same way, whatever leaves were read before. -/
theorem IsIndifferent.run_eq {compilation : Compilation α} (h : IsIndifferent compilation)
    {leaves others : Leaf.Cache} (hleaves : leaves.IsFaithful) (hothers : others.IsFaithful) :
    (compilation.run others).1 = (compilation.run leaves).1 := by
  obtain ⟨hmade, hlater⟩ := h ⟨leaves, [], []⟩ ⟨others, [], []⟩ ⟨hleaves, hothers, rfl, rfl⟩
  have hissues := hlater.issues_eq
  rw [fst_run, fst_run, hmade, hissues]

end Compilation

end ChatPrompt.Blueprint
