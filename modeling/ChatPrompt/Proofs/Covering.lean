import ChatPrompt.Proofs.Checking

/-!
# What goes through a compilation

Each part of a template goes through a compilation exactly where it is in order, down to plans
of any depth. A key without variables is in order where it was not met before; a path to sort
by that is none ends the loop that it belongs to, but not without an issue.
-/

namespace ChatPrompt.Blueprint.Compilation

open Template

variable {allowed : Option (List String)}

mutual

/-- Arguments are in order if their texts that hold tags are. -/
theorem covers_arguments (here : Location) (value : Json) :
    Covers allowed (arguments here value) (argumentParts value) := by
  cases value with
  | null | bool _ | number _ =>
    rw [arguments, argumentParts]
    · exact covers_pure _
    all_goals simp
  | string source =>
    rw [arguments, argumentParts]
    split
    · exact (covers_leaf here source).map _
    · exact covers_pure _
  | array items =>
    rw [arguments, argumentParts]
    exact (covers_argumentItems here 0 items).map _
  | object fields =>
    rw [arguments, argumentParts]
    exact (covers_argumentFields here fields).map _

theorem covers_argumentItems (here : Location) (position : Nat) (items : List Json) :
    Covers allowed (argumentItems here position items) (itemParts items) := by
  cases items with
  | nil =>
    rw [argumentItems, itemParts]
    exact covers_pure _
  | cons item rest =>
    rw [argumentItems, itemParts]
    exact (covers_arguments _ item).bind fun _ => (covers_argumentItems here _ rest).map _

theorem covers_argumentFields (here : Location) (fields : Json.Fields) :
    Covers allowed (argumentFields here fields) (fieldParts fields) := by
  cases fields with
  | nil =>
    rw [argumentFields, fieldParts]
    exact covers_pure _
  | cons field rest =>
    obtain ⟨key, value⟩ := field
    rw [argumentFields, fieldParts]
    exact (covers_arguments _ value).bind fun _ => (covers_argumentFields here rest).map _

end

/-- A source is in order if it is allowed. -/
theorem covers_checkSource (here : Location) (name : String) (way : Option String) :
    Covers allowed (checkSource allowed here name) [.target (some name) way] := by
  cases allowed with
  | none =>
    refine checks_pure_of_isInOrder ⟨.inl rfl, ?_⟩ rfl trivial
    exact fun _ _ _ hnames => nomatch hnames
  | some names =>
    rw [checkSource]
    split
    · next hknown =>
      refine checks_pure_of_isInOrder ⟨.inl rfl, ?_⟩ rfl trivial
      intro other hother others hothers
      rw [← Option.some.inj hother, ← Option.some.inj hothers]
      exact List.contains_iff_mem.1 hknown
    · next hunknown =>
      refine covers_note _ (.target (some name) way) ?_ List.mem_cons_self fun _ => grows_pure ()
      exact fun hpart => hunknown (List.contains_iff_mem.2 (hpart.2 name rfl names rfl))

/-- What a reference reads from is in order if it is something, its source is allowed and its
path is one. -/
theorem covers_target (here : Location) (source way : Option String) :
    Covers allowed (target allowed here source way)
      (.target source way :: way.toList.map .path) := by
  cases source with
  | none =>
    cases way with
    | none =>
      refine covers_note _ (.target none none) ?_ List.mem_cons_self
        fun _ => grows_pure none
      exact fun hpart => by simp [Part.IsInOrder] at hpart
    | some way =>
      rw [target]
      exact ((covers_path _ way).map _).cons ⟨.inr rfl, fun _ hname => nomatch hname⟩ rfl
  | some name =>
    cases way with
    | none => exact (covers_checkSource here name none).map _
    | some way =>
      rw [target]
      exact (covers_checkSource here name _).bind fun _ => (covers_path _ way).map _

/-- A reference is in order if its parts are. -/
theorem covers_reference (here : Location) (source : Template.Reference) :
    Covers allowed (reference allowed here source) source.parts := by
  rw [reference, Template.Reference.parts]
  exact (covers_arguments _ source.args).bind fun _ =>
    (covers_target here source.source source.path).map _

mutual

/-- A condition is in order if its parts are. -/
theorem covers_condition (here : Location) (test : Template.Condition) :
    Covers allowed (condition allowed here test) test.parts := by
  cases test with
  | present target =>
    rw [condition, Template.Condition.parts]
    exact (covers_reference _ target).map _
  | nonEmpty target =>
    rw [condition, Template.Condition.parts]
    exact (covers_reference _ target).map _
  | compare target op value =>
    rw [condition, Template.Condition.parts]
    exact (covers_reference _ target).map _
  | expression source =>
    rw [condition, Template.Condition.parts]
    exact (covers_expression _ source).map _
  | all conditions =>
    rw [condition, Template.Condition.parts]
    exact (covers_conditionList _ 0 conditions).map _
  | any conditions =>
    rw [condition, Template.Condition.parts]
    exact (covers_conditionList _ 0 conditions).map _
  | negation inner =>
    rw [condition, Template.Condition.parts]
    exact (covers_condition _ inner).map _

theorem covers_conditionList (here : Location) (position : Nat)
    (conditions : List Template.Condition) :
    Covers allowed (conditionList allowed here position conditions)
      (conditionParts conditions) := by
  cases conditions with
  | nil =>
    rw [conditionList, conditionParts]
    exact covers_pure _
  | cons first rest =>
    rw [conditionList, conditionParts]
    exact (covers_condition _ first).bind fun _ => (covers_conditionList here _ rest).map _

end

theorem covers_condition? (here : Location) (test : Option Template.Condition) :
    Covers allowed (condition? allowed here test)
      (test.toList.flatMap Template.Condition.parts) := by
  cases test with
  | none => exact covers_pure none
  | some test =>
    rw [condition?, Option.toList_some, List.flatMap_singleton]
    exact covers_condition here test

/-- An optional frame is in order if its text is a leaf. -/
theorem covers_frame? (here : Location) (frame : Option Template.Frame) :
    Covers allowed (frame? here frame) (frameParts frame) := by
  cases frame with
  | none => exact covers_pure none
  | some frame => exact (covers_leaf here frame.content).map _

/-- What a message says is in order if it is one thing and that is in order. -/
theorem covers_content (here : Location) (own : Option String)
    (source : Option Template.Reference) :
    Covers allowed (content allowed here own source) (contentParts own source) := by
  cases own with
  | none =>
    cases source with
    | none =>
      refine covers_note _ (.content none none) ?_ List.mem_cons_self
        fun _ => grows_pure none
      exact fun hpart => by simp [Part.IsInOrder] at hpart
    | some source =>
      rw [content]
      have hparts : contentParts none (some source) =
          .content none (some source) :: source.parts := by
        simp [contentParts]
      rw [hparts]
      exact ((covers_reference _ source).map _).cons (.inr ⟨rfl, rfl⟩) rfl
  | some own =>
    cases source with
    | none =>
      rw [content]
      exact ((covers_leaf _ own).map _).cons (.inl ⟨rfl, rfl⟩) rfl
    | some source =>
      refine covers_note _ (.content (some own) (some source)) ?_ List.mem_cons_self
        fun _ => grows_pure none
      exact fun hpart => by simp [Part.IsInOrder] at hpart

/-- Meets a fixed key, unless it was met before. -/
def meetKey (here : Location) (key : String) (leaf : Leaf) : Compilation (Option Leaf) := do
  let progress ← get
  if progress.anchors.contains key then do
    note (.repeatedAnchor key here)
    return none
  else do
    set { progress with anchors := progress.anchors ++ [key] }
    return some leaf

/-- Keeps the leaf of a key, of which one that is fixed may not stand in a loop and is met
otherwise. -/
def keepAnchor (here : Location) (inLoop : Bool) (key : String) (leaf : Leaf) :
    Compilation (Option Leaf) :=
  if leaf.hasVariables then return some leaf
  else if inLoop then do
    note (.fixedAnchorInLoop key here)
    return none
  else meetKey here key leaf

/-- A key is read as a leaf, which is kept. -/
theorem anchor_eq (here : Location) (inLoop : Bool) (key : String) :
    anchor here inLoop key = (do
      let found ← leaf here key
      match found with
      | none => return none
      | some leaf => keepAnchor here inLoop key leaf) := by
  rw [anchor]
  refine congrArg (leaf here key >>= ·) (funext fun found => ?_)
  cases found with
  | none => rfl
  | some leaf =>
    dsimp only
    rw [keepAnchor]
    cases leaf.hasVariables with
    | true => rfl
    | false =>
      cases inLoop with
      | true => rfl
      | false => rfl

/-- Meeting a key that was met before is an issue; any other is met then. -/
theorem meetKey_apply (here : Location) (key : String) (leaf : Leaf) (progress : Progress) :
    meetKey here key leaf progress =
      if key ∈ progress.anchors then
        (none, { progress with issues := progress.issues ++ [.repeatedAnchor key here] })
      else (some leaf, { progress with anchors := progress.anchors ++ [key] }) := by
  change (if progress.anchors.contains key then _ else _ : Compilation (Option Leaf)) progress = _
  by_cases hmet : key ∈ progress.anchors
  · rw [if_pos (List.contains_iff_mem.2 hmet), if_pos hmet]
    rfl
  · rw [if_neg (fun hin => hmet (List.contains_iff_mem.1 hin)), if_neg hmet]
    rfl

/-- Meeting a key keeps up what is known. -/
theorem grows_meetKey (here : Location) (key : String) (leaf : Leaf) :
    Grows (meetKey here key leaf) := by
  intro progress hleaves
  rw [meetKey_apply]
  split
  · exact ⟨hleaves, List.prefix_append _ _⟩
  · exact ⟨hleaves, List.prefix_refl _⟩

/-- A fixed key is in order if it was not met before. -/
theorem covers_meetKey (here : Location) {key : String} {leaf : Leaf}
    (hread : Leaf.ofText key = .ok leaf) (hfixed : leaf.hasVariables = false) :
    Covers allowed (meetKey here key leaf) [.anchor false key] := by
  have hkeys : fixedKeys [.anchor false key] = [key] := by
    simp [fixedKeys, Part.fixedKey?, Leaf.isFixedText, hread, hfixed]
  have hin : ∀ met, InOrder allowed met [.anchor false key] ↔ key ∉ met := by
    intro met
    refine ⟨fun h => h.keys_new key (by simp [hkeys]), fun hnew => ⟨?_, ?_, ?_⟩⟩
    · intro part hpart
      rw [List.mem_singleton.1 hpart]
      exact ⟨⟨leaf, hread⟩, fun hloop => absurd hloop Bool.false_ne_true⟩
    · rw [hkeys]
      exact List.nodup_singleton key
    · rw [hkeys]
      intro other hother
      rw [List.mem_singleton.1 hother]
      exact hnew
  refine ⟨grows_meetKey here key leaf, ?_, ?_, fun _ _ _ => trivial⟩
  · intro progress _
    rw [meetKey_apply, hin, true_and]
    split
    · next hmet => exact iff_of_false (by simp) (not_not_intro hmet)
    · next hnew => exact iff_of_true rfl hnew
  · intro progress _ hnone
    rw [meetKey_apply] at hnone ⊢
    split at hnone
    · simp at hnone
    · next hnew =>
      rw [if_neg hnew, hkeys]

/-- Keeping a leaf keeps up what is known. -/
theorem grows_keepAnchor (here : Location) (inLoop : Bool) (key : String) (leaf : Leaf) :
    Grows (keepAnchor here inLoop key leaf) := by
  rw [keepAnchor]
  split
  · exact grows_pure (some leaf)
  · split
    · exact (grows_note _).bind fun _ => grows_pure none
    · exact grows_meetKey here key leaf

/-- A key that was read is in order if it varies, or stands in no loop and was not met. -/
theorem covers_keepAnchor (here : Location) (inLoop : Bool) {key : String} {leaf : Leaf}
    (hread : Leaf.ofText key = .ok leaf) :
    Covers allowed (keepAnchor here inLoop key leaf) [.anchor inLoop key] := by
  have hfixed : Leaf.isFixedText key = !leaf.hasVariables := by rw [Leaf.isFixedText, hread]
  rw [keepAnchor]
  cases hvaries : leaf.hasVariables with
  | true =>
    rw [hvaries, Bool.not_true] at hfixed
    refine checks_pure_of_isInOrder ⟨⟨leaf, hread⟩, fun _ => hfixed⟩ ?_ trivial
    cases inLoop <;> simp [Part.fixedKey?, hfixed]
  | false =>
    rw [hvaries, Bool.not_false] at hfixed
    cases inLoop with
    | true =>
      refine covers_note _ (.anchor true key) ?_ List.mem_cons_self fun _ => grows_pure none
      intro hpart
      rw [hpart.2 rfl] at hfixed
      exact Bool.false_ne_true hfixed
    | false => exact covers_meetKey here hread hvaries

/-- A key is in order if it is a leaf, which in a loop may not be fixed; a fixed key is met
once. -/
theorem covers_anchor (here : Location) (inLoop : Bool) (key : String) :
    Covers allowed (anchor here inLoop key) [.anchor inLoop key] := by
  have hboth : Checks allowed (anchor here inLoop key) (True ∧ True)
      ([.text key] ++ [.anchor inLoop key]) fun _ => True := by
    rw [anchor_eq]
    refine (checks_leaf here key).bind ?_ ?_
    · intro found
      cases found with
      | none => exact grows_pure none
      | some leaf => exact grows_keepAnchor here inLoop key leaf
    · rintro _ ⟨leaf, rfl, hread⟩
      exact covers_keepAnchor here inLoop hread
  -- a key that is in order is a leaf
  refine hboth.restate ?_ rfl
  intro met
  have hkeys : met ++ fixedKeys [.text key] = met := List.append_nil met
  rw [inOrder_append_iff, inOrder_singleton_iff rfl, hkeys]
  constructor
  · rintro ⟨-, -, hkey⟩
    exact ⟨trivial, hkey⟩
  · rintro ⟨-, hkey⟩
    exact ⟨⟨trivial, trivial⟩, (hkey.each _ List.mem_cons_self).1, hkey⟩

/-- An optional key is in order if it is there in order. -/
theorem covers_anchor? (here : Location) (inLoop : Bool) (key : Option String) :
    Covers allowed (anchor? here inLoop key) (key.toList.map (.anchor inLoop)) := by
  cases key with
  | none => exact covers_pure _
  | some key => exact (covers_anchor here inLoop key).map _

theorem covers_layoutMessage (here : Location) (message : LayoutMessage) :
    Covers allowed (layoutMessage allowed here message) message.parts := by
  have hrest : Covers allowed (do
      let content ← content allowed here message.content message.source
      let anchor ← anchor? (here.field "anchor") false message.anchor
      return content.bind fun content => anchor.map fun anchor =>
        ⟨message.role, content, message.openEnded, anchor, none⟩ : Compilation (Option Message))
      (contentParts message.content message.source ++ message.anchor.toList.map (.anchor false)) :=
    (covers_content here _ _).bind fun _ => (covers_anchor? _ _ _).map _
  rw [layoutMessage, LayoutMessage.parts]
  split
  · next hrefused =>
    refine covers_note _ (.opening message.role message.openEnded) ?_ List.mem_cons_self
      fun _ => hrest.grows
    intro hpart
    rw [Bool.and_eq_true, bne_iff_ne] at hrefused
    exact hrefused.2 (hpart hrefused.1)
  · next haccepted =>
    refine hrest.cons (fun hopen => ?_) rfl
    simpa [hopen] using haccepted

theorem covers_planMessage (here : Location) (inLoop : Bool) (message : PlanMessage) :
    Covers allowed (planMessage allowed here inLoop message) (message.parts inLoop) := by
  rw [planMessage, PlanMessage.parts]
  exact (covers_content here _ _).bind fun _ => (covers_anchor? _ _ _).map _

/-- An optional path to sort by is in order if it is a path. -/
theorem checks_sortBy? (here : Location) (source : Option String) :
    Checks allowed (sortBy? here source) True (source.toList.map .path)
      fun made => made.isSome := by
  cases source with
  | none => exact checks_pure rfl
  | some source => exact (checks_path here source).map fun _ hmade => by simpa using hmade

mutual

/-- A step of a plan is in order if its parts are. -/
theorem covers_planNode (here : Location) (inLoop : Bool) (node : Template.PlanNode) :
    Covers allowed (planNode allowed here inLoop node) (node.parts inLoop) := by
  cases node with
  | message details =>
    rw [planNode, PlanNode.parts]
    exact (covers_planMessage here inLoop details).map _
  | forEach header body =>
    rw [planNode, PlanNode.parts]
    refine (covers_reference _ header.source).bind fun source => ?_
    -- where the path to sort by is in order, the loop goes on; otherwise an issue is noted
    have hrest : ∀ sortBy : Option (Option Path), sortBy.isSome → Covers allowed (do
        match sortBy with
        | none => return none
        | some sortBy => do
          let body ← planFrom allowed (here.field "map") true 0 body
          let separator ← frame? (here.field "interleave") header.separator
          return source.map fun source =>
            .forEach ⟨source, header.order, sortBy, header.limit, header.filling, separator,
              header.budget, header.stopsWhenFull⟩ body : Compilation (Option PlanNode))
        (planParts true body ++ frameParts header.separator) := by
      intro sortBy hsome
      cases sortBy with
      | none => cases hsome
      | some sortBy =>
        exact (covers_planFrom _ true 0 body).bind fun _ => (covers_frame? _ _).map _
    refine ((checks_sortBy? _ header.sortBy).bind ?_ hrest).weaken (and_self_iff) fun _ h => h
    intro sortBy
    cases sortBy with
    | none => exact grows_pure none
    | some sortBy => exact (hrest (some sortBy) rfl).grows
  | branch test whenTrue whenFalse =>
    rw [planNode, PlanNode.parts]
    exact (covers_condition _ test).bind fun _ =>
      (covers_planFrom _ inLoop 0 whenTrue).bind fun _ =>
        (covers_planFrom _ inLoop 0 whenFalse).map _

theorem covers_planFrom (here : Location) (inLoop : Bool) (position : Nat)
    (nodes : List Template.PlanNode) :
    Covers allowed (planFrom allowed here inLoop position nodes) (planParts inLoop nodes) := by
  cases nodes with
  | nil =>
    rw [planFrom, planParts]
    exact covers_pure _
  | cons node rest =>
    rw [planFrom, planParts]
    exact (covers_planNode _ inLoop node).bind fun _ =>
      (covers_planFrom here inLoop _ rest).map _

end

end ChatPrompt.Blueprint.Compilation
