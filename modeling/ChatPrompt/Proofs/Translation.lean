import ChatPrompt.Proofs.Image

/-!
# A compiler makes the image of a template

What cannot be compiled is left out of the blueprint, but not without an issue. So where no issue
is noted nothing is left out, and each part of a compilation makes the image of what it goes
through: one step for each step of a plan, at any depth, and one element for each element of the
layout. A place of the layout points at the slot of its name, although the layout is made before the
slots are. A template has one image, so a compiler makes it of every template that is well formed,
and makes nothing else.
-/

namespace ChatPrompt

namespace Blueprint.Compilation

open Template

variable {α β : Type} {allowed : Option (List String)}

/-- What a part of a compilation makes satisfies a condition where it notes no issue. -/
def Makes (compilation : Compilation α) (Q : α → Prop) : Prop :=
  ∀ progress : Progress, progress.leaves.IsFaithful →
    (compilation progress).2.issues = progress.issues → Q (compilation progress).1

/-- Something is made and satisfies a condition where no issue is noted. -/
abbrev Gives (compilation : Compilation (Option α)) (Q : α → Prop) : Prop :=
  Makes compilation fun made => ∃ found, made = some found ∧ Q found

/-- What is checked holds together with what is known of the part that is made. -/
theorem Checks.makes {compilation : Compilation α} {C : Prop} {parts : List Part} {Q : α → Prop}
    (h : Checks allowed compilation C parts Q) : Makes compilation fun made => C ∧ Q made :=
  fun progress hleaves hnone =>
    ⟨((h.issues_eq_iff progress hleaves).1 hnone).1, h.returns progress hleaves hnone⟩

theorem makes_pure {Q : α → Prop} {value : α} (h : Q value) :
    Makes (pure value : Compilation α) Q := fun _ _ _ => h

/-- Two parts one after the other, of which the second relies on what the first makes. -/
theorem Makes.bind {first : Compilation α} {next : α → Compilation β} {Q : α → Prop}
    {R : β → Prop} (hfirst : Makes first Q) (hgrows : Grows first)
    (hlater : ∀ value, Grows (next value)) (hnext : ∀ value, Q value → Makes (next value) R) :
    Makes (first >>= next) R := by
  intro progress hleaves hall
  obtain ⟨hfaithful, hissues⟩ := hgrows progress hleaves
  obtain ⟨-, hmore⟩ := hlater (first progress).1 (first progress).2 hfaithful
  -- no issue is noted altogether, so none is noted by the first part
  have hone : (first progress).2.issues = progress.issues :=
    (hissues.eq_of_length_le (hall ▸ hmore.length_le)).symm
  exact hnext _ (hfirst progress hleaves hone) _ hfaithful (hall.trans hone.symm)

theorem Makes.map {first : Compilation α} {Q : α → Prop} {R : β → Prop} (f : α → β)
    (hfirst : Makes first Q) (hmade : ∀ value, Q value → R (f value)) :
    Makes (first >>= fun value => pure (f value)) R :=
  fun progress hleaves hall => hmade _ (hfirst progress hleaves hall)

theorem Gives.map {first : Compilation (Option α)} {Q : α → Prop} {R : β → Prop} {f : α → β}
    (hfirst : Gives first Q) (hmade : ∀ value, Q value → R (f value)) :
    Gives (first >>= fun made => pure (made.map f)) R := by
  refine Makes.map _ hfirst ?_
  rintro _ ⟨found, rfl, hfound⟩
  exact ⟨f found, rfl, hmade found hfound⟩

/-- A part of which nothing needs to be known comes first. -/
theorem makes_of_bind {first : Compilation α} {next : α → Compilation β} {R : β → Prop}
    (hgrows : Grows first) (hlater : ∀ value, Grows (next value))
    (hnext : ∀ value, Makes (next value) R) : Makes (first >>= next) R :=
  have hfirst : Makes first fun _ => True := fun _ _ _ => trivial
  hfirst.bind hgrows hlater fun value _ => hnext value

/-- Nothing needs to be known of what is made behind an issue. -/
theorem makes_note {next : Unit → Compilation α} {Q : α → Prop} (issue : Issue)
    (hnext : ∀ value, Grows (next value)) : Makes (note issue >>= next) Q := by
  have hchecks : Checks none (note issue >>= next) False [] Q :=
    checks_note issue (fun _ hboth => hboth.1) hnext
  exact hchecks.returns

/-- What is made without an issue in the end satisfies the condition. -/
theorem Makes.of_run {compilation : Compilation α} {Q : α → Prop} (h : Makes compilation Q)
    {leaves : Leaf.Cache} (hleaves : leaves.IsFaithful) {made : α}
    (hrun : (compilation.run leaves).1 = .ok made) : Q made := by
  obtain ⟨hissues, rfl⟩ := run_eq_ok_iff.1 hrun
  exact h ⟨leaves, [], []⟩ hleaves hissues

/-- Taking a leaf keeps up what is known. -/
theorem grows_leaf (here : Location) (source : String) : Grows (leaf here source) :=
  (@covers_leaf none here source).grows

/-- A text is made a leaf. -/
theorem gives_leaf (here : Location) (source : String) :
    Gives (leaf here source) (TextBecomes source) :=
  (@checks_leaf none here source).returns

theorem makes_leaf? (here : Location) (source : Option String) :
    Makes (leaf? here source) (Option.Rel TextBecomes source) := by
  cases source with
  | none => exact makes_pure .none
  | some source =>
    rintro progress hleaves hnone
    obtain ⟨found, hmade, hread⟩ := gives_leaf here source progress hleaves hnone
    rw [leaf?, hmade]
    exact .some hread

theorem gives_path (here : Location) (source : String) :
    Gives (path here source) (PathBecomes source) := by
  rw [path]
  cases hread : Path.ofText source with
  | ok found => exact makes_pure ⟨found, rfl, hread⟩
  | error fault => exact makes_note _ fun _ => grows_pure none

theorem gives_expression (here : Location) (source : String) :
    Gives (expression here source) (ExpressionBecomes source) := by
  rw [expression]
  cases hread : Expr.ofText source with
  | ok found => exact makes_pure ⟨found, rfl, hread⟩
  | error fault => exact makes_note _ fun _ => grows_pure none

mutual

theorem makes_arguments (here : Location) (value : Json) :
    Makes (arguments here value) (ArgumentsBecome value) := by
  cases value with
  | null =>
    rw [arguments]
    · exact makes_pure .null
    all_goals simp
  | bool value =>
    rw [arguments]
    · exact makes_pure (.bool value)
    all_goals simp
  | number value =>
    rw [arguments]
    · exact makes_pure (.number value)
    all_goals simp
  | string source =>
    rw [arguments]
    split
    · next htags =>
      refine Makes.map _ (gives_leaf here source) ?_
      rintro _ ⟨found, rfl, hread⟩
      exact .text htags hread
    · next hplain => exact makes_pure (.plain (Bool.eq_false_iff.2 hplain))
  | array items =>
    rw [arguments]
    exact (makes_argumentItems here 0 items).map _ fun _ hitems => .array hitems
  | object fields =>
    rw [arguments]
    exact (makes_argumentFields here fields).map _ fun _ hfields => .object hfields.1 hfields.2

theorem makes_argumentItems (here : Location) (position : Nat) (items : List Json) :
    Makes (argumentItems here position items) (List.Forall₂ ArgumentsBecome items) := by
  cases items with
  | nil =>
    rw [argumentItems]
    exact makes_pure .nil
  | cons item rest =>
    rw [argumentItems]
    refine (makes_arguments _ item).bind (@covers_arguments none _ item).grows
      (fun _ => (@covers_argumentItems none here _ rest).grows.bind fun _ => grows_pure _) ?_
    exact fun first hfirst => (makes_argumentItems here _ rest).map _
      fun others hothers => .cons hfirst hothers

/-- Named arguments are made their image, under the same names. -/
theorem makes_argumentFields (here : Location) (fields : Json.Fields) :
    Makes (argumentFields here fields) fun made =>
      made.map Prod.fst = fields.map Prod.fst ∧
        List.Forall₂ ArgumentsBecome (fields.map Prod.snd) (made.map Prod.snd) := by
  cases fields with
  | nil =>
    rw [argumentFields]
    exact makes_pure ⟨rfl, .nil⟩
  | cons field rest =>
    obtain ⟨key, value⟩ := field
    rw [argumentFields]
    refine (makes_arguments _ value).bind (@covers_arguments none _ value).grows
      (fun _ => (@covers_argumentFields none here rest).grows.bind fun _ => grows_pure _) ?_
    exact fun first hfirst => (makes_argumentFields here rest).map _
      fun others hothers => ⟨congrArg (key :: ·) hothers.1, .cons hfirst hothers.2⟩

end

/-- What a reference reads from is made its image. -/
theorem gives_target (here : Location) (source way : Option String) :
    Gives (target allowed here source way) (TargetBecomes source way) := by
  cases source with
  | none =>
    cases way with
    | none => exact makes_note _ fun _ => grows_pure none
    | some way => exact Gives.map (gives_path _ way) fun _ hread => .scope hread
  | some name =>
    have hsource : Covers allowed (checkSource allowed here name) [.target (some name) way] :=
      covers_checkSource here name way
    cases way with
    | none =>
      exact makes_of_bind hsource.grows (fun _ => grows_pure _)
        fun _ => makes_pure ⟨_, rfl, .whole name⟩
    | some way =>
      refine makes_of_bind hsource.grows
        (fun _ => (@covers_path none _ way).grows.bind fun _ => grows_pure _) fun _ => ?_
      exact Gives.map (gives_path _ way) fun _ hread => .drill hread

theorem gives_reference (here : Location) (source : Template.Reference) :
    Gives (reference allowed here source) source.Becomes := by
  rw [reference]
  refine (makes_arguments _ source.args).bind (@covers_arguments none _ source.args).grows
    (fun _ => (covers_target here source.source source.path).grows.bind fun _ => grows_pure _) ?_
  exact fun arguments harguments => Gives.map (gives_target here source.source source.path)
    fun target htarget => ⟨htarget, harguments⟩

mutual

theorem gives_condition (here : Location) (test : Template.Condition) :
    Gives (condition allowed here test) test.Becomes := by
  cases test with
  | present target =>
    rw [condition]
    exact Gives.map (gives_reference _ target) fun _ htarget => .present htarget
  | nonEmpty target =>
    rw [condition]
    exact Gives.map (gives_reference _ target) fun _ htarget => .nonEmpty htarget
  | compare target op value =>
    rw [condition]
    exact Gives.map (gives_reference _ target) fun _ htarget => .compare op value htarget
  | expression source =>
    rw [condition]
    exact Gives.map (gives_expression _ source) fun _ hread => .expression hread
  | all conditions =>
    rw [condition]
    exact Gives.map (gives_conditionList _ 0 conditions) fun _ hmade => .all hmade
  | any conditions =>
    rw [condition]
    exact Gives.map (gives_conditionList _ 0 conditions) fun _ hmade => .any hmade
  | negation inner =>
    rw [condition]
    exact Gives.map (gives_condition _ inner) fun _ hinner => .negation hinner

theorem gives_conditionList (here : Location) (position : Nat)
    (conditions : List Template.Condition) :
    Gives (conditionList allowed here position conditions)
      (List.Forall₂ Template.Condition.Becomes conditions) := by
  cases conditions with
  | nil =>
    rw [conditionList]
    exact makes_pure ⟨[], rfl, .nil⟩
  | cons first rest =>
    rw [conditionList]
    refine (gives_condition _ first).bind (covers_condition _ first).grows
      (fun _ => (covers_conditionList here _ rest).grows.bind fun _ => grows_pure _) ?_
    rintro _ ⟨first, rfl, hfirst⟩
    refine Makes.map _ (gives_conditionList here _ rest) ?_
    rintro _ ⟨others, rfl, hothers⟩
    exact ⟨first :: others, rfl, .cons hfirst hothers⟩

end

theorem makes_condition? (here : Location) (test : Option Template.Condition) :
    Makes (condition? allowed here test) (Option.Rel Template.Condition.Becomes test) := by
  cases test with
  | none => exact makes_pure .none
  | some test =>
    intro progress hleaves hnone
    obtain ⟨found, hmade, hfound⟩ := gives_condition here test progress hleaves hnone
    rw [condition?, hmade]
    exact .some hfound

theorem makes_frame? (here : Location) (frame : Option Template.Frame) :
    Makes (frame? here frame) (Option.Rel Template.Frame.Becomes frame) := by
  cases frame with
  | none => exact makes_pure .none
  | some frame =>
    refine Makes.map _ (gives_leaf here frame.content) ?_
    rintro _ ⟨found, rfl, hread⟩
    exact .some ⟨rfl, hread⟩

theorem gives_content (here : Location) (own : Option String)
    (source : Option Template.Reference) :
    Gives (content allowed here own source) (ContentBecomes own source) := by
  cases own with
  | none =>
    cases source with
    | none => exact makes_note _ fun _ => grows_pure none
    | some source => exact Gives.map (gives_reference _ source) fun _ hsource => .value hsource
  | some own =>
    cases source with
    | none => exact Gives.map (gives_leaf _ own) fun _ hread => .text hread
    | some source => exact makes_note _ fun _ => grows_pure none

/-- A key that is met is made what it was read as. -/
theorem gives_meetKey (here : Location) (key : String) (leaf : Leaf) :
    Gives (meetKey here key leaf) (· = leaf) := by
  intro progress _ hnone
  rw [meetKey_apply] at hnone ⊢
  split at hnone
  · simp at hnone
  · next hnew =>
    rw [if_neg hnew]
    exact ⟨leaf, rfl, rfl⟩

/-- A key that is kept is made what it was read as. -/
theorem gives_keepAnchor (here : Location) (inLoop : Bool) (key : String) (leaf : Leaf) :
    Gives (keepAnchor here inLoop key leaf) (· = leaf) := by
  rw [keepAnchor]
  split
  · exact makes_pure ⟨leaf, rfl, rfl⟩
  · split
    · exact makes_note _ fun _ => grows_pure none
    · exact gives_meetKey here key leaf

theorem gives_anchor? (here : Location) (inLoop : Bool) (key : Option String) :
    Gives (anchor? here inLoop key) (Option.Rel TextBecomes key) := by
  cases key with
  | none => exact makes_pure ⟨none, rfl, .none⟩
  | some key =>
    have hanchor : Gives (anchor here inLoop key) (TextBecomes key) := by
      rw [anchor_eq]
      refine (gives_leaf here key).bind (grows_leaf here key) ?_ ?_
      · intro found
        cases found with
        | none => exact grows_pure none
        | some leaf => exact grows_keepAnchor here inLoop key leaf
      · rintro _ ⟨leaf, rfl, hread⟩ progress hleaves hnone
        obtain ⟨_, hmade, rfl⟩ := gives_keepAnchor here inLoop key leaf progress hleaves hnone
        exact ⟨_, hmade, hread⟩
    exact Gives.map hanchor fun _ hread => .some hread

theorem gives_layoutMessage (here : Location) (details : LayoutMessage) :
    Gives (layoutMessage allowed here details) details.Becomes := by
  have hcontent : Covers allowed (content allowed here details.content details.source) _ :=
    covers_content here details.content details.source
  have hanchor : Covers allowed (anchor? (here.field "anchor") false details.anchor) _ :=
    covers_anchor? _ false details.anchor
  rw [layoutMessage]
  split
  · exact makes_note _ fun _ => hcontent.grows.bind fun _ => hanchor.grows.bind fun _ =>
      grows_pure _
  · refine (gives_content here details.content details.source).bind hcontent.grows
      (fun _ => hanchor.grows.bind fun _ => grows_pure _) ?_
    rintro _ ⟨content, rfl, hcontent⟩
    refine Makes.map _ (gives_anchor? _ false details.anchor) ?_
    rintro _ ⟨anchor, rfl, hanchor⟩
    exact ⟨_, rfl, rfl, hcontent, rfl, hanchor, rfl⟩

theorem gives_planMessage (here : Location) (inLoop : Bool) (details : PlanMessage) :
    Gives (planMessage allowed here inLoop details) details.Becomes := by
  rw [planMessage]
  refine (gives_content here details.content details.source).bind (covers_content here _ _).grows
    (fun _ => (@covers_anchor? none _ inLoop details.anchor).grows.bind fun _ => grows_pure _) ?_
  rintro _ ⟨content, rfl, hcontent⟩
  refine Makes.map _ (gives_anchor? _ inLoop details.anchor) ?_
  rintro _ ⟨anchor, rfl, hanchor⟩
  exact ⟨_, rfl, rfl, hcontent, rfl, hanchor, rfl⟩

theorem gives_sortBy? (here : Location) (source : Option String) :
    Gives (sortBy? here source) (Option.Rel PathBecomes source) := by
  cases source with
  | none => exact makes_pure ⟨none, rfl, .none⟩
  | some source => exact Gives.map (gives_path here source) fun _ hread => .some hread

mutual

theorem gives_planNode (here : Location) (inLoop : Bool) (node : Template.PlanNode) :
    Gives (planNode allowed here inLoop node) node.Becomes := by
  cases node with
  | message details =>
    rw [planNode]
    exact Gives.map (gives_planMessage here inLoop details) fun _ hdetails => .message hdetails
  | forEach header body =>
    rw [planNode]
    have hbody : ∀ place, Covers allowed (planFrom allowed place true 0 body) _ :=
      fun place => covers_planFrom place true 0 body
    have hseparator : ∀ place, Grows (frame? place header.separator) :=
      fun place => (@covers_frame? none place header.separator).grows
    refine (gives_reference _ header.source).bind (covers_reference _ _).grows ?_ ?_
    -- also a loop that is given up in the middle keeps up what is known
    · refine fun source => (@checks_sortBy? none _ header.sortBy).grows.bind fun sortBy => ?_
      cases sortBy with
      | none => exact grows_pure none
      | some sortBy => exact (hbody _).grows.bind fun _ => (hseparator _).bind fun _ => grows_pure _
    · rintro _ ⟨source, rfl, hsource⟩
      refine (gives_sortBy? _ header.sortBy).bind (@checks_sortBy? none _ _).grows ?_ ?_
      · intro sortBy
        cases sortBy with
        | none => exact grows_pure none
        | some sortBy =>
          exact (hbody _).grows.bind fun _ => (hseparator _).bind fun _ => grows_pure _
      · rintro _ ⟨sortBy, rfl, hsortBy⟩
        refine (makes_planFrom _ true 0 body).bind (hbody _).grows
          (fun _ => (hseparator _).bind fun _ => grows_pure _) fun body hmade => ?_
        refine Makes.map _ (makes_frame? _ header.separator) fun separator hframe => ?_
        exact ⟨_, rfl, .forEach ⟨hsource, rfl, hsortBy, rfl, rfl, hframe, rfl, rfl⟩ hmade⟩
  | branch test whenTrue whenFalse =>
    rw [planNode]
    have htrue : Covers allowed (planFrom allowed (here.field "then") inLoop 0 whenTrue) _ :=
      covers_planFrom _ inLoop 0 whenTrue
    have hfalse : Covers allowed (planFrom allowed (here.field "else") inLoop 0 whenFalse) _ :=
      covers_planFrom _ inLoop 0 whenFalse
    refine (gives_condition _ test).bind (covers_condition _ test).grows
      (fun _ => htrue.grows.bind fun _ => hfalse.grows.bind fun _ => grows_pure _) ?_
    rintro _ ⟨test, rfl, htest⟩
    refine (makes_planFrom _ inLoop 0 whenTrue).bind htrue.grows
      (fun _ => hfalse.grows.bind fun _ => grows_pure _) fun whenTrue hmade => ?_
    refine Makes.map _ (makes_planFrom _ inLoop 0 whenFalse) fun whenFalse hother => ?_
    exact ⟨_, rfl, .branch htest hmade hother⟩

/-- The steps of a plan are made their images, one for each. -/
theorem makes_planFrom (here : Location) (inLoop : Bool) (position : Nat)
    (nodes : List Template.PlanNode) :
    Makes (planFrom allowed here inLoop position nodes)
      (List.Forall₂ Template.PlanNode.Becomes nodes) := by
  cases nodes with
  | nil =>
    rw [planFrom]
    exact makes_pure .nil
  | cons node rest =>
    rw [planFrom]
    refine (gives_planNode _ inLoop node).bind (covers_planNode _ inLoop node).grows
      (fun _ => (covers_planFrom here inLoop _ rest).grows.bind fun _ => grows_pure _) ?_
    rintro _ ⟨first, rfl, hfirst⟩
    exact (makes_planFrom here inLoop _ rest).map _ fun others hothers => .cons hfirst hothers

end

/-- The groups of a lane are made their images, one for each. -/
theorem makes_laneGroups (here : Location) (position : Nat) (met : List String)
    (groups : List Template.LaneGroup) :
    Makes (laneGroups here position met groups)
      (List.Forall₂ Template.LaneGroup.Becomes groups) := by
  induction groups generalizing position met with
  | nil => exact makes_pure .nil
  | cons group rest ih =>
    have hrest : ∀ met, Grows (laneGroups here (position + 1) met rest) :=
      fun met => (@checks_laneGroups none here _ met rest).grows
    have hclosing : ∀ place, Grows (leaf? place group.closing) :=
      fun place => (@covers_leaf? none place group.closing).grows
    rw [laneGroups]
    split
    · exact makes_note _ fun _ => hrest _
    · refine (makes_leaf? _ group.opening).bind (@covers_leaf? none _ group.opening).grows
        (fun _ => (hclosing _).bind fun _ => (hrest _).bind fun _ => grows_pure _)
        fun opening hopening => ?_
      refine (makes_leaf? _ group.closing).bind (hclosing _)
        (fun _ => (hrest _).bind fun _ => grows_pure _) fun closing hmade => ?_
      exact (ih _ _).map _ fun others hothers => .cons ⟨rfl, hopening, hmade⟩ hothers

theorem gives_lane (here : Location) (source : Template.Lane) :
    Gives (lane here source) source.Becomes := by
  have hgroups : Grows (laneGroups (here.field "groups") 0 [] source.groups) :=
    (@checks_laneGroups none _ 0 [] source.groups).grows
  rw [lane]
  refine (gives_leaf _ source.template).bind (grows_leaf _ _)
    (fun _ => hgroups.bind fun _ => grows_pure _) ?_
  rintro _ ⟨template, rfl, htemplate⟩
  refine (makes_laneGroups _ 0 [] source.groups).map _ fun groups hmade => ?_
  exact ⟨_, rfl, rfl, rfl, rfl, htemplate, rfl, hmade, rfl⟩

/-- The lanes are made their images, one for each. -/
theorem makes_lanes (position : Nat) (met : List String) (sources : List Template.Lane) :
    Makes (lanes position met sources) (List.Forall₂ Template.Lane.Becomes sources) := by
  induction sources generalizing position met with
  | nil => exact makes_pure .nil
  | cons source rest ih =>
    have hrest : ∀ met, Grows (lanes (position + 1) met rest) :=
      fun met => (@checks_lanes none _ met rest).grows
    rw [lanes]
    split
    · exact makes_note _ fun _ => hrest _
    · refine (gives_lane _ source).bind (@checks_lane none _ source).grows
        (fun _ => (hrest _).bind fun _ => grows_pure _) ?_
      rintro _ ⟨made, rfl, hmade⟩
      exact (ih _ _).map _ fun others hothers => .cons hmade hothers

/-- A place of a layout is an element of it, for a slot of its name. -/
theorem exists_of_mem_placesFrom {position : Nat} {layout : List Template.LayoutNode}
    {entry : String × Nat} (h : entry ∈ placesFrom position layout) :
    ∃ index, entry.2 = position + index ∧
      (layout[index]?).bind LayoutNode.slotName? = some entry.1 := by
  induction layout generalizing position with
  | nil => cases h
  | cons node rest ih =>
    have hlater : entry ∈ placesFrom (position + 1) rest →
        ∃ index, entry.2 = position + index ∧
          ((node :: rest)[index]?).bind LayoutNode.slotName? = some entry.1 := by
      intro hin
      obtain ⟨index, hplace, hname⟩ := ih hin
      exact ⟨index + 1, by omega, by simpa using hname⟩
    cases node with
    | message details => exact hlater h
    | slot place =>
      rcases List.mem_cons.1 h with rfl | hin
      · exact ⟨0, rfl, rfl⟩
      · exact hlater hin

/-- An element of a layout is a place for one slot. -/
theorem name_eq_of_mem_placesFrom {position : Nat} {layout : List Template.LayoutNode}
    {entry other : String × Nat} (hentry : entry ∈ placesFrom position layout)
    (hother : other ∈ placesFrom position layout) (hsame : entry.2 = other.2) :
    entry.1 = other.1 := by
  obtain ⟨index, hplace, hname⟩ := exists_of_mem_placesFrom hentry
  obtain ⟨index', hplace', hname'⟩ := exists_of_mem_placesFrom hother
  obtain rfl : index = index' := by omega
  exact Option.some.inj (hname.symm.trans hname')

/-- A place is made its image, if the number is that of the slot of its name. -/
theorem makes_placeholder (here : Location) (number : Nat) (place : Template.Placeholder)
    {made : List Slot} (hslot : (made[number]?).map Slot.name = some place.name) :
    Makes (placeholder here number place)
      (Template.LayoutNode.Becomes made (.slot place)) := by
  have hfooter : ∀ here, Grows (frame? here place.footer) :=
    fun here => (@covers_frame? none here place.footer).grows
  rw [placeholder]
  refine (makes_frame? _ place.header).bind (@covers_frame? none _ place.header).grows
    (fun _ => (hfooter _).bind fun _ => grows_pure _) fun header hheader => ?_
  exact (makes_frame? _ place.footer).map _
    fun footer hmade => .slot rfl hslot hheader hmade rfl

/-- The elements of a layout of which all places count are made their images, one for each,
whatever slots are made of the places afterwards. -/
theorem makes_layoutFrom {placed : List (String × Nat)} {position : Nat}
    {layout : List Template.LayoutNode}
    (hplaced : ∀ entry ∈ placesFrom position layout, entry ∈ placed)
    (hsame : ∀ entry ∈ placed, ∀ other ∈ placed, entry.2 = other.2 → entry.1 = other.1)
    {made : List Slot} (hnames : made.map Slot.name = placed.map Prod.fst) :
    Makes (layoutFrom allowed placed position layout)
      (List.Forall₂ (Template.LayoutNode.Becomes made) layout) := by
  induction layout generalizing position with
  | nil => exact makes_pure .nil
  | cons node rest ih =>
    have hrest : Grows (layoutFrom allowed placed (position + 1) rest) :=
      grows_layoutFrom placed (position + 1) rest
    cases node with
    | message details =>
      rw [layoutFrom]
      refine (gives_layoutMessage _ details).bind (covers_layoutMessage _ details).grows
        (fun _ => hrest.bind fun _ => grows_pure _) ?_
      rintro _ ⟨message, rfl, hdetails⟩
      exact (ih hplaced).map _ fun others hothers => .cons (.message hdetails) hothers
    | slot place =>
      obtain ⟨hthis, hlater⟩ := List.forall_mem_cons.1 hplaced
      rw [layoutFrom]
      split
      · next hnone =>
        rw [List.findIdx?_eq_none_iff] at hnone
        have hout := hnone _ hthis
        simp at hout
      · next number hnumber =>
        -- the place that is found is this one, since no other has its position
        obtain ⟨hlt, hfound, -⟩ := List.findIdx?_eq_some_iff_getElem.1 hnumber
        have hname : placed[number].1 = place.name :=
          hsame _ (List.getElem_mem hlt) _ hthis (eq_of_beq hfound)
        have hslot : (made[number]?).map Slot.name = some place.name := by
          rw [← List.getElem?_map, hnames, List.getElem?_map, List.getElem?_eq_getElem hlt,
            Option.map_some, hname]
        refine (makes_placeholder _ number place hslot).bind
          (@covers_placeholder none _ number place).grows
          (fun _ => hrest.bind fun _ => grows_pure _) fun first hfirst => ?_
        exact (ih hlater).map _ fun others hothers => .cons hfirst hothers

/-- A slot is made of each place for one that exists. -/
theorem makes_slots {specs : List (String × Template.Slot)} {placed : List (String × Nat)}
    (hknown : ∀ entry ∈ placed, entry.1 ∈ specs.map Prod.fst) :
    Makes (slots allowed specs placed) (List.Forall₂ (PlaceBecomes specs) placed) := by
  induction placed with
  | nil => exact makes_pure .nil
  | cons entry rest ih =>
    obtain ⟨name, layoutIndex⟩ := entry
    obtain ⟨hname, hothers⟩ := List.forall_mem_cons.1 hknown
    have hrest : Grows (slots allowed specs rest) := (covers_slots specs rest).grows
    rw [slots]
    cases hspec : specs.lookup name with
    | none => exact absurd hname (isNone_lookup_iff.1 (Option.isNone_iff_eq_none.2 hspec))
    | some spec =>
      have hplan : ∀ place, Covers allowed (planFrom allowed place false 0 spec.plan) _ :=
        fun place => covers_planFrom place false 0 spec.plan
      refine (makes_condition? _ spec.condition).bind (covers_condition? _ spec.condition).grows
        (fun _ => (hplan _).grows.bind fun _ => hrest.bind fun _ => grows_pure _)
        fun test htest => ?_
      refine (makes_planFrom _ false 0 spec.plan).bind (hplan _).grows
        (fun _ => hrest.bind fun _ => grows_pure _) fun plan hmade => ?_
      refine (ih hothers).map _ fun others hothers => .cons ?_ hothers
      exact ⟨rfl, rfl, spec, hspec, rfl, htest, rfl, hmade, rfl⟩

/-- Slots are filled by priority, and those of one priority in the order of their places. -/
theorem pairwise_fillingOrder (slots : List Slot) :
    (fillingOrder slots).Pairwise (FillsBefore slots) := by
  have hnodup : (fillingOrder slots).Nodup :=
    (fillingOrder_perm slots).nodup_iff.2 List.nodup_range
  -- the sort is stable: it is the sort by priority and then by the position in the list of slots
  have hordered : (fillingOrder slots).Pairwise fun first second =>
      ∀ one ∈ slots[first]?, ∀ other ∈ slots[second]?,
        other.priority ≤ one.priority ∧ (other.priority < one.priority ∨ first ≤ second) := by
    have hposition : ∀ entry ∈ slots.zipIdx.zipIdx,
        slots[entry.1.2]? = some entry.1.1 ∧ entry.1.2 = entry.2 := by
      intro entry hentry
      have hin := List.mem_zipIdx_iff_getElem?.1 hentry
      rw [List.getElem?_zipIdx, Option.map_eq_some_iff] at hin
      obtain ⟨slot, hslot, hmade⟩ := hin
      rw [← hmade, Nat.zero_add]
      exact ⟨hslot, rfl⟩
    rw [fillingOrder, ← List.mergeSort_zipIdx, List.map_map, List.pairwise_map]
    refine List.Pairwise.imp_of_mem ?_ (List.pairwise_mergeSort
      (List.zipIdxLE_trans fun _ _ _ hone htwo => ?_) (List.zipIdxLE_total fun _ _ => ?_) _)
    · intro entry entry' hentry hentry' hle one hone other hother
      obtain ⟨hslot, hplace⟩ := hposition entry (List.mem_mergeSort.1 hentry)
      obtain ⟨hslot', hplace'⟩ := hposition entry' (List.mem_mergeSort.1 hentry')
      obtain rfl : entry.1.1 = one := Option.some.inj (hslot.symm.trans hone)
      obtain rfl : entry'.1.1 = other := Option.some.inj (hslot'.symm.trans hother)
      simpa [List.zipIdxLE, hplace, hplace'] using hle
    · exact decide_eq_true (Int32.le_trans (of_decide_eq_true htwo) (of_decide_eq_true hone))
    · simpa using Int32.le_total _ _
  refine (hordered.and hnodup).imp ?_
  rintro first second ⟨hle, hne⟩ one hone other hother
  obtain ⟨hpriority, hlt | hplace⟩ := hle one hone other hother
  · exact .inl hlt
  · by_cases hback : one.priority ≤ other.priority
    · exact .inr ⟨Int32.le_antisymm hback hpriority, Nat.lt_of_le_of_ne hplace hne⟩
    · exact .inl (Int32.not_le.1 hback)

/-- A template is made its image. -/
theorem makes_template (source : Template) : Makes (template allowed source) source.Becomes := by
  have hplaced : Checks allowed (placedSlots source.slots 0 [] source.layout) _ [] _ :=
    checks_placedSlots source.slots 0 [] source.layout
  have hcheck : ∀ placed, Checks allowed (checkPlaced placed source.slots) _ [] fun _ => True :=
    fun placed => checks_checkPlaced placed source.slots
  have hlayout : ∀ placed, Grows (layoutFrom allowed placed 0 source.layout) :=
    fun placed => grows_layoutFrom placed 0 source.layout
  have hslots : ∀ placed, Covers allowed (slots allowed source.slots placed) _ :=
    covers_slots source.slots
  have hlanes : Checks allowed (lanes 0 [] source.attachments) _ _ _ :=
    checks_lanes 0 [] source.attachments
  have hnames := names_placesFrom 0 source.layout
  rw [template]
  refine hplaced.makes.bind hplaced.grows ?_ ?_
  · exact fun placed => (hcheck placed).grows.bind fun _ => (hlayout placed).bind fun _ =>
      (hslots placed).grows.bind fun _ => hlanes.grows.bind fun _ => grows_pure _
  rintro _ ⟨⟨hknown, hnew⟩, rfl⟩
  refine (hcheck _).makes.bind (hcheck _).grows (fun _ => (hlayout _).bind fun _ =>
    (hslots _).grows.bind fun _ => hlanes.grows.bind fun _ => grows_pure _) ?_
  rintro _ ⟨hall, -⟩
  -- the layout is made before the slots that its places point at
  have hplaces : Makes (layoutFrom allowed (placesFrom 0 source.layout) 0 source.layout)
      fun layout => ∀ made : List Slot,
        made.map Slot.name = (placesFrom 0 source.layout).map Prod.fst →
          List.Forall₂ (Template.LayoutNode.Becomes made) source.layout layout :=
    fun progress hleaves hnone made hmade => makes_layoutFrom (fun _ hentry => hentry)
      (fun _ hentry _ hother => name_eq_of_mem_placesFrom hentry hother) hmade
      progress hleaves hnone
  refine hplaces.bind (hlayout _) (fun _ => (hslots _).grows.bind fun _ =>
    hlanes.grows.bind fun _ => grows_pure _) fun layout hlayout => ?_
  have hspecs : ∀ entry ∈ placesFrom 0 source.layout, entry.1 ∈ source.slots.map Prod.fst :=
    fun entry hentry => hknown _ (hnames ▸ List.mem_map_of_mem hentry)
  refine (makes_slots hspecs).bind (hslots _).grows
    (fun _ => hlanes.grows.bind fun _ => grows_pure _) fun slots hmade => ?_
  refine (makes_lanes 0 [] source.attachments).map _ fun lanes hlanes => ?_
  have hmadeNames := names_eq_of_places hmade
  refine ⟨rfl, rfl, rfl, rfl, hlayout slots hmadeNames, hmade, fun name hname => ?_,
    fillingOrder_perm slots, pairwise_fillingOrder slots, hlanes⟩
  rw [hmadeNames]
  refine List.count_eq_one_of_mem ?_ (hall name hname)
  rw [hnames]
  exact areNew_nil_iff.1 hnew

end Blueprint.Compilation

open Blueprint.Compilation in
/-- What a compiler makes of a template is its image. -/
theorem Compiler.IsReached.becomes {compiler : Compiler} (h : compiler.IsReached)
    {allowed : Option (List String)} {template : Template} {blueprint : Blueprint}
    (hcompile : (compiler.compileAllowing allowed template).1 = .ok blueprint) :
    template.Becomes blueprint :=
  (makes_template template).of_run h.isFaithful hcompile

open Blueprint.Compilation in
/-- A compiler makes something of a template where it is well formed. -/
theorem Compiler.IsReached.makes_iff {compiler : Compiler} (h : compiler.IsReached)
    (allowed : Option (List String)) (template : Template) :
    (∃ blueprint, (compiler.compileAllowing allowed template).1 = .ok blueprint) ↔
      template.IsWellFormed allowed :=
  (run_isOk_iff (checks_template template) h.isFaithful).trans isWellFormed_iff

/-- What a compiler makes of a template is its image, whatever it has read before: it makes a
blueprint exactly where the template is well formed and the blueprint is what it becomes. -/
theorem Compiler.compile_eq_ok_iff {compiler : Compiler} (h : compiler.IsReached)
    (allowed : Option (List String)) (template : Template) (blueprint : Blueprint) :
    (compiler.compileAllowing allowed template).1 = .ok blueprint ↔
      template.IsWellFormed allowed ∧ template.Becomes blueprint := by
  constructor
  · intro hcompile
    exact ⟨(h.makes_iff allowed template).1 ⟨blueprint, hcompile⟩, h.becomes hcompile⟩
  · rintro ⟨hformed, hbecomes⟩
    obtain ⟨made, hmade⟩ := (h.makes_iff allowed template).2 hformed
    rw [hmade, (h.becomes hmade).unique hbecomes]

/-- The sample becomes its blueprint, and no blueprint with its slot left out. -/
theorem Compiler.compile_eq_ok_iff_sample :
    Sample.template.Becomes Sample.blueprint ∧
      ¬ Sample.template.Becomes { Sample.blueprint with slots := [] } := by
  have hcompile : ((Compiler.fresh none).compileAllowing none Sample.template).1 =
      .ok Sample.blueprint := by cbv
  have hboth := (Compiler.compile_eq_ok_iff (.fresh none) none Sample.template _).1 hcompile
  refine ⟨hboth.2, fun hother => ?_⟩
  have hagain := (Compiler.compile_eq_ok_iff (.fresh none) none Sample.template _).2
    ⟨hboth.1, hother⟩
  have hslots := congrArg Blueprint.slots (Except.ok.inj (hagain.symm.trans hcompile))
  cases hslots

end ChatPrompt
