import ChatPrompt.Proofs.Acceptance
import Mathlib.Data.List.Forall2
import Mathlib.Data.Option.Basic

/-!
# What a template becomes

The blueprint of a template, said without a compiler, a cache or a list of issues: a relation
between a part of a template and a part of a blueprint, one for each kind of part and with one case
for each form of it. Lists are related element by element, so nothing can be left out, added or put
in another place. Only the numbers of the slots and the order in which these are filled do not come
from one part alone.

A part has at most one image.
-/

namespace ChatPrompt

namespace Template

open Blueprint (Arguments Target Content)

/-- A text becomes the leaf that it is read as. -/
def TextBecomes (source : String) (made : Leaf) : Prop := Leaf.ofText source = .ok made

/-- A text becomes the path that it is read as. -/
def PathBecomes (source : String) (made : Path) : Prop := Path.ofText source = .ok made

/-- A text becomes the expression that it is read as. -/
def ExpressionBecomes (source : String) (made : Expr) : Prop := Expr.ofText source = .ok made

/-- Arguments stay as they are, except for the texts in them that hold tags. -/
inductive ArgumentsBecome : Json → Arguments → Prop where
  /-- Nothing. -/
  | null : ArgumentsBecome .null (.literal .null)
  /-- A truth value. -/
  | bool (value : Bool) : ArgumentsBecome (.bool value) (.literal (.bool value))
  /-- A number. -/
  | number (value : Json.Numeral) : ArgumentsBecome (.number value) (.literal (.number value))
  /-- A text without tags. -/
  | plain {source : String} (hplain : Leaf.isTemplated source = false) :
    ArgumentsBecome (.string source) (.literal (.string source))
  /-- A text with tags. -/
  | text {source : String} {made : Leaf} (htags : Leaf.isTemplated source = true)
    (hread : TextBecomes source made) : ArgumentsBecome (.string source) (.text made)
  /-- A sequence. -/
  | array {items : List Json} {made : List Arguments}
    (hitems : List.Forall₂ ArgumentsBecome items made) :
    ArgumentsBecome (.array items) (.array made)
  /-- Named arguments. -/
  | object {fields : Json.Fields} {made : List (String × Arguments)}
    (hnames : made.map Prod.fst = fields.map Prod.fst)
    (hvalues : List.Forall₂ ArgumentsBecome (fields.map Prod.snd) (made.map Prod.snd)) :
    ArgumentsBecome (.object fields) (.object made)

/-- The name of a source and a path become what a reference reads from. -/
inductive TargetBecomes : Option String → Option String → Target → Prop where
  /-- All of what a source answers. -/
  | whole (name : String) : TargetBecomes (some name) none (.source name [])
  /-- A part of what a source answers. -/
  | drill {name way : String} {path : Path} (hread : PathBecomes way path) :
    TargetBecomes (some name) (some way) (.source name path.asSteps)
  /-- A part of the scope. -/
  | scope {way : String} {path : Path} (hread : PathBecomes way path) :
    TargetBecomes none (some way) (.scope path)

/-- A reference and its image. -/
structure Reference.Becomes (source : Reference) (made : Blueprint.Reference) : Prop where
  /-- It reads from what its source and its path name. -/
  target : TargetBecomes source.source source.path made.target
  /-- It asks with its arguments. -/
  arguments : ArgumentsBecome source.args made.arguments

/-- A condition and its image. -/
inductive Condition.Becomes : Condition → Blueprint.Condition → Prop where
  /-- There is a value. -/
  | present {target : Reference} {made : Blueprint.Reference} (htarget : target.Becomes made) :
    Becomes (.present target) (.present made)
  /-- There is content. -/
  | nonEmpty {target : Reference} {made : Blueprint.Reference} (htarget : target.Becomes made) :
    Becomes (.nonEmpty target) (.nonEmpty made)
  /-- A comparison keeps operator and literal. -/
  | compare {target : Reference} {made : Blueprint.Reference} (op : Value.Comparison)
    (value : Json) (htarget : target.Becomes made) :
    Becomes (.compare target op value) (.compare made op value)
  /-- An expression is read. -/
  | expression {source : String} {expr : Expr} (hread : ExpressionBecomes source expr) :
    Becomes (.expression source) (.expression expr)
  /-- Every one of some conditions. -/
  | all {conditions : List Condition} {made : List Blueprint.Condition}
    (hconditions : List.Forall₂ Condition.Becomes conditions made) :
    Becomes (.all conditions) (.all made)
  /-- One of some conditions. -/
  | any {conditions : List Condition} {made : List Blueprint.Condition}
    (hconditions : List.Forall₂ Condition.Becomes conditions made) :
    Becomes (.any conditions) (.any made)
  /-- A negation. -/
  | negation {inner : Condition} {made : Blueprint.Condition} (hinner : inner.Becomes made) :
    Becomes (.negation inner) (.negation made)

/-- A frame and its image. -/
structure Frame.Becomes (source : Frame) (made : Blueprint.Frame) : Prop where
  /-- Who speaks stays. -/
  role_eq : made.role = source.role
  /-- What is said is read. -/
  content : TextBecomes source.content made.content

/-- What a message says and its image. -/
inductive ContentBecomes : Option String → Option Reference → Content → Prop where
  /-- A text of its own. -/
  | text {own : String} {made : Leaf} (hread : TextBecomes own made) :
    ContentBecomes (some own) none (.text made)
  /-- A value. -/
  | value {source : Reference} {made : Blueprint.Reference} (hsource : source.Becomes made) :
    ContentBecomes none (some source) (.value made)

/-- The fields of a message and its image. -/
structure MessageBecomes (role : Role) (content : Option String) (source : Option Reference)
    (openEnded : Bool) (anchor : Option String) (budget : Option Tokens)
    (made : Blueprint.Message) : Prop where
  /-- Who speaks stays. -/
  role_eq : made.role = role
  /-- It says the image of what was to be said. -/
  content : ContentBecomes content source made.content
  /-- Whether the model is to continue stays. -/
  openEnded_eq : made.openEnded = openEnded
  /-- The key is read. -/
  anchor : Option.Rel TextBecomes anchor made.anchor
  /-- The limit stays. -/
  budget_eq : made.budget = budget

/-- A message of the layout and its image, which has no limit. -/
abbrev LayoutMessage.Becomes (source : LayoutMessage) : Blueprint.Message → Prop :=
  MessageBecomes source.role source.content source.source source.openEnded source.anchor none

/-- A message of a plan and its image, which is not for the model to continue. -/
abbrev PlanMessage.Becomes (source : PlanMessage) : Blueprint.Message → Prop :=
  MessageBecomes source.role source.content source.source false source.anchor source.budget

/-- How a loop runs and its image. -/
structure Loop.Becomes (source : Loop) (made : Blueprint.Loop) : Prop where
  /-- The items come from the same place. -/
  items : source.source.Becomes made.source
  /-- The order stays. -/
  order_eq : made.order = source.order
  /-- The path to sort by is read. -/
  sortBy : Option.Rel PathBecomes source.sortBy made.sortBy
  /-- The number of items stays. -/
  limit_eq : made.limit = source.limit
  /-- The place of the messages stays. -/
  filling_eq : made.filling = source.filling
  /-- The message between items is read. -/
  separator : Option.Rel Frame.Becomes source.separator made.separator
  /-- The limit stays. -/
  budget_eq : made.budget = source.budget
  /-- Whether the loop ends at what does not fit stays. -/
  stopsWhenFull_eq : made.stopsWhenFull = source.stopsWhenFull

/-- A step of a plan and its image. -/
inductive PlanNode.Becomes : PlanNode → Blueprint.PlanNode → Prop where
  /-- A message. -/
  | message {details : PlanMessage} {made : Blueprint.Message} (hdetails : details.Becomes made) :
    Becomes (.message details) (.message made)
  /-- A loop. -/
  | forEach {header : Loop} {madeHeader : Blueprint.Loop} {body : List PlanNode}
    {made : List Blueprint.PlanNode} (hheader : header.Becomes madeHeader)
    (hbody : List.Forall₂ PlanNode.Becomes body made) :
    Becomes (.forEach header body) (.forEach madeHeader made)
  /-- A branch. -/
  | branch {test : Condition} {madeTest : Blueprint.Condition} {whenTrue whenFalse : List PlanNode}
    {madeTrue madeFalse : List Blueprint.PlanNode} (htest : test.Becomes madeTest)
    (htrue : List.Forall₂ PlanNode.Becomes whenTrue madeTrue)
    (hfalse : List.Forall₂ PlanNode.Becomes whenFalse madeFalse) :
    Becomes (.branch test whenTrue whenFalse) (.branch madeTest madeTrue madeFalse)

/-- A slot and its image, apart from its name and its place. -/
structure Slot.Becomes (source : Slot) (made : Blueprint.Slot) : Prop where
  /-- The priority stays. -/
  priority_eq : made.priority = source.priority
  /-- The condition is read. -/
  condition : Option.Rel Condition.Becomes source.condition made.condition
  /-- The limit stays. -/
  budget_eq : made.budget = source.budget
  /-- The steps are those of the plan, one for each. -/
  plan : List.Forall₂ PlanNode.Becomes source.plan made.plan
  /-- The data of the author stay. -/
  metadata_eq : made.metadata = source.metadata

/-- The place of a slot, which is a name and the number of an element of the layout, and the
image of the slot that is kept under the name. -/
structure PlaceBecomes (slots : List (String × Slot)) (place : String × Nat)
    (made : Blueprint.Slot) : Prop where
  /-- The slot has the name. -/
  name_eq : made.name = place.1
  /-- The slot fills the element. -/
  layoutIndex_eq : made.layoutIndex = place.2
  /-- The slot is made of what is kept under the name. -/
  spec : ∃ spec, slots.lookup place.1 = some spec ∧ spec.Becomes made

/-- An element of the layout and its image, given the slots of the blueprint. -/
inductive LayoutNode.Becomes (slots : List Blueprint.Slot) :
    LayoutNode → Blueprint.LayoutNode → Prop where
  /-- A message. -/
  | message {details : LayoutMessage} {made : Blueprint.Message} (hdetails : details.Becomes made) :
    Becomes slots (.message details) (.message made)
  /-- A place, which points at the slot of its name. -/
  | slot {place : Placeholder} {made : Blueprint.Placeholder} (hname : made.name = place.name)
    (hslot : (slots[made.slot]?).map Blueprint.Slot.name = some place.name)
    (hheader : Option.Rel Frame.Becomes place.header made.header)
    (hfooter : Option.Rel Frame.Becomes place.footer made.footer)
    (homit : made.omitIfEmpty = (place.omitIfEmpty != some false)) :
    Becomes slots (.slot place) (.slot made)

/-- A group of a lane and its image. -/
structure LaneGroup.Becomes (source : LaneGroup) (made : Blueprint.LaneGroup) : Prop where
  /-- The name stays. -/
  id_eq : made.id = source.id
  /-- The text before the payloads is read. -/
  opening : Option.Rel TextBecomes source.opening made.opening
  /-- The text after the payloads is read. -/
  closing : Option.Rel TextBecomes source.closing made.closing

/-- A lane and its image. -/
structure Lane.Becomes (source : Lane) (made : Blueprint.Lane) : Prop where
  /-- The name stays. -/
  id_eq : made.id = source.id
  /-- Whether it is used stays. -/
  enabled_eq : made.enabled = source.enabled
  /-- Who speaks stays. -/
  role_eq : made.role = source.role
  /-- The text of a payload is read. -/
  template : TextBecomes source.template made.template
  /-- Its place among the lanes stays. -/
  order_eq : made.order = source.order
  /-- The groups are those of the lane, one for each. -/
  groups : List.Forall₂ LaneGroup.Becomes source.groups made.groups
  /-- What is set aside stays. -/
  reserve_eq : made.reserve = source.reserve

end Template

/-- One slot is filled before another: it has the higher priority, or the same and the earlier
place. -/
def Blueprint.FillsBefore (slots : List Blueprint.Slot) (first second : Nat) : Prop :=
  ∀ one ∈ slots[first]?, ∀ other ∈ slots[second]?,
    other.priority < one.priority ∨ one.priority = other.priority ∧ first < second

open Blueprint.Compilation in
/-- A template and its image. -/
structure Template.Becomes (source : Template) (made : Blueprint) : Prop where
  /-- The identity stays. -/
  id_eq : made.id = source.id
  /-- The task stays. -/
  task_eq : made.task = source.task
  /-- The name stays. -/
  name_eq : made.name = source.name
  /-- The version stays. -/
  version_eq : made.version = source.version
  /-- The elements of the layout are those of the template, one for each. -/
  layout : List.Forall₂ (LayoutNode.Becomes made.slots) source.layout made.layout
  /-- The slots are those that the layout has places for, in the order of the places. -/
  slots : List.Forall₂ (PlaceBecomes source.slots) (placesFrom 0 source.layout) made.slots
  /-- Each slot of the template is there once. -/
  kept_once : ∀ name ∈ source.slots.map Prod.fst,
    (made.slots.map Blueprint.Slot.name).count name = 1
  /-- Each slot is filled once. -/
  order_perm : made.order.Perm (List.range made.slots.length)
  /-- Slots are filled by priority, and those of one priority in the order of their places. -/
  order_sorted : made.order.Pairwise (Blueprint.FillsBefore made.slots)
  /-- The lanes are those of the template, one for each. -/
  lanes : List.Forall₂ Lane.Becomes source.attachments made.lanes

namespace Template

open Relator (RightUnique)

/-- Where there is at most one image of each thing, there is at most one of each optional thing. -/
theorem rightUnique_rel {α β : Type} {R : α → β → Prop} (h : RightUnique R) :
    RightUnique (Option.Rel R) := by
  rintro _ _ _ (⟨hmade⟩ | _) (⟨hother⟩ | _)
  · rw [h hmade hother]
  · rfl

/-- A text is read as one leaf. -/
theorem rightUnique_textBecomes : RightUnique TextBecomes :=
  fun _ _ _ hmade hother => Except.ok.inj (hmade.symm.trans hother)

theorem rightUnique_pathBecomes : RightUnique PathBecomes :=
  fun _ _ _ hmade hother => Except.ok.inj (hmade.symm.trans hother)

theorem rightUnique_expressionBecomes : RightUnique ExpressionBecomes :=
  fun _ _ _ hmade hother => Except.ok.inj (hmade.symm.trans hother)

mutual

theorem ArgumentsBecome.unique {source : Json} {made other : Blueprint.Arguments}
    (hmade : ArgumentsBecome source made) (hother : ArgumentsBecome source other) :
    made = other := by
  cases source with
  | null =>
    cases hmade
    cases hother
    rfl
  | bool value =>
    cases hmade
    cases hother
    rfl
  | number value =>
    cases hmade
    cases hother
    rfl
  | string source =>
    cases hmade with
    | plain hplain =>
      cases hother with
      | plain _ => rfl
      | text htags _ => rw [hplain] at htags; cases htags
    | text htags hread =>
      cases hother with
      | plain hplain => rw [hplain] at htags; cases htags
      | text _ hagain => rw [rightUnique_textBecomes hread hagain]
  | array items =>
    cases hmade with
    | array hitems =>
      cases hother with
      | array hothers => rw [unique_items hitems hothers]
  | object fields =>
    cases hmade with
    | object hnames hvalues =>
      cases hother with
      | object hnames' hvalues' =>
        -- the names and the values together are the fields
        have hsame := unique_values hvalues hvalues'
        exact congrArg Blueprint.Arguments.object
          ((List.zip_of_prod hnames hsame).trans (List.zip_of_prod hnames' rfl).symm)

theorem unique_items {items : List Json} {made other : List Blueprint.Arguments}
    (hmade : List.Forall₂ ArgumentsBecome items made)
    (hother : List.Forall₂ ArgumentsBecome items other) : made = other := by
  cases items with
  | nil =>
    cases hmade
    cases hother
    rfl
  | cons item rest =>
    obtain ⟨⟩ | ⟨hfirst, hrest⟩ := hmade
    obtain ⟨⟩ | ⟨hfirst', hrest'⟩ := hother
    rw [hfirst.unique hfirst', unique_items hrest hrest']

theorem unique_values {fields : Json.Fields} {made other : List Blueprint.Arguments}
    (hmade : List.Forall₂ ArgumentsBecome (fields.map Prod.snd) made)
    (hother : List.Forall₂ ArgumentsBecome (fields.map Prod.snd) other) : made = other := by
  cases fields with
  | nil =>
    cases hmade
    cases hother
    rfl
  | cons field rest =>
    obtain ⟨key, value⟩ := field
    obtain ⟨⟩ | ⟨hfirst, hrest⟩ := hmade
    obtain ⟨⟩ | ⟨hfirst', hrest'⟩ := hother
    rw [ArgumentsBecome.unique hfirst hfirst', unique_values hrest hrest']

end

/-- A reference reads from one place. -/
theorem TargetBecomes.unique {source way : Option String} {made other : Blueprint.Target}
    (hmade : TargetBecomes source way made) (hother : TargetBecomes source way other) :
    made = other := by
  cases hmade with
  | whole name =>
    cases hother
    rfl
  | drill hread =>
    cases hother with
    | drill hagain => rw [rightUnique_pathBecomes hread hagain]
  | scope hread =>
    cases hother with
    | scope hagain => rw [rightUnique_pathBecomes hread hagain]

theorem rightUnique_reference : RightUnique Reference.Becomes := by
  rintro source ⟨target, arguments⟩ ⟨target', arguments'⟩ hmade hother
  rw [Blueprint.Reference.mk.injEq]
  exact ⟨hmade.target.unique hother.target, hmade.arguments.unique hother.arguments⟩

mutual

theorem Condition.Becomes.unique {source : Condition} {made other : Blueprint.Condition}
    (hmade : source.Becomes made) (hother : source.Becomes other) : made = other := by
  cases source with
  | present target =>
    cases hmade with
    | present htarget =>
      cases hother with
      | present hagain => rw [rightUnique_reference htarget hagain]
  | nonEmpty target =>
    cases hmade with
    | nonEmpty htarget =>
      cases hother with
      | nonEmpty hagain => rw [rightUnique_reference htarget hagain]
  | compare target op value =>
    cases hmade with
    | compare _ _ htarget =>
      cases hother with
      | compare _ _ hagain => rw [rightUnique_reference htarget hagain]
  | expression source =>
    cases hmade with
    | expression hread =>
      cases hother with
      | expression hagain => rw [rightUnique_expressionBecomes hread hagain]
  | all conditions =>
    cases hmade with
    | all hconditions =>
      cases hother with
      | all hagain => rw [unique_conditions hconditions hagain]
  | any conditions =>
    cases hmade with
    | any hconditions =>
      cases hother with
      | any hagain => rw [unique_conditions hconditions hagain]
  | negation inner =>
    cases hmade with
    | negation hinner =>
      cases hother with
      | negation hagain => rw [hinner.unique hagain]

theorem unique_conditions {sources : List Condition} {made other : List Blueprint.Condition}
    (hmade : List.Forall₂ Condition.Becomes sources made)
    (hother : List.Forall₂ Condition.Becomes sources other) : made = other := by
  cases sources with
  | nil =>
    cases hmade
    cases hother
    rfl
  | cons source rest =>
    obtain ⟨⟩ | ⟨hfirst, hrest⟩ := hmade
    obtain ⟨⟩ | ⟨hfirst', hrest'⟩ := hother
    rw [hfirst.unique hfirst', unique_conditions hrest hrest']

end

theorem rightUnique_condition : RightUnique Condition.Becomes :=
  fun _ _ _ hmade hother => hmade.unique hother

theorem rightUnique_frame : RightUnique Frame.Becomes := by
  rintro source ⟨role, content⟩ ⟨role', content'⟩ hmade hother
  rw [Blueprint.Frame.mk.injEq]
  exact ⟨hmade.role_eq.trans hother.role_eq.symm,
    rightUnique_textBecomes hmade.content hother.content⟩

theorem ContentBecomes.unique {own : Option String} {source : Option Reference}
    {made other : Blueprint.Content} (hmade : ContentBecomes own source made)
    (hother : ContentBecomes own source other) : made = other := by
  cases hmade with
  | text hread =>
    cases hother with
    | text hagain => rw [rightUnique_textBecomes hread hagain]
  | value hsource =>
    cases hother with
    | value hagain => rw [rightUnique_reference hsource hagain]

theorem MessageBecomes.unique {role : Role} {own : Option String} {source : Option Reference}
    {isOpen : Bool} {key : Option String} {limit : Option Tokens} {made other : Blueprint.Message}
    (hmade : MessageBecomes role own source isOpen key limit made)
    (hother : MessageBecomes role own source isOpen key limit other) : made = other := by
  obtain ⟨role, content, openEnded, anchor, budget⟩ := made
  obtain ⟨role', content', openEnded', anchor', budget'⟩ := other
  rw [Blueprint.Message.mk.injEq]
  exact ⟨hmade.role_eq.trans hother.role_eq.symm, hmade.content.unique hother.content,
    hmade.openEnded_eq.trans hother.openEnded_eq.symm,
    rightUnique_rel rightUnique_textBecomes hmade.anchor hother.anchor,
    hmade.budget_eq.trans hother.budget_eq.symm⟩

/-- How a loop runs has one image. -/
theorem rightUnique_loop : RightUnique Loop.Becomes := by
  rintro source ⟨items, order, sortBy, limit, filling, separator, budget, stopsWhenFull⟩
    ⟨items', order', sortBy', limit', filling', separator', budget', stopsWhenFull'⟩ hmade hother
  rw [Blueprint.Loop.mk.injEq]
  exact ⟨rightUnique_reference hmade.items hother.items,
    hmade.order_eq.trans hother.order_eq.symm,
    rightUnique_rel rightUnique_pathBecomes hmade.sortBy hother.sortBy,
    hmade.limit_eq.trans hother.limit_eq.symm, hmade.filling_eq.trans hother.filling_eq.symm,
    rightUnique_rel rightUnique_frame hmade.separator hother.separator,
    hmade.budget_eq.trans hother.budget_eq.symm,
    hmade.stopsWhenFull_eq.trans hother.stopsWhenFull_eq.symm⟩

mutual

/-- A step of a plan has one image. -/
theorem PlanNode.Becomes.unique {source : PlanNode} {made other : Blueprint.PlanNode}
    (hmade : source.Becomes made) (hother : source.Becomes other) : made = other := by
  cases source with
  | message details =>
    cases hmade with
    | message hdetails =>
      cases hother with
      | message hagain => rw [hdetails.unique hagain]
  | forEach header body =>
    cases hmade with
    | forEach hheader hbody =>
      cases hother with
      | forEach hagain hbody' => rw [rightUnique_loop hheader hagain, unique_plan hbody hbody']
  | branch test whenTrue whenFalse =>
    cases hmade with
    | branch htest htrue hfalse =>
      cases hother with
      | branch hagain htrue' hfalse' =>
        rw [rightUnique_condition htest hagain, unique_plan htrue htrue',
          unique_plan hfalse hfalse']

theorem unique_plan {sources : List PlanNode} {made other : List Blueprint.PlanNode}
    (hmade : List.Forall₂ PlanNode.Becomes sources made)
    (hother : List.Forall₂ PlanNode.Becomes sources other) : made = other := by
  cases sources with
  | nil =>
    cases hmade
    cases hother
    rfl
  | cons source rest =>
    obtain ⟨⟩ | ⟨hfirst, hrest⟩ := hmade
    obtain ⟨⟩ | ⟨hfirst', hrest'⟩ := hother
    rw [hfirst.unique hfirst', unique_plan hrest hrest']

end

/-- A place has one slot. -/
theorem rightUnique_place (slots : List (String × Slot)) : RightUnique (PlaceBecomes slots) := by
  rintro place ⟨name, priority, condition, budget, plan, metadata, layoutIndex⟩
    ⟨name', priority', condition', budget', plan', metadata', layoutIndex'⟩ hmade hother
  obtain ⟨spec, hspec, hslot⟩ := hmade.spec
  obtain ⟨again, hagain, hother'⟩ := hother.spec
  obtain rfl : spec = again := Option.some.inj (hspec.symm.trans hagain)
  rw [Blueprint.Slot.mk.injEq]
  exact ⟨hmade.name_eq.trans hother.name_eq.symm,
    hslot.priority_eq.trans hother'.priority_eq.symm,
    rightUnique_rel rightUnique_condition hslot.condition hother'.condition,
    hslot.budget_eq.trans hother'.budget_eq.symm, unique_plan hslot.plan hother'.plan,
    hslot.metadata_eq.trans hother'.metadata_eq.symm,
    hmade.layoutIndex_eq.trans hother.layoutIndex_eq.symm⟩

/-- The slots have the names of the places that they are made of, in order. -/
theorem names_eq_of_places {slots : List (String × Slot)} {places : List (String × Nat)}
    {made : List Blueprint.Slot} (h : List.Forall₂ (PlaceBecomes slots) places made) :
    made.map Blueprint.Slot.name = places.map Prod.fst := by
  have hnames : List.Forall₂ Eq (places.map Prod.fst) (made.map Blueprint.Slot.name) := by
    rw [List.forall₂_map_left_iff, List.forall₂_map_right_iff]
    exact h.imp fun place slot hslot => hslot.name_eq.symm
  rw [List.forall₂_eq_eq_eq] at hnames
  exact hnames.symm

/-- Two numbers of slots of one name are the same, where no two slots have one name. -/
theorem number_eq {slots : List Blueprint.Slot} (hnodup : (slots.map Blueprint.Slot.name).Nodup)
    {number other : Nat} {name : String}
    (hnumber : (slots[number]?).map Blueprint.Slot.name = some name)
    (hother : (slots[other]?).map Blueprint.Slot.name = some name) : number = other := by
  rw [← List.getElem?_map] at hnumber hother
  obtain ⟨hlt, -⟩ := List.getElem?_eq_some_iff.1 hnumber
  exact (List.getElem?_inj hlt hnodup).1 (hnumber.trans hother.symm)

/-- An element of the layout has one image, where no two slots have one name. -/
theorem rightUnique_layoutNode {slots : List Blueprint.Slot}
    (hnodup : (slots.map Blueprint.Slot.name).Nodup) : RightUnique (LayoutNode.Becomes slots) := by
  intro source made other hmade hother
  cases hmade with
  | message hdetails =>
    cases hother with
    | message hagain => rw [hdetails.unique hagain]
  | @slot _ made hname hslot hheader hfooter homit =>
    cases hother with
    | @slot _ other hname' hslot' hheader' hfooter' homit' =>
      obtain ⟨name, number, header, footer, omitIfEmpty⟩ := made
      obtain ⟨name', number', header', footer', omitIfEmpty'⟩ := other
      rw [Blueprint.LayoutNode.slot.injEq, Blueprint.Placeholder.mk.injEq]
      exact ⟨hname.trans hname'.symm, number_eq hnodup hslot hslot',
        rightUnique_rel rightUnique_frame hheader hheader',
        rightUnique_rel rightUnique_frame hfooter hfooter', homit.trans homit'.symm⟩

theorem rightUnique_laneGroup : RightUnique LaneGroup.Becomes := by
  rintro source ⟨id, opening, closing⟩ ⟨id', opening', closing'⟩ hmade hother
  rw [Blueprint.LaneGroup.mk.injEq]
  exact ⟨hmade.id_eq.trans hother.id_eq.symm,
    rightUnique_rel rightUnique_textBecomes hmade.opening hother.opening,
    rightUnique_rel rightUnique_textBecomes hmade.closing hother.closing⟩

theorem rightUnique_lane : RightUnique Lane.Becomes := by
  rintro source ⟨id, enabled, role, template, order, groups, reserve⟩
    ⟨id', enabled', role', template', order', groups', reserve'⟩ hmade hother
  rw [Blueprint.Lane.mk.injEq]
  exact ⟨hmade.id_eq.trans hother.id_eq.symm, hmade.enabled_eq.trans hother.enabled_eq.symm,
    hmade.role_eq.trans hother.role_eq.symm,
    rightUnique_textBecomes hmade.template hother.template,
    hmade.order_eq.trans hother.order_eq.symm,
    rightUnique_laneGroup.forall₂ hmade.groups hother.groups,
    hmade.reserve_eq.trans hother.reserve_eq.symm⟩

end Template

/-- Of two slots, at most one is filled before the other. -/
theorem Blueprint.FillsBefore.asymm {slots : List Blueprint.Slot} {first second : Nat}
    (hfirst : first < slots.length) (hsecond : second < slots.length)
    (h : FillsBefore slots first second) : ¬ FillsBefore slots second first := by
  intro hback
  have hone := h _ (List.getElem?_eq_getElem hfirst) _ (List.getElem?_eq_getElem hsecond)
  have htwo := hback _ (List.getElem?_eq_getElem hsecond) _ (List.getElem?_eq_getElem hfirst)
  rcases hone with hlt | ⟨heq, hlt⟩
  · rcases htwo with hlt' | ⟨heq', -⟩
    · exact Int32.lt_asymm hlt hlt'
    · rw [heq'] at hlt
      exact Int32.lt_irrefl hlt
  · rcases htwo with hlt' | ⟨-, hlt'⟩
    · rw [heq] at hlt'
      exact Int32.lt_irrefl hlt'
    · omega

/-- Slots can be gone through in one order only, each before those that are filled after it. -/
theorem Blueprint.order_unique {slots : List Blueprint.Slot} {order other : List Nat}
    (hperm : order.Perm (List.range slots.length)) (hother : other.Perm (List.range slots.length))
    (hsorted : order.Pairwise (FillsBefore slots)) (hagain : other.Pairwise (FillsBefore slots)) :
    order = other := by
  refine (hperm.trans hother.symm).eq_of_pairwise ?_ hsorted hagain
  -- of two numbers only one can come first
  intro first second hfirst hsecond hbefore hback
  have hlt := List.mem_range.1 (hperm.mem_iff.1 hfirst)
  have hlt' := List.mem_range.1 (hother.mem_iff.1 hsecond)
  exact absurd hback (hbefore.asymm hlt hlt')

/-- Which slots are filled before which depends on their priorities alone. -/
theorem Blueprint.fillsBefore_iff {slots others : List Blueprint.Slot}
    (h : others.map Slot.priority = slots.map Slot.priority) (first second : Nat) :
    FillsBefore others first second ↔ FillsBefore slots first second := by
  have hforall : ∀ slots : List Blueprint.Slot, FillsBefore slots first second ↔
      ∀ one ∈ (slots.map Slot.priority)[first]?, ∀ other ∈ (slots.map Slot.priority)[second]?,
        other < one ∨ one = other ∧ first < second := by
    intro slots
    simp only [FillsBefore, List.getElem?_map, Option.mem_map, forall_exists_index, and_imp,
      forall_apply_eq_imp_iff₂]
  rw [hforall, hforall, h]

namespace Template.Becomes

open Blueprint.Compilation

variable {source another : Template} {made other : Blueprint}

/-- The slots have the names of the places, in order. -/
theorem names_eq (h : source.Becomes made) :
    made.slots.map Blueprint.Slot.name = source.placeNames :=
  (names_eq_of_places h.slots).trans (names_placesFrom 0 source.layout)

/-- Each place is for a slot of the template. -/
theorem place_known (h : source.Becomes made) :
    ∀ name ∈ source.placeNames, name ∈ source.slots.map Prod.fst := by
  have hboth : List.Forall₂ (fun place slot => place.1 ∈ source.slots.map Prod.fst ∧
      PlaceBecomes source.slots place slot) (placesFrom 0 source.layout) made.slots := by
    refine h.slots.imp fun place slot hplace => ⟨?_, hplace⟩
    obtain ⟨spec, hspec, -⟩ := hplace.spec
    exact List.mem_map_of_mem (Keyed.mem_of_lookup hspec)
  intro name hname
  rw [placeNames, ← names_placesFrom 0 source.layout] at hname
  obtain ⟨place, hplace, rfl⟩ := List.mem_map.1 hname
  exact ((List.forall₂_and_left _ _).1 hboth).1 place hplace

/-- No two slots have one name. -/
theorem names_nodup (h : source.Becomes made) :
    (made.slots.map Blueprint.Slot.name).Nodup := by
  rw [List.nodup_iff_count_le_one]
  intro name
  by_cases hname : name ∈ made.slots.map Blueprint.Slot.name
  · rw [h.names_eq] at hname
    exact (h.kept_once name (h.place_known name hname)).le
  · rw [List.count_eq_zero_of_not_mem hname]
    exact Nat.zero_le 1

/-- Images of templates whose slots have the same priorities fill them in the same order. -/
theorem order_eq (hmade : source.Becomes made) (hother : another.Becomes other)
    (hpriorities : other.slots.map Blueprint.Slot.priority =
      made.slots.map Blueprint.Slot.priority) : other.order = made.order := by
  have hlength : other.slots.length = made.slots.length := by
    rw [← List.length_map Blueprint.Slot.priority, hpriorities, List.length_map]
  have hperm := hother.order_perm
  rw [hlength] at hperm
  exact Blueprint.order_unique hperm hmade.order_perm
    (hother.order_sorted.imp fun h => (Blueprint.fillsBefore_iff hpriorities _ _).1 h)
    hmade.order_sorted

/-- A template has one image. -/
theorem unique (hmade : source.Becomes made) (hother : source.Becomes other) : made = other := by
  have hslots : made.slots = other.slots :=
    (rightUnique_place source.slots).forall₂ hmade.slots hother.slots
  have hlayout := hother.layout
  rw [← hslots] at hlayout
  have horder : made.order = other.order := hother.order_eq hmade (by rw [hslots])
  obtain ⟨id, task, name, version, layout, slots, order, lanes⟩ := made
  obtain ⟨id', task', name', version', layout', slots', order', lanes'⟩ := other
  rw [Blueprint.mk.injEq]
  exact ⟨hmade.id_eq.trans hother.id_eq.symm, hmade.task_eq.trans hother.task_eq.symm,
    hmade.name_eq.trans hother.name_eq.symm, hmade.version_eq.trans hother.version_eq.symm,
    (rightUnique_layoutNode hmade.names_nodup).forall₂ hmade.layout hlayout, hslots, horder,
    rightUnique_lane.forall₂ hmade.lanes hother.lanes⟩

end Template.Becomes

end ChatPrompt
