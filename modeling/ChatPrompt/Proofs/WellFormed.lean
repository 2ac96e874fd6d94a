import ChatPrompt.Leaf.Parser
import ChatPrompt.Template.Basic

/-!
# Well-formed templates

When a template means something, said without a compiler. A template is taken apart into the
parts that have to be in order, each by itself: its texts, paths and expressions can be read, its
references lead somewhere, its messages say one thing. What concerns several parts comes on top of
that: each slot has one place in the layout, and no two lanes, groups of a lane or fixed keys are
the same. A key is fixed if it is the same in every scope; in a loop it would repeat.
-/

namespace ChatPrompt

/-- Whether a text is read as a leaf that is the same in every scope. -/
def Leaf.isFixedText (source : String) : Bool :=
  match ofText source with
  | .ok leaf => !leaf.hasVariables
  | .error _ => false

/-- A text holds tags where two opening braces stand next to each other in it. -/
theorem Leaf.isTemplated_iff (source : String) :
    Leaf.isTemplated source = true ↔ ['\x7b', '\x7b'] <:+: source.toList := by
  have hgo : ∀ text, Leaf.isTemplated.go text = true ↔ ['\x7b', '\x7b'] <:+: text := by
    intro text
    induction text using Leaf.isTemplated.go.induct with
    | case1 rest => exact iff_of_true rfl ⟨[], rest, rfl⟩
    | case2 first rest hne ih =>
      rw [Leaf.isTemplated.go, ih, List.infix_cons_iff]
      · refine ⟨Or.inr, fun h => h.resolve_left ?_⟩
        rintro ⟨others, hothers⟩
        obtain ⟨rfl, rfl⟩ := List.cons.inj hothers
        exact hne _ rfl rfl
      · exact hne
    | case3 => exact iff_of_false Bool.false_ne_true (by simp)
  exact hgo source.toList

namespace Template

/-- A part of a template that has to be in order by itself. -/
inductive Part where
  /-- A text that may hold expressions. -/
  | text (source : String)
  /-- The text of a path. -/
  | path (source : String)
  /-- The text of an expression. -/
  | expression (source : String)
  /-- What a reference reads from. -/
  | target (source path : Option String)
  /-- What a message says. -/
  | content (content : Option String) (source : Option Reference)
  /-- Who speaks, and whether the model is to continue. -/
  | opening (role : Role) (openEnded : Bool)
  /-- The key of a message, which may stand in a loop. -/
  | anchor (inLoop : Bool) (key : String)

/-- Whether a part is in order, given the sources that may be named. -/
def Part.IsInOrder (allowed : Option (List String)) : Part → Prop
  | .text source => ∃ leaf, Leaf.ofText source = .ok leaf
  | .path source => ∃ path, Path.ofText source = .ok path
  | .expression source => ∃ expr, Expr.ofText source = .ok expr
  | .target source way =>
    (source.isSome ∨ way.isSome) ∧ ∀ name ∈ source, ∀ names ∈ allowed, name ∈ names
  | .content own source => own.isSome ∧ source = none ∨ own = none ∧ source.isSome
  | .opening role openEnded => openEnded = true → role = .assistant
  | .anchor inLoop key =>
    (∃ leaf, Leaf.ofText key = .ok leaf) ∧ (inLoop = true → Leaf.isFixedText key = false)

/-- The key of a message, if it is the same in every scope and does not stand in a loop. -/
def Part.fixedKey? : Part → Option String
  | .anchor false key => if Leaf.isFixedText key then some key else none
  | _ => none

/-- The fixed keys among some parts. -/
def fixedKeys (parts : List Part) : List String := parts.filterMap Part.fixedKey?

mutual

/-- The texts of arguments that hold tags. -/
def argumentParts : Json → List Part
  | .string source => if Leaf.isTemplated source then [.text source] else []
  | .array items => itemParts items
  | .object fields => fieldParts fields
  | _ => []

/-- The texts of the elements of a sequence of arguments. -/
def itemParts : List Json → List Part
  | [] => []
  | item :: rest => argumentParts item ++ itemParts rest

/-- The texts of named arguments. -/
def fieldParts : List (String × Json) → List Part
  | [] => []
  | (_, value) :: rest => argumentParts value ++ fieldParts rest

end

/-- The parts of a reference. -/
def Reference.parts (reference : Reference) : List Part :=
  argumentParts reference.args ++
    .target reference.source reference.path :: reference.path.toList.map .path

mutual

/-- The parts of a condition. -/
def Condition.parts : Condition → List Part
  | .present target => target.parts
  | .nonEmpty target => target.parts
  | .compare target _ _ => target.parts
  | .expression source => [.expression source]
  | .all conditions => conditionParts conditions
  | .any conditions => conditionParts conditions
  | .negation inner => inner.parts

/-- The parts of conditions. -/
def conditionParts : List Condition → List Part
  | [] => []
  | first :: rest => first.parts ++ conditionParts rest

end

/-- The parts of an optional frame. -/
def frameParts (frame : Option Frame) : List Part :=
  frame.toList.map fun frame => .text frame.content

/-- The parts of what a message says. -/
def contentParts (content : Option String) (source : Option Reference) : List Part :=
  .content content source :: (content.toList.map .text ++ source.toList.flatMap Reference.parts)

/-- The parts of a message of the layout. -/
def LayoutMessage.parts (message : LayoutMessage) : List Part :=
  .opening message.role message.openEnded ::
    (contentParts message.content message.source ++ message.anchor.toList.map (.anchor false))

/-- The parts of a message of a plan. -/
def PlanMessage.parts (inLoop : Bool) (message : PlanMessage) : List Part :=
  contentParts message.content message.source ++ message.anchor.toList.map (.anchor inLoop)

mutual

/-- The parts of a step of a plan. -/
def PlanNode.parts (inLoop : Bool) : PlanNode → List Part
  | .message details => details.parts inLoop
  | .forEach header body =>
    header.source.parts ++ (header.sortBy.toList.map .path ++
      (planParts true body ++ frameParts header.separator))
  | .branch test whenTrue whenFalse =>
    test.parts ++ (planParts inLoop whenTrue ++ planParts inLoop whenFalse)

/-- The parts of the steps of a plan. -/
def planParts (inLoop : Bool) : List PlanNode → List Part
  | [] => []
  | node :: rest => node.parts inLoop ++ planParts inLoop rest

end

/-- The parts of a slot. -/
def Slot.parts (slot : Slot) : List Part :=
  slot.condition.toList.flatMap Condition.parts ++ planParts false slot.plan

/-- The parts of an element of the layout. -/
def LayoutNode.parts : LayoutNode → List Part
  | .message details => details.parts
  | .slot place => frameParts place.header ++ frameParts place.footer

/-- The name of the slot that an element of the layout is a place for. -/
def LayoutNode.slotName? : LayoutNode → Option String
  | .message _ => none
  | .slot place => some place.name

/-- The parts of a group of a lane. -/
def LaneGroup.parts (group : LaneGroup) : List Part :=
  group.opening.toList.map .text ++ group.closing.toList.map .text

/-- The parts of a lane. -/
def Lane.parts (lane : Lane) : List Part :=
  .text lane.template :: lane.groups.flatMap LaneGroup.parts

/-- The parts of the slot that is kept under a name. -/
def slotParts (slots : List (String × Slot)) (name : String) : List Part :=
  (slots.lookup name).toList.flatMap Slot.parts

end Template

namespace Template

variable (template : Template)

/-- The names of the slots that have a place in the layout, in order. -/
def placeNames : List String := template.layout.filterMap LayoutNode.slotName?

/-- The parts of a template: those of the layout, of the slots that have a place in it, and of
the lanes. -/
def parts : List Part :=
  template.layout.flatMap LayoutNode.parts ++
    (template.placeNames.flatMap (slotParts template.slots) ++
      template.attachments.flatMap Lane.parts)

/-- A template means something, given the sources that it may name. -/
structure IsWellFormed (allowed : Option (List String)) : Prop where
  /-- Each place of the layout is for a slot. -/
  place_known : ∀ name ∈ template.placeNames, name ∈ template.slots.map Prod.fst
  /-- Each slot has exactly one place in the layout. -/
  placed_once : ∀ name ∈ template.slots.map Prod.fst, template.placeNames.count name = 1
  /-- Each part is in order. -/
  parts_inOrder : ∀ part ∈ template.parts, part.IsInOrder allowed
  /-- No two fixed keys are the same. -/
  keys_nodup : (fixedKeys template.parts).Nodup
  /-- No two lanes have the same name. -/
  lanes_nodup : (template.attachments.map Lane.id).Nodup
  /-- No two groups of a lane have the same name. -/
  groups_nodup : ∀ lane ∈ template.attachments, (lane.groups.map LaneGroup.id).Nodup

end Template

end ChatPrompt
