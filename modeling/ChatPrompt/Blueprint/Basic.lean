import ChatPrompt.Leaf.Basic
import ChatPrompt.Template.Basic

/-!
# Blueprints

A blueprint is a template made ready for rendering: every text is a leaf, every path and
expression is a tree, every reference says where it reads from, and the layout points at the
slots by number. Its parts are those of a template, node for node.
-/

namespace ChatPrompt

namespace Blueprint

/-- What a source is asked with. -/
inductive Arguments where
  /-- A value that stays as it is. -/
  | literal (value : Json)
  /-- A text that is rendered. -/
  | text (leaf : Leaf)
  /-- A sequence. -/
  | array (items : List Arguments)
  /-- Named arguments, in the order of the names. -/
  | object (fields : List (String × Arguments))

/-- Where a reference reads from. -/
inductive Target where
  /-- From the answer of a source, along some steps. -/
  | source (name : String) (steps : List Segment)
  /-- From the scope. -/
  | scope (path : Path)
  deriving DecidableEq, Repr

/-- A reference to data of a render. -/
structure Reference where
  /-- Where it reads from. -/
  target : Target
  /-- What a source is asked with. -/
  arguments : Arguments

/-- A condition on data of a render. -/
inductive Condition where
  /-- There is a value and it is not `null`. -/
  | present (target : Reference)
  /-- There is a value and it has content. -/
  | nonEmpty (target : Reference)
  /-- The value compares with a literal as the operator says. -/
  | compare (target : Reference) (op : Value.Comparison) (value : Json)
  /-- An expression holds. -/
  | expression (expr : Expr)
  /-- Every one of some conditions holds. -/
  | all (conditions : List Condition)
  /-- One of some conditions holds. -/
  | any (conditions : List Condition)
  /-- A condition does not hold. -/
  | negation (condition : Condition)

/-- A message around or between generated ones. -/
structure Frame where
  /-- Who speaks. -/
  role : Role
  /-- What is said. -/
  content : Leaf

/-- What a message says. -/
inductive Content where
  /-- A text of its own. -/
  | text (leaf : Leaf)
  /-- A value. -/
  | value (reference : Reference)

/-- A message of the layout or of a plan. -/
structure Message where
  /-- Who speaks. -/
  role : Role
  /-- What is said. -/
  content : Content
  /-- Whether the model is to continue it, which only messages of the layout are. -/
  openEnded : Bool
  /-- The key under which its place is recorded. -/
  anchor : Option Leaf
  /-- A limit on its cost, which only messages of a plan have. -/
  budget : Option Tokens

/-- How a loop of a plan runs, apart from what it does for each item. -/
structure Loop where
  /-- The items. -/
  source : Reference
  /-- The order in which they are taken. -/
  order : Template.Order
  /-- The path into the items by whose values they are sorted first. -/
  sortBy : Option Path
  /-- How many items are taken at most. -/
  limit : Option Nat
  /-- Where the messages of an item go. -/
  filling : Template.Filling
  /-- A message between those of two items. -/
  separator : Option Frame
  /-- A limit on the cost of all its messages. -/
  budget : Option Tokens
  /-- Whether the first item that does not fit ends the loop. -/
  stopsWhenFull : Bool

/-- A step of a plan. -/
inductive PlanNode where
  /-- A message. -/
  | message (message : Message)
  /-- Steps that are done for each item of a sequence. -/
  | forEach (header : Loop) (body : List PlanNode)
  /-- Steps that are done if a condition holds, and others if not. -/
  | branch (condition : Condition) (whenTrue whenFalse : List PlanNode)

/-- A place in the layout for what a slot generates. -/
structure Placeholder where
  /-- The name of the slot. -/
  name : String
  /-- The number of the slot among those of the blueprint. -/
  slot : Nat
  /-- A message before the generated ones. -/
  header : Option Frame
  /-- A message after the generated ones. -/
  footer : Option Frame
  /-- Whether header and footer go where nothing was generated. -/
  omitIfEmpty : Bool

/-- An element of the layout. -/
inductive LayoutNode where
  /-- A message. -/
  | message (message : Message)
  /-- A place for generated messages. -/
  | slot (placeholder : Placeholder)

/-- What fills a place of the layout. -/
structure Slot where
  /-- Its name. -/
  name : String
  /-- Slots of a higher priority are filled first. -/
  priority : Int32
  /-- The slot is left empty unless this holds. -/
  condition : Option Condition
  /-- A limit on the cost of all its messages. -/
  budget : Option Tokens
  /-- The steps that generate its messages. -/
  plan : List PlanNode
  /-- Data of the author. -/
  metadata : Json
  /-- The number of the element of the layout that it fills. -/
  layoutIndex : Nat

/-- Texts around the payloads of one group. -/
structure LaneGroup where
  /-- The name of the group. -/
  id : String
  /-- The text before the payloads. -/
  opening : Option Leaf
  /-- The text after the payloads. -/
  closing : Option Leaf

/-- A way for payloads into the finished prompt. -/
structure Lane where
  /-- Its name, under which payloads are addressed to it. -/
  id : String
  /-- Whether it is used. -/
  enabled : Bool
  /-- Who speaks. -/
  role : Role
  /-- The text that a payload becomes. -/
  template : Leaf
  /-- Lanes of a lower order go first. -/
  order : Int32
  /-- The groups that have texts around them. -/
  groups : List LaneGroup
  /-- What is set aside for it before slots are filled. -/
  reserve : Option Tokens

/-- The group of a name that has texts around it. -/
def Lane.group? (lane : Lane) (id : String) : Option LaneGroup :=
  lane.groups.find? fun group => group.id == id

end Blueprint

/-- A template made ready for rendering. -/
structure Blueprint where
  /-- Its identity, together with the version. -/
  id : String
  /-- The task it is for. -/
  task : String
  /-- Its name for people. -/
  name : String
  /-- Its version. -/
  version : UInt32
  /-- Messages and places for generated ones. -/
  layout : List Blueprint.LayoutNode
  /-- The slots, in the order of their places in the layout. -/
  slots : List Blueprint.Slot
  /-- The numbers of the slots in the order in which they are filled. -/
  order : List Nat
  /-- Its lanes. -/
  lanes : List Blueprint.Lane

namespace Blueprint

/-- The slots in the order in which they are filled. -/
def slotsInOrder (blueprint : Blueprint) : List Slot :=
  blueprint.order.filterMap fun number => blueprint.slots[number]?

end Blueprint

end ChatPrompt
