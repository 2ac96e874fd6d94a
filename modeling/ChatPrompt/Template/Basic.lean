import ChatPrompt.Ledger
import ChatPrompt.Message
import ChatPrompt.Value.Comparison

/-!
# Templates

A template as its author writes it: a layout, which is a fixed sequence of messages with
places for generated content; the slots that fill those places, each by a plan; and lanes,
through which payloads are injected into the finished prompt. All texts that may hold
expressions are still plain texts here.
-/

namespace ChatPrompt

namespace Template

/-- A reference to data of a render. With a source, the source is asked with the arguments
and the path leads into its answer; without one, the path starts in the scope. -/
structure Reference where
  /-- The name of a source. -/
  source : Option String
  /-- What the source is asked with; its texts may hold expressions. -/
  args : Json
  /-- The text of a path. -/
  path : Option String

/-- A condition on data of a render. -/
inductive Condition where
  /-- There is a value and it is not `null`. -/
  | present (target : Reference)
  /-- There is a value and it has content. -/
  | nonEmpty (target : Reference)
  /-- The value compares with a literal as the operator says. -/
  | compare (target : Reference) (op : Value.Comparison) (value : Json)
  /-- An expression holds. -/
  | expression (source : String)
  /-- Every one of some conditions holds. -/
  | all (conditions : List Condition)
  /-- One of some conditions holds. -/
  | any (conditions : List Condition)
  /-- A condition does not hold. -/
  | negation (condition : Condition)

/-- A message around or between generated ones. -/
structure Frame where
  /-- Who speaks. -/
  role : Role
  /-- What is said. -/
  content : String
  deriving DecidableEq, Repr

/-- The order in which a loop takes its items. -/
inductive Order where
  /-- From the first to the last. -/
  | ascending
  /-- From the last to the first. -/
  | descending
  deriving DecidableEq, Repr

/-- Where a loop puts the messages of an item. -/
inductive Filling where
  /-- After those of the items before it. -/
  | appending
  /-- Before those of the items before it. -/
  | prepending
  deriving DecidableEq, Repr

/-- A message of a plan. It says either a text of its own or a value. -/
structure PlanMessage where
  /-- Who speaks. -/
  role : Role
  /-- What is said. -/
  content : Option String
  /-- The value that is said. -/
  source : Option Reference
  /-- The key under which the place of the message is recorded. -/
  anchor : Option String
  /-- A limit on its cost. -/
  budget : Option Tokens

/-- How a loop of a plan runs, apart from what it does for each item. -/
structure Loop where
  /-- The items. -/
  source : Reference
  /-- The order in which they are taken. -/
  order : Order
  /-- The text of a path into the items, by whose values they are sorted first. -/
  sortBy : Option String
  /-- How many items are taken at most. -/
  limit : Option Nat
  /-- Where the messages of an item go. -/
  filling : Filling
  /-- A message between those of two items. -/
  separator : Option Frame
  /-- A limit on the cost of all its messages. -/
  budget : Option Tokens
  /-- Whether the first item that does not fit ends the loop. -/
  stopsWhenFull : Bool

/-- A step of a plan. -/
inductive PlanNode where
  /-- A message. -/
  | message (message : PlanMessage)
  /-- Steps that are done for each item of a sequence. -/
  | forEach (header : Loop) (body : List PlanNode)
  /-- Steps that are done if a condition holds, and others if not. -/
  | branch (condition : Condition) (whenTrue whenFalse : List PlanNode)

/-- A message of the layout. It says either a text of its own or a value. -/
structure LayoutMessage where
  /-- Who speaks. -/
  role : Role
  /-- What is said. -/
  content : Option String
  /-- The value that is said. -/
  source : Option Reference
  /-- Whether the model is to continue it. -/
  openEnded : Bool
  /-- The key under which its place is recorded. -/
  anchor : Option String

/-- A place in the layout for what a slot generates. -/
structure Placeholder where
  /-- The name of the slot. -/
  name : String
  /-- A message before the generated ones. -/
  header : Option Frame
  /-- A message after the generated ones. -/
  footer : Option Frame
  /-- Whether header and footer go where nothing was generated; they do unless it is
  `false`. -/
  omitIfEmpty : Option Bool

/-- An element of the layout. -/
inductive LayoutNode where
  /-- A message. -/
  | message (message : LayoutMessage)
  /-- A place for generated messages. -/
  | slot (placeholder : Placeholder)

/-- What fills a place of the layout. -/
structure Slot where
  /-- Slots of a higher priority are filled first. -/
  priority : Int32
  /-- The slot is left empty unless this holds. -/
  condition : Option Condition
  /-- A limit on the cost of all its messages. -/
  budget : Option Tokens
  /-- The steps that generate its messages. -/
  plan : List PlanNode
  /-- Data of the author. -/
  metadata : Json

/-- Texts around the payloads of one group. -/
structure LaneGroup where
  /-- The name of the group. -/
  id : String
  /-- The text before the payloads. -/
  opening : Option String
  /-- The text after the payloads. -/
  closing : Option String
  deriving DecidableEq, Repr

/-- A way for payloads into the finished prompt. -/
structure Lane where
  /-- Its name, under which payloads are addressed to it. -/
  id : String
  /-- Whether it is used. -/
  enabled : Bool
  /-- Who speaks. -/
  role : Role
  /-- The text that a payload becomes. -/
  template : String
  /-- Lanes of a lower order go first. -/
  order : Int32
  /-- The groups that have texts around them. -/
  groups : List LaneGroup
  /-- What is set aside for it before slots are filled. -/
  reserve : Option Tokens
  deriving DecidableEq, Repr

end Template

/-- A template as its author writes it. -/
structure Template where
  /-- Its identity, together with the version. -/
  id : String
  /-- The task it is for. -/
  task : String
  /-- Its name for people. -/
  name : String
  /-- Its version. -/
  version : UInt32
  /-- Messages and places for generated ones. -/
  layout : List Template.LayoutNode
  /-- The slots under their names, in the order of the names. -/
  slots : List (String × Template.Slot)
  /-- Its lanes. -/
  attachments : List Template.Lane

end ChatPrompt
