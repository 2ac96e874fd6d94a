import ChatPrompt.Template.Writing

/-!
# Templates as JSON: reading

The parts of a template that values describe. What was written is read back; besides, a
record may be given as an array of its fields in their order, a reference as the mere name of
a source, and fields may be missing that have a value to take instead. Fields that no record
knows are ignored. Nothing is read where a field is missing that has none, or is of the wrong
shape.

Conditions and plans are nested. They are read down to a given depth, and that of the value
itself suffices, because a part lies deeper than what it is part of.
-/

namespace ChatPrompt

namespace Template

open Record

/-- The reference that a value describes. -/
def Reference.ofJson? : Json → Option Reference
  | .string name => some ⟨some name, .null, none⟩
  | .object fields => do
    let source ← optional? "source" text? fields
    let args ← defaulting? "args" some .null fields
    let path ← optional? "path" text? fields
    some ⟨source, args, path⟩
  | _ => none

/-- The kinds of conditions. -/
inductive Condition.Kind where
  /-- There is a value. -/
  | present
  /-- There is content. -/
  | nonEmpty
  /-- A comparison with a literal. -/
  | compare
  /-- An expression. -/
  | expression
  /-- All of some. -/
  | all
  /-- One of some. -/
  | any
  /-- Not one. -/
  | negation
  deriving DecidableEq, Repr

/-- The kinds of conditions with their words, in their order. -/
def Condition.kinds : List (String × Condition.Kind) :=
  [("exists", .present), ("nonEmpty", .nonEmpty), ("compare", .compare),
    ("expr", .expression), ("all", .all), ("any", .any), ("not", .negation)]

/-- The condition of a kind whose fields a value holds, given how its parts are read. -/
def Condition.ofRecord? (part : Json → Option Condition) (kind : Condition.Kind)
    (value : Json) : Option Condition :=
  match kind with
  | .present => do
    let fields ← fields? ["ref"] value
    let target ← required? "ref" Reference.ofJson? fields
    some (.present target)
  | .nonEmpty => do
    let fields ← fields? ["ref"] value
    let target ← required? "ref" Reference.ofJson? fields
    some (.nonEmpty target)
  | .compare => do
    let fields ← fields? ["ref", "op", "value"] value
    let target ← required? "ref" Reference.ofJson? fields
    let op ← required? "op" (choice? .buffered comparisons) fields
    let literal ← required? "value" some fields
    some (.compare target op literal)
  | .expression => do
    let fields ← fields? ["expr"] value
    let source ← required? "expr" text? fields
    some (.expression source)
  | .all => do
    let fields ← fields? ["conditions"] value
    let conditions ← required? "conditions" (list? part) fields
    some (.all conditions)
  | .any => do
    let fields ← fields? ["conditions"] value
    let conditions ← required? "conditions" (list? part) fields
    some (.any conditions)
  | .negation => do
    let fields ← fields? ["condition"] value
    let condition ← required? "condition" part fields
    some (.negation condition)

/-- The condition that a value describes, read down to a depth. -/
def Condition.within? : Nat → Form → Json → Option Condition
  | 0, _, _ => none
  | depth + 1, form, value => do
    let (kind, record) ← tagged? form "type" Condition.kinds value
    Condition.ofRecord? (Condition.within? depth .buffered) kind record

/-- The condition that a value describes. -/
def Condition.ofJson? (form : Form) (value : Json) : Option Condition :=
  Condition.within? value.depth form value

/-- The frame that a value describes. -/
def Frame.ofJson? (form : Form) (value : Json) : Option Frame := do
  let fields ← fields? ["role", "content"] value
  let role ← defaulting? "role" (Role.ofJson? form) .system fields
  let content ← required? "content" text? fields
  some ⟨role, content⟩

/-- The message of a plan that a value describes. -/
def PlanMessage.ofJson? (value : Json) : Option PlanMessage := do
  let fields ← fields? ["role", "content", "from", "anchor", "budget"] value
  let role ← required? "role" (Role.ofJson? .buffered) fields
  let content ← optional? "content" text? fields
  let source ← optional? "from" Reference.ofJson? fields
  let anchor ← optional? "anchor" text? fields
  let budget ← optional? "budget" word64? fields
  some ⟨role, content, source, anchor, budget⟩

/-- The kinds of steps of a plan. -/
inductive PlanNode.Kind where
  /-- A message. -/
  | message
  /-- A loop. -/
  | forEach
  /-- A branch. -/
  | branch
  deriving DecidableEq, Repr

/-- The kinds of steps with their words, in their order. -/
def PlanNode.kinds : List (String × PlanNode.Kind) :=
  [("message", .message), ("forEach", .forEach), ("if", .branch)]

/-- The step of a kind whose fields a value holds, given how its parts are read. -/
def PlanNode.ofRecord? (part : Json → Option PlanNode) (kind : PlanNode.Kind) (value : Json) :
    Option PlanNode :=
  match kind with
  | .message => (PlanMessage.ofJson? value).map .message
  | .forEach => do
    let fields ← fields? ["source", "order", "sortBy", "limit", "fillDir", "map", "interleave",
      "budget", "stopWhenOutOfBudget"] value
    let source ← required? "source" Reference.ofJson? fields
    let order ← defaulting? "order" (choice? .buffered Order.choices) .ascending fields
    let sortBy ← optional? "sortBy" text? fields
    let limit ← optional? "limit" natural? fields
    let filling ← defaulting? "fillDir" (choice? .buffered Filling.choices) .appending fields
    let body ← required? "map" (list? part) fields
    let separator ← optional? "interleave" (Frame.ofJson? .buffered) fields
    let budget ← optional? "budget" word64? fields
    let stops ← defaulting? "stopWhenOutOfBudget" flag? true fields
    some (.forEach ⟨source, order, sortBy, limit, filling, separator, budget, stops⟩ body)
  | .branch => do
    let fields ← fields? ["condition", "then", "else"] value
    let condition ← required? "condition" (Condition.ofJson? .buffered) fields
    let whenTrue ← required? "then" (list? part) fields
    let whenFalse ← defaulting? "else" (list? part) [] fields
    some (.branch condition whenTrue whenFalse)

/-- The step of a plan that a value describes, read down to a depth. -/
def PlanNode.within? : Nat → Form → Json → Option PlanNode
  | 0, _, _ => none
  | depth + 1, form, value => do
    let (kind, record) ← tagged? form "kind" PlanNode.kinds value
    PlanNode.ofRecord? (PlanNode.within? depth .buffered) kind record

/-- The step of a plan that a value describes. -/
def PlanNode.ofJson? (form : Form) (value : Json) : Option PlanNode :=
  PlanNode.within? value.depth form value

/-- The message of the layout that a value describes. -/
def LayoutMessage.ofJson? (value : Json) : Option LayoutMessage := do
  let fields ← fields? ["role", "content", "from", "prefix", "anchor"] value
  let role ← required? "role" (Role.ofJson? .buffered) fields
  let content ← optional? "content" text? fields
  let source ← optional? "from" Reference.ofJson? fields
  let openEnded ← defaulting? "prefix" flag? false fields
  let anchor ← optional? "anchor" text? fields
  some ⟨role, content, source, openEnded, anchor⟩

/-- The place for generated messages that a value describes. -/
def Placeholder.ofJson? (value : Json) : Option Placeholder := do
  let fields ← fields? ["name", "header", "footer", "omitIfEmpty"] value
  let name ← required? "name" text? fields
  let header ← optional? "header" (Frame.ofJson? .buffered) fields
  let footer ← optional? "footer" (Frame.ofJson? .buffered) fields
  let omitIfEmpty ← optional? "omitIfEmpty" flag? fields
  some ⟨name, header, footer, omitIfEmpty⟩

/-- The kinds of elements of the layout. -/
inductive LayoutNode.Kind where
  /-- A message. -/
  | message
  /-- A place for generated messages. -/
  | slot
  deriving DecidableEq, Repr

/-- The kinds of elements of the layout with their words, in their order. -/
def LayoutNode.kinds : List (String × LayoutNode.Kind) :=
  [("message", .message), ("slot", .slot)]

/-- The element of the layout that a value describes. -/
def LayoutNode.ofJson? (form : Form) (value : Json) : Option LayoutNode := do
  let (kind, record) ← tagged? form "kind" LayoutNode.kinds value
  match kind with
  | .message => (LayoutMessage.ofJson? record).map .message
  | .slot => (Placeholder.ofJson? record).map .slot

/-- The slot that a value describes. -/
def Slot.ofJson? (value : Json) : Option Slot := do
  let fields ← fields? ["priority", "when", "budget", "plan", "meta"] value
  let priority ← defaulting? "priority" int32? 0 fields
  let condition ← optional? "when" (Condition.ofJson? .direct) fields
  let budget ← optional? "budget" word64? fields
  let plan ← required? "plan" (list? (PlanNode.ofJson? .direct)) fields
  let metadata ← defaulting? "meta" some .null fields
  some ⟨priority, condition, budget, plan, metadata⟩

/-- The group of a lane that a value describes. -/
def LaneGroup.ofJson? (value : Json) : Option LaneGroup := do
  let fields ← fields? ["id", "open", "close"] value
  let id ← required? "id" text? fields
  let opening ← optional? "open" text? fields
  let closing ← optional? "close" text? fields
  some ⟨id, opening, closing⟩

/-- The lane that a value describes. -/
def Lane.ofJson? (value : Json) : Option Lane := do
  let fields ← fields? ["id", "enabled", "role", "template", "order", "groups",
    "reserveTokens"] value
  let id ← required? "id" text? fields
  let enabled ← defaulting? "enabled" flag? true fields
  let role ← required? "role" (Role.ofJson? .direct) fields
  let template ← required? "template" text? fields
  let order ← defaulting? "order" int32? 0 fields
  let groups ← defaulting? "groups" (list? LaneGroup.ofJson?) [] fields
  let reserve ← optional? "reserveTokens" word64? fields
  some ⟨id, enabled, role, template, order, groups, reserve⟩

/-- The slots that the fields of an object describe. -/
def slotsOfJson? : Json → Option (List (String × Slot))
  | .object fields => fields.mapM fun field => (Slot.ofJson? field.2).map fun slot => (field.1, slot)
  | _ => none

end Template

/-- The template that a value describes. -/
def Template.ofJson? (value : Json) : Option Template := do
  let fields ← Record.fields? ["id", "task", "name", "version", "layout", "slots",
    "attachments"] value
  let id ← Record.required? "id" Record.text? fields
  let task ← Record.defaulting? "task" Record.text? "" fields
  let name ← Record.required? "name" Record.text? fields
  let version ← Record.required? "version" Record.word32? fields
  let layout ← Record.required? "layout" (Record.list? (Template.LayoutNode.ofJson? .direct)) fields
  let slots ← Record.defaulting? "slots" Template.slotsOfJson? [] fields
  let attachments ← Record.defaulting? "attachments" (Record.list? Template.Lane.ofJson?) [] fields
  some ⟨id, task, name, version, layout, slots, attachments⟩

end ChatPrompt
