import ChatPrompt.Template.Basic

/-!
# Templates as JSON: writing

Every part of a template as a value. A record is an object with its fields under their names;
a record of one of several kinds names its kind first. Optional fields are left out where
there is nothing in them, and so are flags that are not set, empty lists and `null` where
their absence reads as the same; all other fields are always written.
-/

namespace ChatPrompt

namespace Template

open Record

/-- An amount of tokens as a value. -/
def tokensToJson (tokens : Tokens) : Json := .ofNat tokens.toNat

/-- A reference as a value. -/
def Reference.toJson (reference : Reference) : Json :=
  .object (whenSome "source" .string reference.source ++ whenNotNull "args" reference.args ++
    whenSome "path" .string reference.path)

/-- The words for the comparisons of a condition. -/
def comparisons : List (String × Value.Comparison) :=
  [("eq", .eq), ("ne", .ne), ("lt", .lt), ("lte", .le), ("gt", .gt), ("gte", .ge)]

/-- The word for a comparison. -/
def comparisonWord : Value.Comparison → String
  | .eq => "eq"
  | .ne => "ne"
  | .lt => "lt"
  | .le => "lte"
  | .gt => "gt"
  | .ge => "gte"

mutual

/-- A condition as a value. -/
def Condition.toJson : Condition → Json
  | .present target => .object [("type", .string "exists"), ("ref", target.toJson)]
  | .nonEmpty target => .object [("type", .string "nonEmpty"), ("ref", target.toJson)]
  | .compare target op value =>
    .object [("type", .string "compare"), ("ref", target.toJson),
      ("op", .string (comparisonWord op)), ("value", value)]
  | .expression source => .object [("type", .string "expr"), ("expr", .string source)]
  | .all conditions =>
    .object [("type", .string "all"), ("conditions", .array (Condition.listToJson conditions))]
  | .any conditions =>
    .object [("type", .string "any"), ("conditions", .array (Condition.listToJson conditions))]
  | .negation condition => .object [("type", .string "not"), ("condition", condition.toJson)]

/-- Conditions as values. -/
def Condition.listToJson : List Condition → List Json
  | [] => []
  | condition :: rest => condition.toJson :: Condition.listToJson rest

end

/-- A frame as a value. -/
def Frame.toJson (frame : Frame) : Json :=
  .object [("role", frame.role.toJson), ("content", .string frame.content)]

/-- The words for the orders of a loop. -/
def Order.choices : List (String × Order) := [("asc", .ascending), ("desc", .descending)]

/-- An order as a value. -/
def Order.toJson : Order → Json
  | .ascending => .string "asc"
  | .descending => .string "desc"

/-- The words for where a loop puts messages. -/
def Filling.choices : List (String × Filling) :=
  [("append", .appending), ("prepend", .prepending)]

/-- A direction of filling as a value. -/
def Filling.toJson : Filling → Json
  | .appending => .string "append"
  | .prepending => .string "prepend"

/-- The fields of a message of a plan. -/
def PlanMessage.toFields (message : PlanMessage) : Json.Fields :=
  [("role", message.role.toJson)] ++ whenSome "content" .string message.content ++
    whenSome "from" Reference.toJson message.source ++
    whenSome "anchor" .string message.anchor ++ whenSome "budget" tokensToJson message.budget

mutual

/-- A step of a plan as a value. -/
def PlanNode.toJson : PlanNode → Json
  | .message details => .object (("kind", .string "message") :: details.toFields)
  | .forEach header body =>
    .object ([("kind", .string "forEach"), ("source", header.source.toJson),
      ("order", header.order.toJson)] ++ whenSome "sortBy" .string header.sortBy ++
      whenSome "limit" Json.ofNat header.limit ++ [("fillDir", header.filling.toJson),
      ("map", .array (PlanNode.listToJson body))] ++
      whenSome "interleave" Frame.toJson header.separator ++
      whenSome "budget" tokensToJson header.budget ++
      [("stopWhenOutOfBudget", .bool header.stopsWhenFull)])
  | .branch condition whenTrue whenFalse =>
    .object ([("kind", .string "if"), ("condition", condition.toJson),
      ("then", .array (PlanNode.listToJson whenTrue))] ++
      if whenFalse.isEmpty then [] else [("else", .array (PlanNode.listToJson whenFalse))])

/-- Steps of a plan as values. -/
def PlanNode.listToJson : List PlanNode → List Json
  | [] => []
  | node :: rest => node.toJson :: PlanNode.listToJson rest

end

/-- The fields of a message of the layout. -/
def LayoutMessage.toFields (message : LayoutMessage) : Json.Fields :=
  [("role", message.role.toJson)] ++ whenSome "content" .string message.content ++
    whenSome "from" Reference.toJson message.source ++ whenTrue "prefix" message.openEnded ++
    whenSome "anchor" .string message.anchor

/-- The fields of a place for generated messages. -/
def Placeholder.toFields (placeholder : Placeholder) : Json.Fields :=
  [("name", .string placeholder.name)] ++ whenSome "header" Frame.toJson placeholder.header ++
    whenSome "footer" Frame.toJson placeholder.footer ++
    whenSome "omitIfEmpty" .bool placeholder.omitIfEmpty

/-- An element of the layout as a value. -/
def LayoutNode.toJson : LayoutNode → Json
  | .message details => .object (("kind", .string "message") :: details.toFields)
  | .slot placeholder => .object (("kind", .string "slot") :: placeholder.toFields)

/-- A slot as a value. -/
def Slot.toJson (slot : Slot) : Json :=
  .object ([("priority", .ofInt slot.priority.toInt)] ++
    whenSome "when" Condition.toJson slot.condition ++
    whenSome "budget" tokensToJson slot.budget ++
    [("plan", .array (PlanNode.listToJson slot.plan))] ++ whenNotNull "meta" slot.metadata)

/-- A group of a lane as a value. -/
def LaneGroup.toJson (group : LaneGroup) : Json :=
  .object ([("id", .string group.id)] ++ whenSome "open" .string group.opening ++
    whenSome "close" .string group.closing)

/-- A lane as a value. -/
def Lane.toJson (lane : Lane) : Json :=
  .object ([("id", .string lane.id), ("enabled", .bool lane.enabled), ("role", lane.role.toJson),
    ("template", .string lane.template), ("order", .ofInt lane.order.toInt)] ++
    whenNotEmpty "groups" LaneGroup.toJson lane.groups ++
    whenSome "reserveTokens" tokensToJson lane.reserve)

end Template

/-- A template as a value. -/
def Template.toJson (template : Template) : Json :=
  .object ([("id", .string template.id), ("task", .string template.task),
    ("name", .string template.name), ("version", .ofNat template.version.toNat),
    ("layout", .array (template.layout.map Template.LayoutNode.toJson)),
    ("slots", .object (template.slots.map fun entry => (entry.1, entry.2.toJson)))] ++
    Record.whenNotEmpty "attachments" Template.Lane.toJson template.attachments)

end ChatPrompt
