import ChatPrompt.Template.Reading

/-!
# Requests for injection

A request addresses a payload to a lane and says where the message should go that the lane
makes of it: next to a message whose place was recorded under a key, or a number of messages
away from an edge of the prompt. Several targets may be given, of which a later one is for
the case that the keys of those before it do not exist.
-/

namespace ChatPrompt

namespace Injection

open Record

/-- An edge of the prompt. -/
inductive Edge where
  /-- Before the first message. -/
  | top
  /-- After the last message. -/
  | bottom
  deriving DecidableEq, Repr

/-- Where a message should go. -/
inductive Target where
  /-- Next to the message recorded under a key. -/
  | anchored (key : String) (after : Bool)
  /-- So many messages away from an edge. -/
  | boundary (edge : Edge) (distance : Nat)
  deriving DecidableEq, Repr

/-- A payload for a lane. -/
structure Request where
  /-- The name of the lane. -/
  lane : String
  /-- Where the message should go. -/
  targets : List Target
  /-- What the lane makes a message of. -/
  payload : Json
  /-- Requests of a higher priority go first. -/
  priority : Int32
  /-- The group with which it shares a message. -/
  group : Option String

/-- The words for the edges. -/
def Edge.choices : List (String × Edge) := [("top", .top), ("bottom", .bottom)]

/-- An edge as a value. -/
def Edge.toJson : Edge → Json
  | .top => .string "top"
  | .bottom => .string "bottom"

/-- A target as a value. -/
def Target.toJson : Target → Json
  | .anchored key after =>
    .object [("kind", .string "at"), ("key", .string key), ("after", .bool after)]
  | .boundary edge distance =>
    .object [("kind", .string "boundary"), ("position", edge.toJson), ("delta", .ofNat distance)]

/-- A request as a value. -/
def Request.toJson (request : Request) : Json :=
  .object ([("lane", .string request.lane),
    ("target", .array (request.targets.map Target.toJson)), ("payload", request.payload),
    ("priority", .ofInt request.priority.toInt)] ++ whenSome "groupId" .string request.group)

/-- The kinds of targets. -/
inductive Target.Kind where
  /-- Next to a message. -/
  | anchored
  /-- Away from an edge. -/
  | boundary
  deriving DecidableEq, Repr

/-- The kinds of targets with their words, in their order. -/
def Target.kinds : List (String × Target.Kind) := [("at", .anchored), ("boundary", .boundary)]

/-- The target that a value describes. -/
def Target.ofJson? (form : Form) (value : Json) : Option Target := do
  let (kind, record) ← tagged? form "kind" Target.kinds value
  match kind with
  | .anchored => do
    let fields ← fields? ["key", "after"] record
    let key ← required? "key" text? fields
    let after ← defaulting? "after" flag? true fields
    some (.anchored key after)
  | .boundary => do
    let fields ← fields? ["position", "delta"] record
    let edge ← required? "position" (choice? .buffered Edge.choices) fields
    let distance ← defaulting? "delta" natural? 0 fields
    some (.boundary edge distance)

/-- The targets that a value describes: a single one, or a list of them. -/
def Target.listOfJson? (value : Json) : Option (List Target) :=
  match Target.ofJson? .buffered value with
  | some target => some [target]
  | none => list? (Target.ofJson? .buffered) value

/-- The request that a value describes. -/
def Request.ofJson? (value : Json) : Option Request := do
  let fields ← fields? ["lane", "target", "payload", "priority", "groupId"] value
  let lane ← required? "lane" text? fields
  let targets ← required? "target" Target.listOfJson? fields
  let payload ← required? "payload" some fields
  let priority ← defaulting? "priority" int32? 0 fields
  let group ← optional? "groupId" text? fields
  some ⟨lane, targets, payload, priority, group⟩

end Injection

/-- What a render is given besides its template: lanes and requests for injection. -/
structure OptionsDocument where
  /-- Lanes that stand in for those of the template of the same name, or come on top. -/
  attachments : List Template.Lane
  /-- The requests. -/
  injections : List Injection.Request

/-- The options of a render as a value. -/
def OptionsDocument.toJson (options : OptionsDocument) : Json :=
  .object [("attachments", .array (options.attachments.map Template.Lane.toJson)),
    ("injections", .array (options.injections.map Injection.Request.toJson))]

/-- The options of a render that a value describes. -/
def OptionsDocument.ofJson? (value : Json) : Option OptionsDocument := do
  let fields ← Record.fields? ["attachments", "injections"] value
  let attachments ←
    Record.defaulting? "attachments" (Record.list? Template.Lane.ofJson?) [] fields
  let injections ←
    Record.defaulting? "injections" (Record.list? Injection.Request.ofJson?) [] fields
  some ⟨attachments, injections⟩

end ChatPrompt
