import ChatPrompt.Json.Record

/-!
# Messages

What a render produces: messages of a conversation, each with the role of its speaker. The
last message of the assistant may be left open for the model to continue.
-/

namespace ChatPrompt

/-- Who speaks. -/
inductive Role where
  /-- The instructions. -/
  | system
  /-- The person. -/
  | user
  /-- The model. -/
  | assistant
  deriving DecidableEq, Repr

/-- The word for a role. -/
def Role.text : Role → String
  | .system => "system"
  | .user => "user"
  | .assistant => "assistant"

/-- All roles with their words. -/
def Role.choices : List (String × Role) :=
  [("system", .system), ("user", .user), ("assistant", .assistant)]

/-- A role as a value. -/
def Role.toJson (role : Role) : Json := .string role.text

/-- The role that a value names. -/
def Role.ofJson? (form : Record.Form) (value : Json) : Option Role :=
  Record.choice? form Role.choices value

/-- A message of the conversation. -/
structure Message where
  /-- Who speaks. -/
  role : Role
  /-- What is said. -/
  content : String
  /-- Whether the model continues this message. -/
  openEnded : Bool
  deriving DecidableEq, Repr

namespace Message

/-- A message that is complete. -/
def of (role : Role) (content : String) : Message := ⟨role, content, false⟩

/-- A message as a value. Only an open one says so. -/
def toJson (message : Message) : Json :=
  .object ([("role", message.role.toJson), ("content", .string message.content)] ++
    Record.whenTrue "prefix" message.openEnded)

/-- The message that a value describes. -/
def ofJson? (form : Record.Form) (value : Json) : Option Message := do
  let fields ← Record.fields? ["role", "content", "prefix"] value
  let role ← Record.required? "role" (Role.ofJson? form) fields
  let content ← Record.required? "content" Record.text? fields
  let openEnded ← Record.defaulting? "prefix" Record.flag? false fields
  some ⟨role, content, openEnded⟩

end Message

end ChatPrompt
