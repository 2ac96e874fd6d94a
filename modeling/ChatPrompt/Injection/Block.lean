import ChatPrompt.Injection.Request
import ChatPrompt.Render.Environment

/-!
# Blocks of a lane

The requests of a lane are rendered through its text, most urgent first, and become blocks:
each is one message in the end. Requests of one group share a block, which stands where the
first of them would and goes where that one goes. The texts of the group are put around its
entries.
-/

namespace ChatPrompt.Injection

/-- What becomes one message. -/
structure Block where
  /-- Where the message should go. -/
  targets : List Target
  /-- The group whose requests share it. -/
  group : Option String
  /-- The texts of its requests. -/
  entries : List String
  deriving DecidableEq, Repr

/-- The requests of a lane in the order in which they are served: by priority, and those of
equal priority in the order given. -/
def served (lane : String) (requests : List Request) : List Request :=
  (requests.filter fun request => request.lane == lane).mergeSort fun a b =>
    b.priority ≤ a.priority

/-- What the text of a lane sees of a request. -/
def requestData (lane : Blueprint.Lane) (request : Request) : Json :=
  .object [("lane", .string lane.id), ("payload", request.payload),
    ("request", .object [("groupId", (request.group.map Json.string).getD .null),
      ("priority", .ofInt request.priority.toInt)])]

/-- The text of a request, if it has any. -/
def entryText (lane : Blueprint.Lane) (request : Request) : Option String :=
  Text.contentful? (lane.template.render (Scope.ofContext (requestData lane request)))

/-- Puts an entry into the block of its group, if there is one. -/
def joinGroup (group entry : String) : List Block → Option (List Block)
  | [] => none
  | block :: rest =>
    if block.group = some group then
      some ({ block with entries := block.entries ++ [entry] } :: rest)
    else (joinGroup group entry rest).map (block :: ·)

/-- The blocks with one more request. -/
def addRequest (lane : Blueprint.Lane) (blocks : List Block) (request : Request) :
    List Block :=
  match entryText lane request with
  | none => blocks
  | some entry =>
    let joined := request.group.bind fun group => joinGroup group entry blocks
    joined.getD (blocks ++ [⟨request.targets, request.group, [entry]⟩])

/-- The blocks of some requests in the order in which they are served. -/
def blocks (lane : Blueprint.Lane) (requests : List Request) : List Block :=
  requests.foldl (addRequest lane) []

/-- What the texts around a group see. -/
def groupData (lane : Blueprint.Lane) (group : Blueprint.LaneGroup) (entries : List String) :
    Json :=
  .object [("entries", .array (entries.map .string)), ("group", .string group.id),
    ("lane", .string lane.id)]

/-- The text around a group on one side, if it has any. -/
def wrapper (scope : Scope) (leaf : Option Leaf) : Option String :=
  leaf.bind fun leaf => Text.contentful? (leaf.render scope)

/-- The message of some entries of a block: a line each, with the texts of the group around
them. -/
def compose (lane : Blueprint.Lane) (group : Option String) (entries : List String) : String :=
  match group.bind lane.group? with
  | none => "\n".intercalate entries
  | some wrappers =>
    let scope := Scope.ofContext (groupData lane wrappers entries)
    "\n".intercalate ((wrapper scope wrappers.opening).toList ++ entries ++
      (wrapper scope wrappers.closing).toList)

end ChatPrompt.Injection
