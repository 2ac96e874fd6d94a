import ChatPrompt.Blueprint.Basic
import ChatPrompt.Estimator
import ChatPrompt.Source

/-!
# What a render reads

The environment of a render: its sources, its context and the estimator of costs. References
are resolved in it, and conditions hold in it or not. A value that is `null` counts as
absent here. Nothing of this changes during a render, so a reference has one value in a
scope.
-/

namespace ChatPrompt

namespace Blueprint

mutual

/-- The value of arguments with their texts rendered in a scope. -/
def Arguments.value (scope : Scope) : Arguments → Json
  | .literal value => value
  | .text leaf => .string (leaf.render scope)
  | .array items => .array (Arguments.values scope items)
  | .object fields => .object (Arguments.namedValues scope fields)

/-- The values of a sequence of arguments. -/
def Arguments.values (scope : Scope) : List Arguments → List Json
  | [] => []
  | item :: rest => item.value scope :: Arguments.values scope rest

/-- The values of named arguments. -/
def Arguments.namedValues (scope : Scope) : List (String × Arguments) → Json.Fields
  | [] => []
  | (name, argument) :: rest => (name, argument.value scope) :: Arguments.namedValues scope rest

end

end Blueprint

namespace Render

/-- What a render reads. -/
structure Environment where
  /-- The sources that references name. -/
  sources : Registry
  /-- The data of the render. -/
  context : Json
  /-- What a text costs. -/
  estimate : Estimator

namespace Environment

/-- The scope that everything starts in. -/
def root (env : Environment) : Scope := Scope.ofContext env.context

/-- What a reference finds, `null` included. -/
def find (env : Environment) (scope : Scope) (reference : Blueprint.Reference) : Option Json :=
  match reference.target with
  | .source name steps =>
    (env.sources.resolve name env.context (reference.arguments.value scope)).bind
      (Segment.walk steps)
  | .scope path => scope.resolve path

/-- The value of a reference. -/
def resolve (env : Environment) (scope : Scope) (reference : Blueprint.Reference) :
    Option Json :=
  (env.find scope reference).filter fun value => !value.isNull

/-- The items of a reference: the elements of an array, and any other value as the only
item. -/
def items (env : Environment) (scope : Scope) (reference : Blueprint.Reference) : List Json :=
  match env.resolve scope reference with
  | some (.array items) => items
  | some value => [value]
  | none => []

mutual

/-- Whether a condition holds. -/
def holds (env : Environment) (scope : Scope) : Blueprint.Condition → Bool
  | .present target => Value.isPresent (env.resolve scope target)
  | .nonEmpty target => Value.hasContent (env.resolve scope target)
  | .compare target op value => Value.holds (env.resolve scope target) op (some value)
  | .expression expr => expr.holds scope
  | .all conditions => holdsAll env scope conditions
  | .any conditions => holdsAny env scope conditions
  | .negation condition => !holds env scope condition

/-- Whether every one of some conditions holds. -/
def holdsAll (env : Environment) (scope : Scope) : List Blueprint.Condition → Bool
  | [] => true
  | condition :: rest => holds env scope condition && holdsAll env scope rest

/-- Whether one of some conditions holds. -/
def holdsAny (env : Environment) (scope : Scope) : List Blueprint.Condition → Bool
  | [] => false
  | condition :: rest => holds env scope condition || holdsAny env scope rest

end

/-- The text of what a message says. -/
def text (env : Environment) (scope : Scope) : Blueprint.Content → String
  | .text leaf => leaf.render scope
  | .value reference => Value.text (env.resolve scope reference)

/-- The cost of a message. -/
def cost (env : Environment) (message : Message) : Tokens := env.estimate message.content

end Environment

/-- The key of a message in a scope. A blank one is none. -/
def anchorKey (scope : Scope) (anchor : Option Leaf) : Option String :=
  anchor.bind fun leaf => Text.contentful? (leaf.render scope)

end Render

end ChatPrompt
