import ChatPrompt.Schema.Violation

/-!
# Checking a document against a schema

All violations of a schema in a value. A rule that speaks about another kind of values finds
nothing wrong, so that a value of a wrong kind is reported once, by the rule on kinds.

Definitions may refer to each other in circles, as nested documents require. Between two
steps down into the value no definition is met twice, so that following as many references
as there are definitions for each level of the value suffices.
-/

namespace ChatPrompt

namespace Schema

/-- Whether a number is below a bound. -/
def isBelow (bound : Nat) : Json.Numeral → Bool
  | .whole n => n < bound
  | .floating x => x.compare (Number.Double.ofInt bound) == .lt

/-- A violation of a rule, if the rule is not obeyed. -/
def demand (obeyed : Bool) (place : List Segment) (value : Json) (cause : Cause) :
    List Violation :=
  if obeyed then [] else [⟨place, value, cause⟩]

/-- The required fields that an object does not have. -/
def missingFields (keys : List String) (place : List Segment) (fields : Json.Fields) :
    List Violation :=
  (keys.filter fun key => (fields.lookup key).isNone).map fun key =>
    ⟨place, .object fields, .missing key⟩

/-- The fields of an object that have none of some names. -/
def unexpectedFields (known : List String) (fields : Json.Fields) : List String :=
  (fields.map Prod.fst).filter fun key => !known.contains key

mutual

/-- The violations of a schema in a value at a place, given those of the definitions. -/
def check (definition : String → List Segment → Json → List Violation) :
    Schema → List Segment → Json → List Violation
  | .anything, _, _ => []
  | .rules schemas, place, value => checkAll definition schemas place value
  | .ofKind kinds, place, value =>
    demand (kinds.any (·.admits value)) place value (.wrongKind kinds)
  | .oneOf words, place, value =>
    demand (words.any fun word => value.same (.string word)) place value (.notListed words)
  | .exactly word, place, value =>
    demand (value.same (.string word)) place value (.notThatWord word)
  | .minLength length, place, .string s =>
    demand (length ≤ s.length) place (.string s) (.tooShort length)
  | .minimum bound, place, .number n =>
    demand (!isBelow bound n) place (.number n) (.tooSmall bound)
  | .required keys, place, .object fields => missingFields keys place fields
  | .properties known, place, .object fields => checkFields definition known place fields
  | .closed known, place, .object fields =>
    let extra := unexpectedFields known fields
    demand extra.isEmpty place (.object fields) (.unexpected extra)
  | .values schema, place, .object fields =>
    fields.flatMap fun field => check definition schema (place ++ [.key field.1]) field.2
  | .items schema, place, .array elements =>
    elements.zipIdx.flatMap fun element =>
      check definition schema (place ++ [.index element.2]) element.1
  | .allOf schemas, place, value => checkAll definition schemas place value
  | .anyOf schemas, place, value =>
    demand (obeysAny definition schemas place value) place value .noAlternative
  | .whenever condition consequence, place, value =>
    if (check definition condition place value).isEmpty then
      check definition consequence place value
    else []
  | .named name, place, value => definition name place value
  | _, _, _ => []

/-- The violations of several schemas. -/
def checkAll (definition : String → List Segment → Json → List Violation) :
    List Schema → List Segment → Json → List Violation
  | [], _, _ => []
  | schema :: rest, place, value =>
    check definition schema place value ++ checkAll definition rest place value

/-- Whether a value obeys one of several schemas. -/
def obeysAny (definition : String → List Segment → Json → List Violation) :
    List Schema → List Segment → Json → Bool
  | [], _, _ => false
  | schema :: rest, place, value =>
    (check definition schema place value).isEmpty || obeysAny definition rest place value

/-- The violations in the fields that have schemas of their own. -/
def checkFields (definition : String → List Segment → Json → List Violation) :
    List (String × Schema) → List Segment → Json.Fields → List Violation
  | [], _, _ => []
  | (name, schema) :: rest, place, fields =>
    (match fields.lookup name with
      | some value => check definition schema (place ++ [.key name]) value
      | none => []) ++ checkFields definition rest place fields

end

namespace Definitions

/-- The violations of a definition, following so many references. -/
def check (definitions : Definitions) : Nat → String → List Segment → Json → List Violation
  | 0, _, _, _ => []
  | budget + 1, name, place, value =>
    match definitions.lookup name with
    | some schema => schema.check (definitions.check budget) place value
    | none => []

/-- The violations of a schema in a document. -/
def violations (definitions : Definitions) (schema : Schema) (document : Json) :
    List Violation :=
  schema.check (definitions.check ((document.depth + 1) * definitions.length)) [] document

end Definitions

end Schema

end ChatPrompt
