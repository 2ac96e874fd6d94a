import ChatPrompt.Json.Basic

/-!
# Schemas

A schema describes which values a document may hold. It is a tree of rules, each of which
speaks about values of one kind and lets all others pass; definitions are referred to by
name, so that schemas of nested documents can be given. A schema is itself written as a
value, with each rule under its keyword.
-/

namespace ChatPrompt

namespace Schema

/-- The kinds of values that a schema tells apart. -/
inductive Kind where
  /-- Sequences. -/
  | array
  /-- Truth values. -/
  | boolean
  /-- Numbers without a fraction. -/
  | integer
  /-- Objects. -/
  | object
  /-- Texts. -/
  | string
  deriving DecidableEq, Repr

/-- The word for a kind. -/
def Kind.word : Kind → String
  | .array => "array"
  | .boolean => "boolean"
  | .integer => "integer"
  | .object => "object"
  | .string => "string"

/-- All kinds, in the order of their words. -/
def Kind.every : List Kind := [.array, .boolean, .integer, .object, .string]

/-- Whether a value is of a kind. A floating number without a fraction is an integer. -/
def Kind.admits : Kind → Json → Bool
  | .array, .array _ => true
  | .boolean, .bool _ => true
  | .integer, .number (.whole _) => true
  | .integer, .number (.floating x) => x.isWhole
  | .object, .object _ => true
  | .string, .string _ => true
  | _, _ => false

end Schema

/-- A description of the values that are allowed. -/
inductive Schema where
  /-- Every value. -/
  | anything
  /-- Values that obey each of some rules. -/
  | rules (schemas : List Schema)
  /-- Values of one of some kinds. -/
  | ofKind (kinds : List Schema.Kind)
  /-- One of some words. -/
  | oneOf (words : List String)
  /-- One word. -/
  | exactly (word : String)
  /-- Texts of at least so many characters. -/
  | minLength (length : Nat)
  /-- Numbers of at least some value. -/
  | minimum (bound : Nat)
  /-- Objects that have some fields. -/
  | required (keys : List String)
  /-- Objects whose fields of some names obey schemas of their own. -/
  | properties (known : List (String × Schema))
  /-- Objects without fields of other names. -/
  | closed (known : List String)
  /-- Objects whose fields all obey one schema. -/
  | values (schema : Schema)
  /-- Sequences whose elements all obey one schema. -/
  | items (schema : Schema)
  /-- Values that obey each of some schemas. -/
  | allOf (schemas : List Schema)
  /-- Values that obey one of some schemas. -/
  | anyOf (schemas : List Schema)
  /-- Values that obey the second schema if they obey the first. -/
  | whenever (condition consequence : Schema)
  /-- Values that obey the definition of a name. -/
  | named (name : String)

namespace Schema

/-- Objects with some fields of which some are required, and no others. -/
def record (keys : List String) (known : List (String × Schema)) : Schema :=
  .rules [.required keys, .properties known, .closed (known.map Prod.fst)]

/-- Words as values. -/
def wordsToJson (words : List String) : Json := .array (words.map .string)

/-- The value of a schema with some keywords. That of every value has none. -/
def ofFields (schema : Schema) (fields : Json.Fields) : Json :=
  match schema with
  | .anything => .bool true
  | _ => .object fields

mutual

/-- The keywords of a schema. -/
def toFields : Schema → Json.Fields
  | .anything => []
  | .rules schemas => toFieldsOfList schemas
  | .ofKind [kind] => [("type", .string kind.word)]
  | .ofKind kinds => [("type", wordsToJson (kinds.map Kind.word))]
  | .oneOf words => [("enum", wordsToJson words)]
  | .exactly word => [("const", .string word)]
  | .minLength length => [("minLength", .ofNat length)]
  | .minimum bound => [("minimum", .ofNat bound)]
  | .required keys => [("required", wordsToJson keys)]
  | .properties known => [("properties", .object (toNamedValues known))]
  | .closed _ => [("additionalProperties", .bool false)]
  | .values schema => [("additionalProperties", ofFields schema (toFields schema))]
  | .items schema => [("items", ofFields schema (toFields schema))]
  | .allOf schemas => [("allOf", .array (toValues schemas))]
  | .anyOf schemas => [("anyOf", .array (toValues schemas))]
  | .whenever condition consequence =>
    [("if", ofFields condition (toFields condition)),
      ("then", ofFields consequence (toFields consequence))]
  | .named name => [("$ref", .string ("#/$defs/" ++ name))]

/-- The keywords of several schemas together. -/
def toFieldsOfList : List Schema → Json.Fields
  | [] => []
  | schema :: rest => toFields schema ++ toFieldsOfList rest

/-- Schemas as values. -/
def toValues : List Schema → List Json
  | [] => []
  | schema :: rest => ofFields schema (toFields schema) :: toValues rest

/-- Named schemas as named values. -/
def toNamedValues : List (String × Schema) → Json.Fields
  | [] => []
  | (name, schema) :: rest => (name, ofFields schema (toFields schema)) :: toNamedValues rest

end

/-- A schema as a value. -/
def toJson (schema : Schema) : Json := ofFields schema (toFields schema)

/-- Schemas under the names by which they are referred to. -/
abbrev Definitions := List (String × Schema)

end Schema

end ChatPrompt
