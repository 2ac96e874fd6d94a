import ChatPrompt.Schema.Check

/-!
# The schema of templates

Which documents are templates. A document is checked as a whole before a template is read
from it, so that all its faults are known at once. The definitions are those of the parts of
a template; conditions and plans refer to themselves.
-/

namespace ChatPrompt

namespace Template

open Schema

/-- Any text. -/
def textSchema : Schema := .rules [.ofKind [.string]]

/-- Texts that are not empty. -/
def nameSchema : Schema := .rules [.ofKind [.string], .minLength 1]

/-- Truth values. -/
def flagSchema : Schema := .rules [.ofKind [.boolean]]

/-- Numbers without a fraction. -/
def integerSchema : Schema := .rules [.ofKind [.integer]]

/-- Numbers without a fraction that are not negative. -/
def countSchema : Schema := .rules [.ofKind [.integer], .minimum 0]

/-- Sequences of which each element obeys a schema. -/
def listSchema (schema : Schema) : Schema := .rules [.ofKind [.array], .items schema]

/-- Objects with some fields of which some are required, and no others. -/
def recordSchema (keys : List String) (known : List (String × Schema)) : Schema :=
  .rules [.ofKind [.object], record keys known]

/-- The definition of a name, where its record has a kind under a key. -/
def kindSchema (tag word : String) (consequence : Schema) : Schema :=
  .rules [.whenever (.rules [.required [tag], .properties [(tag, .rules [.exactly word])]])
    consequence]

/-- The schema of records whose kind is one of some words under a key, where the kind also
decides on the other fields. -/
def taggedSchema (tag : String) (words : List String) (cases : List Schema) : Schema :=
  .rules [.ofKind [.object], .required [tag], .properties [(tag, .rules [.oneOf words])],
    .allOf cases]

/-- References to data. -/
def referenceSchema : Schema :=
  let known := [("source", nameSchema), ("args", .rules []), ("path", nameSchema)]
  .rules [.ofKind [.string, .object], .minLength 1, .closed (known.map Prod.fst),
    .properties known,
    .anyOf [.rules [.ofKind [.string]], .rules [.required ["source"]],
      .rules [.required ["path"]]]]

/-- Frames. -/
def frameSchema : Schema :=
  recordSchema ["content"] [("role", .named "role"), ("content", textSchema)]

/-- Elements of the layout. -/
def layoutNodeSchema : Schema :=
  taggedSchema "kind" ["message", "slot"]
    [kindSchema "kind" "message" (.named "layoutMessage"),
      kindSchema "kind" "slot" (.named "layoutSlot")]

/-- Messages of the layout. -/
def layoutMessageSchema : Schema :=
  record ["role"] [("kind", .anything), ("role", .named "role"), ("content", textSchema),
    ("from", .named "dataRef"), ("prefix", flagSchema), ("anchor", nameSchema)]

/-- Places for generated messages. -/
def placeholderSchema : Schema :=
  record ["name"] [("kind", .anything), ("name", nameSchema), ("header", .named "frame"),
    ("footer", .named "frame"), ("omitIfEmpty", flagSchema)]

/-- Slots. -/
def slotSchema : Schema :=
  recordSchema ["plan"] [("priority", integerSchema), ("when", .named "condition"),
    ("budget", .named "tokens"), ("plan", .named "plan"), ("meta", .rules [])]

/-- Steps of a plan. -/
def planNodeSchema : Schema :=
  taggedSchema "kind" ["message", "forEach", "if"]
    [kindSchema "kind" "message" (.named "planMessage"),
      kindSchema "kind" "forEach" (.named "forEach"), kindSchema "kind" "if" (.named "ifNode")]

/-- Messages of a plan. -/
def planMessageSchema : Schema :=
  record ["role"] [("kind", .anything), ("role", .named "role"), ("content", textSchema),
    ("from", .named "dataRef"), ("anchor", nameSchema), ("budget", .named "tokens")]

/-- Loops. -/
def loopSchema : Schema :=
  record ["source", "map"] [("kind", .anything), ("source", .named "dataRef"),
    ("order", .rules [.oneOf ["asc", "desc"]]), ("sortBy", nameSchema),
    ("limit", countSchema), ("fillDir", .rules [.oneOf ["append", "prepend"]]),
    ("map", .named "plan"), ("interleave", .named "frame"), ("budget", .named "tokens"),
    ("stopWhenOutOfBudget", flagSchema)]

/-- Branches. -/
def branchSchema : Schema :=
  record ["condition", "then"] [("kind", .anything), ("condition", .named "condition"),
    ("then", .named "plan"), ("else", .named "plan")]

/-- Conditions of one of some kinds, of which the fields are given. -/
def conditionCase (kinds : Schema) (known : List (String × Schema)) : Schema :=
  .rules [.whenever (.rules [.required ["type"], .properties [("type", .rules [kinds])]])
    (record (known.map Prod.fst) (("type", .anything) :: known))]

/-- Conditions. -/
def conditionSchema : Schema :=
  taggedSchema "type" ["exists", "nonEmpty", "compare", "expr", "all", "any", "not"]
    [conditionCase (.oneOf ["exists", "nonEmpty"]) [("ref", .named "dataRef")],
      conditionCase (.exactly "compare") [("ref", .named "dataRef"),
        ("op", .rules [.oneOf ["eq", "ne", "lt", "lte", "gt", "gte"]]), ("value", .rules [])],
      conditionCase (.exactly "expr") [("expr", nameSchema)],
      conditionCase (.oneOf ["all", "any"]) [("conditions", listSchema (.named "condition"))],
      conditionCase (.exactly "not") [("condition", .named "condition")]]

/-- Lanes. -/
def laneSchema : Schema :=
  recordSchema ["id", "role", "template"] [("id", nameSchema), ("enabled", flagSchema),
    ("role", .named "role"), ("template", textSchema), ("order", integerSchema),
    ("groups", listSchema (recordSchema ["id"] [("id", nameSchema), ("open", textSchema),
      ("close", textSchema)])),
    ("reserveTokens", .named "tokens")]

/-- The definitions to which the schema of templates refers. -/
def definitions : Definitions :=
  [("role", .rules [.oneOf ["system", "user", "assistant"]]), ("tokens", countSchema),
    ("frame", frameSchema), ("dataRef", referenceSchema), ("layoutNode", layoutNodeSchema),
    ("layoutMessage", layoutMessageSchema), ("layoutSlot", placeholderSchema),
    ("slot", slotSchema), ("plan", listSchema (.named "planNode")),
    ("planNode", planNodeSchema), ("planMessage", planMessageSchema), ("forEach", loopSchema),
    ("ifNode", branchSchema), ("condition", conditionSchema), ("lane", laneSchema)]

/-- Templates. -/
def schema : Schema :=
  recordSchema ["id", "name", "version", "layout"] [("id", nameSchema), ("task", textSchema),
    ("name", textSchema), ("version", countSchema),
    ("layout", listSchema (.named "layoutNode")),
    ("slots", .rules [.ofKind [.object], .values (.named "slot")]),
    ("attachments", listSchema (.named "lane"))]

/-- The schema of templates as a document of its own. -/
def schemaDocument : Json :=
  .object ([("$schema", .string "https://json-schema.org/draft/2020-12/schema"),
    ("title", .string "promptloom template")] ++ schema.toFields ++
    [("$defs", .object (toNamedValues definitions))])

/-- The faults of a document that should be a template, in the order of their places. -/
def violations (document : Json) : List Violation :=
  (definitions.violations schema document).mergeSort Violation.notAfter

end Template

end ChatPrompt
