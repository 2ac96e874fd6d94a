import ChatPrompt.Proofs.Conformity
import ChatPrompt.Template.Reading
import ChatPrompt.Template.Schema

/-!
# Shapes of the schema of templates

The schema of templates is put together from few shapes: texts, numbers, sequences, records,
and records of one of several kinds. What each shape admits is said here once, in terms of
the values themselves, whatever the definitions mean to which it refers.
-/

namespace ChatPrompt

namespace Schema

theorem Kind.admits_array_iff {value : Json} :
    Kind.array.admits value = true ↔ ∃ items, value = .array items := by
  cases value with
  | array items => exact iff_of_true rfl ⟨items, rfl⟩
  | _ => exact iff_of_false Bool.false_ne_true fun ⟨_, h⟩ => nomatch h

theorem Kind.admits_boolean_iff {value : Json} :
    Kind.boolean.admits value = true ↔ ∃ b, value = .bool b := by
  cases value with
  | bool b => exact iff_of_true rfl ⟨b, rfl⟩
  | _ => exact iff_of_false Bool.false_ne_true fun ⟨_, h⟩ => nomatch h

theorem Kind.admits_object_iff {value : Json} :
    Kind.object.admits value = true ↔ ∃ fields, value = .object fields := by
  cases value with
  | object fields => exact iff_of_true rfl ⟨fields, rfl⟩
  | _ => exact iff_of_false Bool.false_ne_true fun ⟨_, h⟩ => nomatch h

theorem Kind.admits_string_iff {value : Json} :
    Kind.string.admits value = true ↔ ∃ s, value = .string s := by
  cases value with
  | string s => exact iff_of_true rfl ⟨s, rfl⟩
  | _ => exact iff_of_false Bool.false_ne_true fun ⟨_, h⟩ => nomatch h

/-- Only numbers are of the kind of integers. -/
theorem Kind.exists_number_of_admits_integer {value : Json}
    (h : Kind.integer.admits value = true) : ∃ n, value = .number n := by
  cases value with
  | number n => exact ⟨n, rfl⟩
  | _ => exact absurd h Bool.false_ne_true

/-- Whole numbers are of the kind of integers. -/
theorem Kind.admits_integer_ofInt (n : Int) : Kind.integer.admits (.ofInt n) = true := rfl

variable {meaning : String → Json → Prop}

/-- A definition that is there is obeyed where its schema admits, with one reference less to
follow. -/
theorem Definitions.obeys_succ_iff {definitions : Definitions} {budget : Nat} {name : String}
    {schema : Schema} {value : Json} (hlookup : definitions.lookup name = some schema) :
    definitions.Obeys (budget + 1) name value ↔
      schema.Admits (definitions.Obeys budget) value := by
  rw [Obeys, hlookup]

/-- Where the schema of a definition admits a value however many references are followed, the
value obeys the definition. -/
theorem Definitions.obeys_of_admits {definitions : Definitions} {name : String} {schema : Schema}
    {value : Json} (hlookup : definitions.lookup name = some schema)
    (h : ∀ budget, schema.Admits (definitions.Obeys budget) value) :
    ∀ budget, definitions.Obeys budget name value
  | 0 => trivial
  | budget + 1 => (obeys_succ_iff hlookup).2 (h budget)

/-- A record has its required fields, those with schemas of their own obey them, and no others
are there. -/
theorem admits_record_iff {keys : List String} {known : List (String × Schema)}
    {fields : Json.Fields} :
    (record keys known).Admits meaning (.object fields) ↔
      (∀ key ∈ keys, (fields.lookup key).isSome) ∧ AdmitsFields meaning known fields ∧
        ∀ field ∈ fields, field.1 ∈ known.map Prod.fst := by
  simp [record, Admits, AdmitsAll]

/-- Of the texts, those words are admitted that are listed. -/
theorem admits_oneOf_string_iff {words : List String} {word : String} :
    (oneOf words).Admits meaning (.string word) ↔ word ∈ words := by
  simp [Admits]

/-- Of the texts, only the word itself is admitted. -/
theorem admits_exactly_string_iff {expected word : String} :
    (exactly expected).Admits meaning (.string word) ↔ word = expected := by
  simp [Admits]

end Schema

namespace Template

open Schema

variable {meaning : String → Json → Prop} {value : Json} {fields : Json.Fields}

theorem admits_textSchema_iff : textSchema.Admits meaning value ↔ ∃ s, value = .string s := by
  simp [textSchema, Admits, AdmitsAll, Kind.admits_string_iff]

/-- Texts that are not empty. -/
theorem admits_nameSchema_iff :
    nameSchema.Admits meaning value ↔ ∃ s, value = .string s ∧ s ≠ "" := by
  cases value <;>
    simp [nameSchema, Admits, AdmitsAll, Kind.admits_string_iff, Nat.one_le_iff_ne_zero]

theorem admits_flagSchema_iff : flagSchema.Admits meaning value ↔ ∃ b, value = .bool b := by
  simp [flagSchema, Admits, AdmitsAll, Kind.admits_boolean_iff]

/-- Whole numbers are integers. -/
theorem admits_integerSchema (n : Int) : integerSchema.Admits meaning (.ofInt n) := by
  simp [integerSchema, Admits, AdmitsAll, Kind.admits_integer_ofInt]

/-- Natural numbers are counts. -/
theorem admits_countSchema (n : Nat) : countSchema.Admits meaning (.ofNat n) := by
  have hkind : Kind.integer.admits (.number (.whole n)) = true := Kind.admits_integer_ofInt n
  simp [countSchema, Admits, AdmitsAll, hkind, Json.ofNat, Json.ofInt, isBelow]

/-- Only numbers are integers. -/
theorem exists_number_of_admits_integerSchema (h : integerSchema.Admits meaning value) :
    ∃ n, value = .number n := by
  have hkind : Kind.integer.admits value = true := by
    simpa [integerSchema, Admits, AdmitsAll] using h
  exact Kind.exists_number_of_admits_integer hkind

/-- Only numbers that are not below nought are counts. -/
theorem exists_number_of_admits_countSchema (h : countSchema.Admits meaning value) :
    ∃ n, value = .number n ∧ isBelow 0 n = false := by
  have hboth : Kind.integer.admits value = true ∧ (minimum 0).Admits meaning value := by
    simpa [countSchema, Admits, AdmitsAll] using h
  obtain ⟨n, rfl⟩ := Kind.exists_number_of_admits_integer hboth.1
  exact ⟨n, rfl, hboth.2⟩

/-- Sequences of admitted elements. -/
theorem admits_listSchema_iff {schema : Schema} :
    (listSchema schema).Admits meaning value ↔
      ∃ items, value = .array items ∧ ∀ item ∈ items, schema.Admits meaning item := by
  cases value <;> simp [listSchema, Admits, AdmitsAll, Kind.admits_array_iff]

/-- Records. -/
theorem admits_recordSchema_iff {keys : List String} {known : List (String × Schema)} :
    (recordSchema keys known).Admits meaning value ↔
      ∃ fields, value = .object fields ∧
        (record keys known).Admits meaning (.object fields) := by
  cases value <;> simp [recordSchema, record, Admits, AdmitsAll, Kind.admits_object_iff]

/-- Records of one of several kinds. -/
theorem admits_taggedSchema_iff {tag : String} {words : List String} {cases : List Schema} :
    (taggedSchema tag words cases).Admits meaning value ↔
      ∃ fields, value = .object fields ∧
        (∃ word ∈ words, fields.lookup tag = some (.string word)) ∧
          AdmitsAll meaning cases value := by
  cases value with
  | object fields =>
    cases hlookup : fields.lookup tag with
    | none => simp [taggedSchema, Admits, AdmitsAll, AdmitsFields, Kind.admits_object_iff,
        hlookup,
        -List.lookup_isSome_iff]
    | some found => simp [taggedSchema, Admits, AdmitsAll, AdmitsFields, Kind.admits_object_iff,
        hlookup,
        -List.lookup_isSome_iff]
  | _ => simp [taggedSchema, Admits, AdmitsAll, Kind.admits_object_iff]

/-- Records of one of several kinds name theirs. -/
theorem exists_kind_of_admits_taggedSchema {α : Type} (choices : List (String × α)) {tag : String}
    {cases : List Schema}
    (h : (taggedSchema tag (choices.map Prod.fst) cases).Admits meaning value) :
    ∃ fields word kind, value = .object fields ∧ fields.lookup tag = some (.string word) ∧
      (word, kind) ∈ choices := by
  obtain ⟨fields, rfl, ⟨word, hword, hlookup⟩, -⟩ := admits_taggedSchema_iff.1 h
  obtain ⟨entry, hentry, rfl⟩ := List.mem_map.1 hword
  exact ⟨fields, entry.1, entry.2, rfl, hlookup, hentry⟩

/-- The fields of a kind are those that its definition asks for. -/
theorem admits_kindSchema_iff {tag word : String} {consequence : Schema} :
    (kindSchema tag word consequence).Admits meaning (.object fields) ↔
      (fields.lookup tag = some (.string word) →
        consequence.Admits meaning (.object fields)) := by
  cases hlookup : fields.lookup tag with
  | none => simp [kindSchema, Admits, AdmitsAll, AdmitsFields, hlookup, -List.lookup_isSome_iff]
  | some found =>
    simp [kindSchema, Admits, AdmitsAll, AdmitsFields, hlookup, -List.lookup_isSome_iff]

/-- The fields of a condition are those of its kind. -/
theorem admits_conditionCase_iff {kinds : Schema} {known : List (String × Schema)} :
    (conditionCase kinds known).Admits meaning (.object fields) ↔
      ((∃ found, fields.lookup "type" = some found ∧ kinds.Admits meaning found) →
        (record (known.map Prod.fst) (("type", .anything) :: known)).Admits meaning
          (.object fields)) := by
  cases hlookup : fields.lookup "type" with
  | none =>
    simp [conditionCase, Admits, AdmitsAll, AdmitsFields, hlookup, -List.lookup_isSome_iff]
  | some found =>
    simp [conditionCase, Admits, AdmitsAll, AdmitsFields, hlookup, -List.lookup_isSome_iff]

/-- A reference in short is a text that is not empty. -/
theorem admits_referenceSchema_string_iff {s : String} :
    referenceSchema.Admits meaning (.string s) ↔ s ≠ "" := by
  simp [referenceSchema, Admits, AdmitsAll, AdmitsAny, Kind.admits_string_iff,
    Kind.admits_object_iff, Nat.one_le_iff_ne_zero]

/-- A reference in full is a record with a source or a path. -/
theorem admits_referenceSchema_object_iff :
    referenceSchema.Admits meaning (.object fields) ↔
      (∀ field ∈ fields, field.1 ∈ ["source", "args", "path"]) ∧
        AdmitsFields meaning [("source", nameSchema), ("args", .rules []), ("path", nameSchema)]
          fields ∧
        ((fields.lookup "source").isSome ∨ (fields.lookup "path").isSome) := by
  simp [referenceSchema, Admits, AdmitsAll, AdmitsAny, Kind.admits_string_iff,
    Kind.admits_object_iff]

/-- References are texts and records. -/
theorem exists_of_admits_referenceSchema (h : referenceSchema.Admits meaning value) :
    (∃ s, value = .string s) ∨ ∃ fields, value = .object fields := by
  cases value <;>
    simp_all [referenceSchema, Admits, AdmitsAll, Kind.admits_string_iff, Kind.admits_object_iff]

/-- The fields of a condition of a kind, apart from the kind itself. -/
def Condition.Kind.known : Condition.Kind → List (String × Schema)
  | .present => [("ref", .named "dataRef")]
  | .nonEmpty => [("ref", .named "dataRef")]
  | .compare => [("ref", .named "dataRef"),
      ("op", .rules [.oneOf ["eq", "ne", "lt", "lte", "gt", "gte"]]), ("value", .rules [])]
  | .expression => [("expr", nameSchema)]
  | .all => [("conditions", listSchema (.named "condition"))]
  | .any => [("conditions", listSchema (.named "condition"))]
  | .negation => [("condition", .named "condition")]

/-- A condition of a kind has the fields of that kind. -/
theorem admits_conditionSchema_object_iff {word : String} {kind : Condition.Kind}
    (hkind : (word, kind) ∈ Condition.kinds) (htype : fields.lookup "type" = some (.string word)) :
    conditionSchema.Admits meaning (.object fields) ↔
      (record (kind.known.map Prod.fst) (("type", .anything) :: kind.known)).Admits meaning
        (.object fields) := by
  rw [conditionSchema, admits_taggedSchema_iff]
  simp only [Condition.kinds, List.mem_cons, List.not_mem_nil, or_false, Prod.mk.injEq] at hkind
  rcases hkind with ⟨rfl, rfl⟩ | ⟨rfl, rfl⟩ | ⟨rfl, rfl⟩ | ⟨rfl, rfl⟩ | ⟨rfl, rfl⟩ | ⟨rfl, rfl⟩ |
    ⟨rfl, rfl⟩ <;>
  simp [AdmitsAll, admits_conditionCase_iff, htype, admits_oneOf_string_iff,
    admits_exactly_string_iff, Condition.Kind.known]

/-- The definition of the fields of a step of a kind. -/
def PlanNode.Kind.definition : PlanNode.Kind → String
  | .message => "planMessage"
  | .forEach => "forEach"
  | .branch => "ifNode"

/-- A step of a kind obeys the definition of that kind. -/
theorem admits_planNodeSchema_object_iff {word : String} {kind : PlanNode.Kind}
    (hkind : (word, kind) ∈ PlanNode.kinds) (hlookup : fields.lookup "kind" = some (.string word)) :
    planNodeSchema.Admits meaning (.object fields) ↔ meaning kind.definition (.object fields) := by
  rw [planNodeSchema, admits_taggedSchema_iff]
  simp only [PlanNode.kinds, List.mem_cons, List.not_mem_nil, or_false, Prod.mk.injEq] at hkind
  rcases hkind with ⟨rfl, rfl⟩ | ⟨rfl, rfl⟩ | ⟨rfl, rfl⟩ <;>
  simp [AdmitsAll, admits_kindSchema_iff, hlookup, Admits, PlanNode.Kind.definition]

/-- The definition of the fields of an element of the layout of a kind. -/
def LayoutNode.Kind.definition : LayoutNode.Kind → String
  | .message => "layoutMessage"
  | .slot => "layoutSlot"

/-- An element of the layout of a kind obeys the definition of that kind. -/
theorem admits_layoutNodeSchema_object_iff {word : String} {kind : LayoutNode.Kind}
    (hkind : (word, kind) ∈ LayoutNode.kinds)
    (hlookup : fields.lookup "kind" = some (.string word)) :
    layoutNodeSchema.Admits meaning (.object fields) ↔
      meaning kind.definition (.object fields) := by
  rw [layoutNodeSchema, admits_taggedSchema_iff]
  simp only [LayoutNode.kinds, List.mem_cons, List.not_mem_nil, or_false, Prod.mk.injEq] at hkind
  rcases hkind with ⟨rfl, rfl⟩ | ⟨rfl, rfl⟩ <;>
  simp [AdmitsAll, admits_kindSchema_iff, hlookup, Admits, LayoutNode.Kind.definition]

/-- Groups of a lane. -/
def groupSchema : Schema :=
  recordSchema ["id"] [("id", nameSchema), ("open", textSchema), ("close", textSchema)]

/-- A document has no violation exactly where the schema of templates admits it. -/
theorem violations_eq_nil_iff {document : Json} :
    violations document = [] ↔
      schema.Admits (definitions.Obeys ((document.depth + 1) * definitions.length)) document := by
  rw [violations, ← List.length_eq_zero_iff, List.length_mergeSort, List.length_eq_zero_iff]
  exact Definitions.violations_eq_nil_iff

end Template

end ChatPrompt
