import ChatPrompt.Schema.Check

/-!
# What a schema admits

A schema is checked by listing what is wrong with a value, each fault with the place where it
stands. Which values have no fault depends on no place, and is said here by recursion over the
schema alone: every rule becomes a proposition about the values of its kind, and holds of all
other values.
-/

namespace ChatPrompt

namespace Schema

mutual

/-- Whether a value obeys a schema, given which values obey the definitions. -/
def Admits (definition : String → Json → Prop) : Schema → Json → Prop
  | .anything, _ => True
  | .rules schemas, value => AdmitsAll definition schemas value
  | .ofKind kinds, value => ∃ kind ∈ kinds, kind.admits value = true
  | .oneOf words, value => ∃ word ∈ words, value = .string word
  | .exactly word, value => value = .string word
  | .minLength length, .string s => length ≤ s.length
  | .minimum bound, .number n => isBelow bound n = false
  | .required keys, .object fields => ∀ key ∈ keys, (fields.lookup key).isSome
  | .properties known, .object fields => AdmitsFields definition known fields
  | .closed known, .object fields => ∀ field ∈ fields, field.1 ∈ known
  | .values schema, .object fields => ∀ field ∈ fields, Admits definition schema field.2
  | .items schema, .array elements => ∀ element ∈ elements, Admits definition schema element
  | .allOf schemas, value => AdmitsAll definition schemas value
  | .anyOf schemas, value => AdmitsAny definition schemas value
  | .whenever condition consequence, value =>
    Admits definition condition value → Admits definition consequence value
  | .named name, value => definition name value
  | _, _ => True

/-- Whether a value obeys all of several schemas. -/
def AdmitsAll (definition : String → Json → Prop) : List Schema → Json → Prop
  | [], _ => True
  | schema :: rest, value => Admits definition schema value ∧ AdmitsAll definition rest value

/-- Whether a value obeys one of several schemas. -/
def AdmitsAny (definition : String → Json → Prop) : List Schema → Json → Prop
  | [], _ => False
  | schema :: rest, value => Admits definition schema value ∨ AdmitsAny definition rest value

/-- Whether the fields that have schemas of their own obey them. -/
def AdmitsFields (definition : String → Json → Prop) :
    List (String × Schema) → Json.Fields → Prop
  | [], _ => True
  | (name, schema) :: rest, fields =>
    (∀ value, fields.lookup name = some value → Admits definition schema value) ∧
      AdmitsFields definition rest fields

end

/-- The value of a word is the same as no other value. -/
theorem same_string_iff {value : Json} {word : String} :
    value.same (.string word) = true ↔ value = .string word := by
  cases value <;> simp [Json.same]

/-- A demand finds nothing wrong exactly where it is met. -/
theorem demand_eq_nil_iff {obeyed : Bool} {place : List Segment} {value : Json} {cause : Cause} :
    demand obeyed place value cause = [] ↔ obeyed = true := by
  cases obeyed <;> simp [demand]

/-- No required field is missing exactly where all of them are there. -/
theorem missingFields_eq_nil_iff {keys : List String} {place : List Segment}
    {fields : Json.Fields} :
    missingFields keys place fields = [] ↔ ∀ key ∈ keys, (fields.lookup key).isSome := by
  simp [missingFields, Option.isSome_iff_ne_none]

/-- No field is unexpected exactly where all of them are known. -/
theorem unexpectedFields_eq_nil_iff {known : List String} {fields : Json.Fields} :
    unexpectedFields known fields = [] ↔ ∀ field ∈ fields, field.1 ∈ known := by
  simp [unexpectedFields]

variable {definition : String → List Segment → Json → List Violation}
  {meaning : String → Json → Prop}

mutual

/-- A check finds nothing wrong exactly where the schema admits the value, at any place. -/
theorem check_eq_nil_iff
    (hmeaning : ∀ name place value, definition name place value = [] ↔ meaning name value) :
    ∀ (schema : Schema) (place : List Segment) (value : Json),
      check definition schema place value = [] ↔ Admits meaning schema value
  | .anything, _, _ => by simp [check, Admits]
  | .rules schemas, place, value => by
    simpa [check, Admits] using checkAll_eq_nil_iff hmeaning schemas place value
  | .ofKind kinds, _, _ => by simp [check, Admits, demand_eq_nil_iff]
  | .oneOf words, _, _ => by simp [check, Admits, demand_eq_nil_iff, same_string_iff]
  | .exactly word, _, _ => by simp [check, Admits, demand_eq_nil_iff, same_string_iff]
  | .minLength length, _, value => by
    cases value <;> simp [check, Admits, demand_eq_nil_iff]
  | .minimum bound, _, value => by
    cases value <;> simp [check, Admits, demand_eq_nil_iff]
  | .required keys, _, value => by
    cases value with
    | object fields => rw [check, Admits, missingFields_eq_nil_iff]
    | _ => simp [check, Admits]
  | .properties known, place, value => by
    cases value with
    | object fields =>
      simpa [check, Admits] using checkFields_eq_nil_iff hmeaning known place fields
    | _ => simp [check, Admits]
  | .closed known, _, value => by
    cases value with
    | object fields =>
      rw [check, Admits, demand_eq_nil_iff, List.isEmpty_iff, unexpectedFields_eq_nil_iff]
    | _ => simp [check, Admits]
  | .values schema, place, value => by
    cases value with
    | object fields =>
      rw [check, Admits, List.flatMap_eq_nil_iff]
      exact forall₂_congr fun field _ => check_eq_nil_iff hmeaning schema _ field.2
    | _ => simp [check, Admits]
  | .items schema, place, value => by
    cases value with
    | array elements =>
      rw [check, Admits, List.flatMap_eq_nil_iff]
      have heach : ∀ element : Json × Nat,
          check definition schema (place ++ [.index element.2]) element.1 = [] ↔
            Admits meaning schema element.1 := fun element =>
        check_eq_nil_iff hmeaning schema _ element.1
      simp only [heach]
      -- The positions of the elements only go into the places of the faults.
      exact ⟨fun h element hmem => by
          obtain ⟨index, hindex⟩ := List.mem_iff_getElem?.mp hmem
          exact h (element, index) (List.mk_mem_zipIdx_iff_getElem?.mpr hindex),
        fun h element hmem => h element.1 (List.fst_mem_of_mem_zipIdx hmem)⟩
    | _ => simp [check, Admits]
  | .allOf schemas, place, value => by
    simpa [check, Admits] using checkAll_eq_nil_iff hmeaning schemas place value
  | .anyOf schemas, place, value => by
    rw [check, Admits, demand_eq_nil_iff]
    exact obeysAny_iff hmeaning schemas place value
  | .whenever condition consequence, place, value => by
    rw [check, Admits]
    have hcondition := check_eq_nil_iff hmeaning condition place value
    have hconsequence := check_eq_nil_iff hmeaning consequence place value
    by_cases hobeyed : Admits meaning condition value
    · simp [hcondition.mpr hobeyed, hobeyed, hconsequence]
    · simp [mt hcondition.mp hobeyed, hobeyed]
  | .named name, place, value => by simpa [check, Admits] using hmeaning name place value

/-- Several schemas find nothing wrong exactly where all of them admit the value. -/
theorem checkAll_eq_nil_iff
    (hmeaning : ∀ name place value, definition name place value = [] ↔ meaning name value) :
    ∀ (schemas : List Schema) (place : List Segment) (value : Json),
      checkAll definition schemas place value = [] ↔ AdmitsAll meaning schemas value
  | [], _, _ => by simp [checkAll, AdmitsAll]
  | schema :: rest, place, value => by
    rw [checkAll, AdmitsAll, List.append_eq_nil_iff,
      check_eq_nil_iff hmeaning schema place value,
      checkAll_eq_nil_iff hmeaning rest place value]

/-- One of several schemas finds nothing wrong exactly where one of them admits the value. -/
theorem obeysAny_iff
    (hmeaning : ∀ name place value, definition name place value = [] ↔ meaning name value) :
    ∀ (schemas : List Schema) (place : List Segment) (value : Json),
      obeysAny definition schemas place value = true ↔ AdmitsAny meaning schemas value
  | [], _, _ => by simp [obeysAny, AdmitsAny]
  | schema :: rest, place, value => by
    rw [obeysAny, AdmitsAny, Bool.or_eq_true, List.isEmpty_iff,
      check_eq_nil_iff hmeaning schema place value, obeysAny_iff hmeaning rest place value]

/-- Nothing is wrong in the fields exactly where their schemas admit them. -/
theorem checkFields_eq_nil_iff
    (hmeaning : ∀ name place value, definition name place value = [] ↔ meaning name value) :
    ∀ (known : List (String × Schema)) (place : List Segment) (fields : Json.Fields),
      checkFields definition known place fields = [] ↔ AdmitsFields meaning known fields
  | [], _, _ => by simp [checkFields, AdmitsFields]
  | (name, schema) :: rest, place, fields => by
    rw [checkFields, AdmitsFields, List.append_eq_nil_iff,
      checkFields_eq_nil_iff hmeaning rest place fields]
    cases fields.lookup name with
    | none => simp
    | some value => simp [check_eq_nil_iff hmeaning schema _ value]

end

namespace Definitions

/-- Whether a value obeys a definition, where so many references are followed. Past them every
value does. -/
def Obeys (definitions : Definitions) : Nat → String → Json → Prop
  | 0, _, _ => True
  | budget + 1, name, value =>
    match definitions.lookup name with
    | some schema => schema.Admits (definitions.Obeys budget) value
    | none => True

/-- A definition finds nothing wrong exactly in the values that obey it. -/
theorem check_eq_nil_iff (definitions : Definitions) (budget : Nat) :
    ∀ (name : String) (place : List Segment) (value : Json),
      definitions.check budget name place value = [] ↔ definitions.Obeys budget name value := by
  induction budget with
  | zero => simp [check, Obeys]
  | succ budget ih =>
    intro name place value
    rw [check, Obeys]
    cases definitions.lookup name with
    | none => simp
    | some schema => exact Schema.check_eq_nil_iff ih schema place value

/-- A document has no violation exactly where the schema admits it. -/
theorem violations_eq_nil_iff {definitions : Definitions} {schema : Schema} {document : Json} :
    definitions.violations schema document = [] ↔
      schema.Admits (definitions.Obeys ((document.depth + 1) * definitions.length))
        document :=
  Schema.check_eq_nil_iff (definitions.check_eq_nil_iff _) schema [] document

end Definitions

end Schema

end ChatPrompt
