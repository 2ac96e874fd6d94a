import ChatPrompt.Json.Record

/-!
# Fields of records

What reading a record needs of its fields: a field that is there has to be readable, and one
that is missing has to be one that may be. What writing a record gives: the field of an
optional value is found under its name where there is a value, and under no other name.
Together, a field that was written is read back as it was.
-/

namespace ChatPrompt

namespace Json

/-- An element of a sequence has fewer arrays and objects around each other. -/
theorem depth_le_depthOfItems {item : Json} {items : List Json} (hmem : item ∈ items) :
    item.depth ≤ depthOfItems items := by
  induction items with
  | nil => cases hmem
  | cons first rest ih =>
    rw [depthOfItems]
    rcases List.mem_cons.1 hmem with rfl | hrest
    · exact Nat.le_max_left _ _
    · exact Nat.le_trans (ih hrest) (Nat.le_max_right _ _)

/-- A value under a key lies no deeper than the deepest. -/
theorem depth_le_depthOfFields {key : String} {value : Json} {fields : Fields}
    (hmem : (key, value) ∈ fields) : value.depth ≤ depthOfFields fields := by
  induction fields with
  | nil => cases hmem
  | cons first rest ih =>
    obtain ⟨found, other⟩ := first
    rw [depthOfFields]
    rcases List.mem_cons.1 hmem with heq | hrest
    · cases heq
      exact Nat.le_max_left _ _
    · exact Nat.le_trans (ih hrest) (Nat.le_max_right _ _)

/-- A value under a key lies deeper than the object that holds it. -/
theorem depth_lt_of_field? {key : String} {value inner : Json}
    (hfield : value.field? key = some inner) : inner.depth < value.depth := by
  cases value with
  | object fields =>
    rw [depth]
    exact Nat.lt_succ_of_le (depth_le_depthOfFields (Keyed.mem_of_lookup hfield))
  | _ => cases hfield

/-- An element lies deeper than the array that holds it. -/
theorem depth_lt_of_mem {item : Json} {items : List Json} (hmem : item ∈ items) :
    item.depth < (array items).depth := by
  rw [depth]
  exact Nat.lt_succ_of_le (depth_le_depthOfItems hmem)

end Json

namespace Record

variable {α : Type} {name key : String} {read : Json → Option α} {write : α → Json}
  {fields : Json.Fields} {p : α → Prop}

/-! ### Reading fields -/

/-- A required field that is there is read if its value can be. -/
theorem exists_required? (hsome : (fields.lookup name).isSome)
    (hread : ∀ value, fields.lookup name = some value → ∃ x ∈ read value, p x) :
    ∃ x ∈ required? name read fields, p x := by
  obtain ⟨value, hvalue⟩ := Option.isSome_iff_exists.1 hsome
  rw [required?, hvalue]
  exact hread value hvalue

/-- A field with a value to take instead is read if its value can be. -/
theorem exists_defaulting? {missing : α} (hmissing : p missing)
    (hread : ∀ value, fields.lookup name = some value → ∃ x ∈ read value, p x) :
    ∃ x ∈ defaulting? name read missing fields, p x := by
  rw [defaulting?]
  cases hvalue : fields.lookup name with
  | none => exact ⟨missing, rfl, hmissing⟩
  | some value => exact hread value hvalue

/-- An optional field is read if its value can be. -/
theorem exists_optional?
    (hread : ∀ value, fields.lookup name = some value → ∃ x ∈ read value, p x) :
    ∃ found ∈ optional? name read fields, ∀ x ∈ found, p x := by
  rw [optional?]
  split
  next => exact ⟨none, rfl, fun x hx => nomatch hx⟩
  next => exact ⟨none, rfl, fun x hx => nomatch hx⟩
  next value _ hvalue =>
    obtain ⟨x, hx, hp⟩ := hread value hvalue
    rw [Option.mem_def] at hx
    exact ⟨some x, by simp [hx], fun y hy => Option.some.inj hy ▸ hp⟩

/-- A sequence is read if every element can be. -/
theorem exists_mapM {β : Type} {items : List β} {get : β → Option α}
    (hread : ∀ item ∈ items, ∃ x ∈ get item, p x) : ∃ xs ∈ items.mapM get, ∀ x ∈ xs, p x := by
  induction items with
  | nil => exact ⟨[], rfl, fun x hx => nomatch hx⟩
  | cons item rest ih =>
    obtain ⟨x, hx, hp⟩ := hread item List.mem_cons_self
    obtain ⟨xs, hxs, hps⟩ :=
      ih fun other hother => hread other (List.mem_cons_of_mem item hother)
    rw [Option.mem_def] at hx hxs
    exact ⟨x :: xs, by simp [hx, hxs], List.forall_mem_cons.2 ⟨hp, hps⟩⟩

/-! ### Written fields -/

/-- An optional value is found under its name only. -/
@[simp]
theorem lookup_whenSome {value : Option α} :
    (whenSome name write value).lookup key = if key = name then value.map write else none := by
  cases value <;> by_cases hkey : key = name <;>
    simp [whenSome, List.lookup_cons, hkey, beq_false_of_ne]

/-- A flag that is written only where it is set is found under its name only. -/
@[simp]
theorem lookup_whenTrue {flag : Bool} :
    (whenTrue name flag).lookup key = if key = name ∧ flag then some (.bool true) else none := by
  cases flag <;> by_cases hkey : key = name <;>
    simp [whenTrue, List.lookup_cons, hkey, beq_false_of_ne]

/-- A value that is written only where it is not `null` is found under its name only. -/
@[simp]
theorem lookup_whenNotNull {value : Json} :
    (whenNotNull name value).lookup key =
      if key = name ∧ value.isNull = false then some value else none := by
  cases hnull : value.isNull <;> by_cases hkey : key = name <;>
    simp [whenNotNull, List.lookup_cons, hnull, hkey, beq_false_of_ne]

/-- A sequence that is written only where it has elements is found under its name only. -/
@[simp]
theorem lookup_whenNotEmpty {items : List α} :
    (whenNotEmpty name write items).lookup key =
      if key = name ∧ items ≠ [] then some (.array (items.map write)) else none := by
  cases items <;> by_cases hkey : key = name <;>
    simp [whenNotEmpty, List.lookup_cons, hkey, beq_false_of_ne]

/-- What holds of the field of an optional value holds of all fields that are written for it. -/
theorem forall_mem_whenSome {q : String × Json → Prop} {value : Option α} :
    (∀ field ∈ whenSome name write value, q field) ↔ ∀ x ∈ value, q (name, write x) := by
  cases value <;> simp [whenSome]

/-- What holds of the field of a flag holds of all fields that are written for it. -/
theorem forall_mem_whenTrue {q : String × Json → Prop} {flag : Bool} :
    (∀ field ∈ whenTrue name flag, q field) ↔ (flag → q (name, .bool true)) := by
  cases flag <;> simp [whenTrue]

/-- What holds of the field of a value holds of all fields that are written for it. -/
theorem forall_mem_whenNotNull {q : String × Json → Prop} {value : Json} :
    (∀ field ∈ whenNotNull name value, q field) ↔ (value.isNull = false → q (name, value)) := by
  cases hnull : value.isNull <;> simp [whenNotNull, hnull]

/-- What holds of the field of a sequence holds of all fields that are written for it. -/
theorem forall_mem_whenNotEmpty {q : String × Json → Prop} {items : List α} :
    (∀ field ∈ whenNotEmpty name write items, q field) ↔
      (items ≠ [] → q (name, .array (items.map write))) := by
  cases items <;> simp [whenNotEmpty]

/-! ### Reading written fields -/

theorem text?_string (s : String) : text? (.string s) = some s := rfl

theorem flag?_bool (b : Bool) : flag? (.bool b) = some b := rfl

/-- A sequence is read back if its elements are. -/
theorem list?_map {items : List α} (hread : ∀ x ∈ items, read (write x) = some x) :
    list? read (.array (items.map write)) = some items :=
  mapM_map write read items hread

/-- A required field that was written is read back. -/
theorem required?_of_lookup {value : α} {written : Json} (hread : read written = some value)
    (hlookup : fields.lookup name = some written) : required? name read fields = some value := by
  rw [required?, hlookup, Option.bind_some, hread]

/-- A field with a value to take instead that was written is read back. -/
theorem defaulting?_of_lookup {value missing : α} {written : Json}
    (hread : read written = some value) (hlookup : fields.lookup name = some written) :
    defaulting? name read missing fields = some value := by
  rw [defaulting?, hlookup]
  exact hread

/-- An optional value that was written is read back, or is missing as before. -/
theorem optional?_of_lookup (write : α → Json) {value : Option α} (hnull : read .null = none)
    (hread : ∀ x ∈ value, read (write x) = some x)
    (hlookup : fields.lookup name = value.map write) : optional? name read fields = some value := by
  rw [optional?, hlookup]
  cases value with
  | none => rfl
  | some x =>
    have hback := hread x rfl
    rw [Option.map_some]
    split
    next h => cases h
    next h =>
      rw [Option.some.inj h, hnull] at hback
      cases hback
    next h =>
      rw [← Option.some.inj h, hback]
      rfl

/-- An optional text that was written is read back, or is missing as before. -/
theorem optional?_text {value : Option String} (hlookup : fields.lookup name = value.map .string) :
    optional? name text? fields = some value :=
  optional?_of_lookup Json.string rfl (fun s _ => text?_string s) hlookup

/-- A sequence that is written only where it has elements is read back. -/
theorem defaulting?_list {items : List α} (hread : ∀ x ∈ items, read (write x) = some x)
    (hlookup : fields.lookup name =
      if items ≠ [] then some (.array (items.map write)) else none) :
    defaulting? name (list? read) [] fields = some items := by
  cases items with
  | nil => rw [defaulting?, hlookup, if_neg (by simp)]
  | cons item rest =>
    rw [if_pos (List.cons_ne_nil item rest)] at hlookup
    exact defaulting?_of_lookup (list?_map hread) hlookup

/-- A value that is written only where it is not `null` is read back. -/
theorem defaulting?_value {value : Json}
    (hlookup : fields.lookup name = if value.isNull = false then some value else none) :
    defaulting? name some .null fields = some value := by
  cases value <;> rw [defaulting?, hlookup] <;> rfl

/-- A flag that is written only where it is set is read back. -/
theorem defaulting?_flag {flag : Bool}
    (hlookup : fields.lookup name = if flag then some (.bool true) else none) :
    defaulting? name flag? false fields = some flag := by
  cases flag with
  | false => rw [defaulting?, hlookup, if_neg Bool.false_ne_true]
  | true => exact defaulting?_of_lookup (flag?_bool true) hlookup

/-- A record under whose tag the word of a kind stands is of that kind. -/
theorem tagged?_of_field? {choices : List (String × α)} {form : Form} {tag word : String}
    {kind : α} {value : Json} (hfield : value.field? tag = some (.string word))
    (hkind : choices.lookup word = some kind) :
    tagged? form tag choices value = some (kind, value) := by
  cases value with
  | object fields =>
    rw [Json.field?] at hfield
    simp [tagged?, hfield, kind?, hkind]
  | _ => cases hfield

theorem natural?_ofNat (n : Nat) : natural? (.ofNat n) = some n := by
  simp [natural?, Json.ofNat, Json.ofInt]

theorem word64?_ofNat (n : UInt64) : word64? (.ofNat n.toNat) = some n := by
  have hbound := n.toNat_lt
  simp only [word64?, Json.ofNat, Json.ofInt]
  rw [if_pos (by simp; omega), Int.toNat_natCast, UInt64.ofNat_toNat]

theorem word32?_ofNat (n : UInt32) : word32? (.ofNat n.toNat) = some n := by
  have hbound := n.toNat_lt
  simp only [word32?, Json.ofNat, Json.ofInt]
  rw [if_pos (by simp; omega), Int.toNat_natCast, UInt32.ofNat_toNat]

/-- A number of 32 bits with a sign is read back. -/
theorem int32?_ofInt (n : Int32) : int32? (.ofInt n.toInt) = some n := by
  have hlow := n.le_toInt
  have hhigh := n.toInt_lt
  simp only [int32?, Json.ofInt]
  rw [if_pos (by simp; omega), Int32.ofInt_toInt]

end Record

end ChatPrompt
