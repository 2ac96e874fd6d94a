import ChatPrompt.Proofs.Bounds
import ChatPrompt.Proofs.Compliance

/-!
# Documents that obey the schema can be read

The schema and the reader describe templates each in its own way. They agree but for numbers:
where the numbers of a document fit their fields, whatever obeys the schema is read, and what
is read is a template of which the schema asks nothing that is missing.

A definition that is not followed says nothing, so every part is read from as many references
as it refers to in turn; for conditions and plans, this number grows with the depth of the
value.
-/

namespace ChatPrompt

open Schema Record

namespace Template

variable {meaning : String → Json → Prop} {value : Json} {budget : Nat}

/-! ### Parts that hold no others -/

theorem exists_text? (h : textSchema.Admits meaning value) : ∃ s ∈ text? value, True := by
  obtain ⟨s, rfl⟩ := admits_textSchema_iff.1 h
  exact ⟨s, rfl, trivial⟩

/-- A name is read as a text that is not empty. -/
theorem exists_name? (h : nameSchema.Admits meaning value) : ∃ s ∈ text? value, s ≠ "" := by
  obtain ⟨s, rfl, hnonempty⟩ := admits_nameSchema_iff.1 h
  exact ⟨s, rfl, hnonempty⟩

theorem exists_flag? (h : flagSchema.Admits meaning value) : ∃ b ∈ flag? value, True := by
  obtain ⟨b, rfl⟩ := admits_flagSchema_iff.1 h
  exact ⟨b, rfl, trivial⟩

/-- A word that is listed is read as what it stands for. -/
theorem exists_choice? {α : Type} {choices : List (String × α)} (form : Form)
    (h : (rules [oneOf (choices.map Prod.fst)]).Admits meaning value) :
    ∃ x ∈ choice? form choices value, True := by
  obtain ⟨⟨word, hword, rfl⟩, -⟩ := h
  obtain ⟨entry, hentry, rfl⟩ := List.mem_map.1 hword
  have hsome : (choices.lookup entry.1).isSome :=
    List.lookup_isSome_iff.2 ⟨entry, hentry, beq_self_eq_true _⟩
  obtain ⟨x, hx⟩ := Option.isSome_iff_exists.1 hsome
  exact ⟨x, hx, trivial⟩

/-- A sequence is read if its elements are, which lie deeper than it does. -/
theorem exists_list? {α : Type} {schema : Schema} {read : Json → Option α} {p : α → Prop}
    (h : (listSchema schema).Admits meaning value)
    (hread : ∀ item, item.depth < value.depth → schema.Admits meaning item →
      ∃ x ∈ read item, p x) :
    ∃ xs ∈ list? read value, ∀ x ∈ xs, p x := by
  obtain ⟨items, rfl, hitems⟩ := admits_listSchema_iff.1 h
  exact exists_mapM fun item hitem => hread item (Json.depth_lt_of_mem hitem) (hitems item hitem)

theorem Role.exists_ofJson? (form : Form) (h : definitions.Obeys (budget + 1) "role" value) :
    ∃ role ∈ Role.ofJson? form value, True :=
  exists_choice? form ((Definitions.obeys_succ_iff rfl).1 h)

/-- A name that may be missing is a text that is not empty, where it is there. -/
theorem exists_lookup_eq_name {fields : Json.Fields} {key : String}
    (h : ∀ found, fields.lookup key = some found → nameSchema.Admits meaning found) :
    ∃ name : Option String, fields.lookup key = name.map .string ∧ ∀ s ∈ name, s ≠ "" := by
  cases hlookup : fields.lookup key with
  | none => exact ⟨none, rfl, fun s hs => nomatch hs⟩
  | some found =>
    obtain ⟨s, rfl, hnonempty⟩ := admits_nameSchema_iff.1 (h found hlookup)
    exact ⟨some s, rfl, fun t ht => Option.some.inj ht ▸ hnonempty⟩

/-- A reference is read, and leads somewhere. -/
theorem Reference.exists_ofJson? (h : definitions.Obeys (budget + 1) "dataRef" value) :
    ∃ reference ∈ Reference.ofJson? value, reference.IsAdmissible := by
  have hschema := (Definitions.obeys_succ_iff rfl).1 h
  rcases exists_of_admits_referenceSchema hschema with ⟨s, rfl⟩ | ⟨fields, rfl⟩
  · have hnonempty := admits_referenceSchema_string_iff.1 hschema
    exact ⟨⟨some s, .null, none⟩, rfl, ⟨by simpa using hnonempty, by simp, by simp⟩⟩
  · obtain ⟨-, ⟨hsource, -, hpath, -⟩, hleads⟩ := admits_referenceSchema_object_iff.1 hschema
    obtain ⟨source, hsource, hsourceName⟩ := exists_lookup_eq_name hsource
    obtain ⟨path, hpath, hpathName⟩ := exists_lookup_eq_name hpath
    obtain ⟨args, hargs, -⟩ : ∃ args ∈ defaulting? "args" some .null fields, True :=
      exists_defaulting? trivial fun found _ => ⟨found, rfl, trivial⟩
    rw [hsource, hpath, Option.isSome_map, Option.isSome_map] at hleads
    refine ⟨⟨source, args, path⟩, ?_, hsourceName, hpathName, hleads⟩
    simp only [ofJson?, Option.bind_eq_bind, Option.mem_def, Option.bind_eq_some_iff]
    exact ⟨source, optional?_text hsource, args, hargs, path, optional?_text hpath, rfl⟩

theorem Frame.exists_ofJson? (form : Form) (h : definitions.Obeys (budget + 2) "frame" value) :
    ∃ frame ∈ Frame.ofJson? form value, True := by
  have hschema := (Definitions.obeys_succ_iff rfl).1 h
  obtain ⟨fields, rfl, hrecord⟩ := admits_recordSchema_iff.1 hschema
  obtain ⟨hkeys, ⟨hrole, hcontent, -⟩, -⟩ := admits_record_iff.1 hrecord
  obtain ⟨role, hrole, -⟩ : ∃ role ∈ defaulting? "role" (Role.ofJson? form) .system fields, True :=
    exists_defaulting? trivial fun found hfound => Role.exists_ofJson? form (hrole found hfound)
  obtain ⟨content, hcontent, -⟩ : ∃ content ∈ required? "content" text? fields, True :=
    exists_required? (hkeys _ (by simp)) fun found hfound => exists_text? (hcontent found hfound)
  refine ⟨⟨role, content⟩, ?_, trivial⟩
  simp only [ofJson?, Option.bind_eq_bind, Option.mem_def, Option.bind_eq_some_iff]
  exact ⟨fields, rfl, role, hrole, content, hcontent, rfl⟩

/-! ### Conditions -/

/-- The data that a condition is about are read, and can be looked for. -/
theorem exists_target {fields : Json.Fields} (hsome : (fields.lookup "ref").isSome)
    (href : ∀ found, fields.lookup "ref" = some found →
      definitions.Obeys (budget + 1) "dataRef" found) :
    ∃ target ∈ required? "ref" Reference.ofJson? fields, target.IsAdmissible :=
  exists_required? hsome fun found hfound => Reference.exists_ofJson? (href found hfound)

/-- The conditions that a condition is put together from are read, if each of them is. -/
theorem exists_conditions {fields : Json.Fields} {part : Json → Option Condition}
    (hsome : (fields.lookup "conditions").isSome)
    (hconditions : ∀ found, fields.lookup "conditions" = some found →
      (listSchema (.named "condition")).Admits (definitions.Obeys budget) found)
    (hpart : ∀ inner, inner.depth < (Json.object fields).depth →
      definitions.Obeys budget "condition" inner → ∃ x ∈ part inner, x.IsAdmissible) :
    ∃ conditions ∈ required? "conditions" (list? part) fields,
      Condition.AreAdmissible conditions := by
  simp only [Condition.areAdmissible_iff]
  refine exists_required? hsome fun found hfound => exists_list? (hconditions found hfound) ?_
  intro item hdepth hitem
  have houter : found.depth < (Json.object fields).depth := Json.depth_lt_of_field? hfound
  exact hpart item (Nat.lt_trans hdepth houter) hitem

/-- A condition of a kind is read from a record with the fields of that kind, if the conditions
in it are. -/
theorem Condition.exists_ofRecord? {kind : Condition.Kind} {fields : Json.Fields}
    {part : Json → Option Condition}
    (h : (record (kind.known.map Prod.fst) (("type", .anything) :: kind.known)).Admits
      (definitions.Obeys (budget + 1)) (.object fields))
    (hpart : ∀ inner, inner.depth < (Json.object fields).depth →
      definitions.Obeys (budget + 1) "condition" inner → ∃ x ∈ part inner, x.IsAdmissible) :
    ∃ x ∈ Condition.ofRecord? part kind (.object fields), x.IsAdmissible := by
  obtain ⟨hkeys, ⟨-, hknown⟩, -⟩ := admits_record_iff.1 h
  cases kind with
  | present =>
    obtain ⟨href, -⟩ := hknown
    obtain ⟨target, htarget, hadmissible⟩ := exists_target (hkeys _ (by simp [Kind.known])) href
    refine ⟨.present target, ?_, hadmissible⟩
    simp only [ofRecord?, Option.bind_eq_bind, Option.mem_def, Option.bind_eq_some_iff]
    exact ⟨fields, rfl, target, htarget, rfl⟩
  | nonEmpty =>
    obtain ⟨href, -⟩ := hknown
    obtain ⟨target, htarget, hadmissible⟩ := exists_target (hkeys _ (by simp [Kind.known])) href
    refine ⟨.nonEmpty target, ?_, hadmissible⟩
    simp only [ofRecord?, Option.bind_eq_bind, Option.mem_def, Option.bind_eq_some_iff]
    exact ⟨fields, rfl, target, htarget, rfl⟩
  | compare =>
    obtain ⟨href, hop, -, -⟩ := hknown
    obtain ⟨target, htarget, hadmissible⟩ := exists_target (hkeys _ (by simp [Kind.known])) href
    obtain ⟨op, hop, -⟩ : ∃ op ∈ required? "op" (choice? .buffered comparisons) fields, True :=
      exists_required? (hkeys _ (by simp [Kind.known])) fun found hfound =>
        exists_choice? .buffered (hop found hfound)
    obtain ⟨literal, hliteral, -⟩ : ∃ literal ∈ required? "value" some fields, True :=
      exists_required? (hkeys _ (by simp [Kind.known])) fun found _ => ⟨found, rfl, trivial⟩
    refine ⟨.compare target op literal, ?_, hadmissible⟩
    simp only [ofRecord?, Option.bind_eq_bind, Option.mem_def, Option.bind_eq_some_iff]
    exact ⟨fields, rfl, target, htarget, op, hop, literal, hliteral, rfl⟩
  | expression =>
    obtain ⟨hexpr, -⟩ := hknown
    obtain ⟨source, hsource, hnonempty⟩ : ∃ source ∈ required? "expr" text? fields, source ≠ "" :=
      exists_required? (hkeys _ (by simp [Kind.known])) fun found hfound =>
        exists_name? (hexpr found hfound)
    refine ⟨.expression source, ?_, hnonempty⟩
    simp only [ofRecord?, Option.bind_eq_bind, Option.mem_def, Option.bind_eq_some_iff]
    exact ⟨fields, rfl, source, hsource, rfl⟩
  | all =>
    obtain ⟨hconditions, -⟩ := hknown
    obtain ⟨conditions, hread, hadmissible⟩ :=
      exists_conditions (hkeys _ (by simp [Kind.known])) hconditions hpart
    refine ⟨.all conditions, ?_, hadmissible⟩
    simp only [ofRecord?, Option.bind_eq_bind, Option.mem_def, Option.bind_eq_some_iff]
    exact ⟨fields, rfl, conditions, hread, rfl⟩
  | any =>
    obtain ⟨hconditions, -⟩ := hknown
    obtain ⟨conditions, hread, hadmissible⟩ :=
      exists_conditions (hkeys _ (by simp [Kind.known])) hconditions hpart
    refine ⟨.any conditions, ?_, hadmissible⟩
    simp only [ofRecord?, Option.bind_eq_bind, Option.mem_def, Option.bind_eq_some_iff]
    exact ⟨fields, rfl, conditions, hread, rfl⟩
  | negation =>
    obtain ⟨hcondition, -⟩ := hknown
    obtain ⟨inner, hinner, hadmissible⟩ :
        ∃ inner ∈ required? "condition" part fields, inner.IsAdmissible :=
      exists_required? (hkeys _ (by simp [Kind.known])) fun found hfound =>
        hpart found (Json.depth_lt_of_field? hfound) (hcondition found hfound)
    refine ⟨.negation inner, ?_, hadmissible⟩
    simp only [ofRecord?, Option.bind_eq_bind, Option.mem_def, Option.bind_eq_some_iff]
    exact ⟨fields, rfl, inner, hinner, rfl⟩

/-- A condition is read, if the depth suffices and more references are followed than that. -/
theorem Condition.exists_within? (depth : Nat) :
    ∀ (form : Form) (budget : Nat) (value : Json), value.depth ≤ depth → depth < budget →
      definitions.Obeys budget "condition" value →
        ∃ condition ∈ Condition.within? depth form value, condition.IsAdmissible := by
  -- A condition inside another lies deeper by one at least and is one reference further.
  induction depth with
  | zero =>
    intro form budget value hdepth hbudget h
    obtain ⟨budget, rfl⟩ := Nat.exists_eq_add_of_lt hbudget
    obtain ⟨fields, -, -, rfl, -⟩ :=
      exists_kind_of_admits_taggedSchema kinds ((Definitions.obeys_succ_iff rfl).1 h)
    simp [Json.depth] at hdepth
  | succ depth ih =>
    intro form budget value hdepth hbudget h
    obtain ⟨budget, rfl⟩ : ∃ lower, budget = lower + 2 := ⟨budget - 2, by omega⟩
    have hschema := (Definitions.obeys_succ_iff rfl).1 h
    obtain ⟨fields, word, kind, rfl, htype, hkind⟩ :=
      exists_kind_of_admits_taggedSchema kinds hschema
    have hrecord := (admits_conditionSchema_object_iff hkind htype).1 hschema
    obtain ⟨condition, hread, hadmissible⟩ := exists_ofRecord? hrecord fun inner hinner =>
      ih .buffered (budget + 1) inner (by omega) (by omega)
    refine ⟨condition, ?_, hadmissible⟩
    have hfield : (Json.object fields).field? "type" = some (.string word) := htype
    have hnodup : (kinds.map Prod.fst).Nodup := by simp [kinds]
    rw [within?, tagged?_of_field? hfield (Keyed.lookup_of_mem hnodup hkind)]
    exact hread

/-- A condition is read, if more references are followed than it is deep. -/
theorem Condition.exists_ofJson? (form : Form) (hbudget : value.depth < budget)
    (h : definitions.Obeys budget "condition" value) :
    ∃ condition ∈ Condition.ofJson? form value, condition.IsAdmissible :=
  exists_within? value.depth form budget value (Nat.le_refl _) hbudget h

/-! ### Plans -/

/-- A budget is read, if its number fits. -/
theorem exists_tokens? (h : definitions.Obeys (budget + 1) "tokens" value)
    (hfits : fitsWord64 value) : ∃ tokens ∈ word64? value, True :=
  exists_word64? ((Definitions.obeys_succ_iff rfl).1 h) hfits

/-- A message of a plan is read, if its budget fits. -/
theorem PlanMessage.exists_ofJson? {fields : Json.Fields}
    (h : definitions.Obeys (budget + 2) "planMessage" (.object fields))
    (hfits : stepFits (.object fields)) :
    ∃ message ∈ PlanMessage.ofJson? (.object fields), message.IsAdmissible := by
  obtain ⟨hkeys, ⟨-, hrole, hcontent, hfrom, hanchor, hbudget, -⟩, -⟩ :=
    admits_record_iff.1 ((Definitions.obeys_succ_iff rfl).1 h)
  obtain ⟨role, hrole, -⟩ : ∃ role ∈ required? "role" (Role.ofJson? .buffered) fields, True :=
    exists_required? (hkeys _ (by simp)) fun found hfound =>
      Role.exists_ofJson? .buffered (hrole found hfound)
  obtain ⟨content, hcontent, -⟩ : ∃ content ∈ optional? "content" text? fields,
      ∀ s ∈ content, True :=
    exists_optional? fun found hfound => exists_text? (hcontent found hfound)
  obtain ⟨source, hsource, hadmissible⟩ : ∃ source ∈ optional? "from" Reference.ofJson? fields,
      ∀ reference ∈ source, reference.IsAdmissible :=
    exists_optional? fun found hfound => Reference.exists_ofJson? (hfrom found hfound)
  obtain ⟨anchor, hanchor, hnonempty⟩ : ∃ anchor ∈ optional? "anchor" text? fields,
      ∀ key ∈ anchor, key ≠ "" :=
    exists_optional? fun found hfound => exists_name? (hanchor found hfound)
  obtain ⟨tokens, htokens, -⟩ : ∃ tokens ∈ optional? "budget" word64? fields,
      ∀ amount ∈ tokens, True :=
    exists_optional? fun found hfound =>
      exists_tokens? (hbudget found hfound) (fitsWord64_of_stepFits hfits (by simp) hfound)
  refine ⟨⟨role, content, source, anchor, tokens⟩, ?_, hadmissible, hnonempty⟩
  simp only [ofJson?, Option.bind_eq_bind, Option.mem_def, Option.bind_eq_some_iff]
  exact ⟨fields, rfl, role, hrole, content, hcontent, source, hsource, anchor, hanchor, tokens,
    htokens, rfl⟩

/-- The steps of a plan are read, if each of them is. -/
theorem PlanNode.exists_list? {part : Json → Option PlanNode}
    (h : definitions.Obeys (budget + 1) "plan" value) (hfits : planFits value)
    (hpart : ∀ inner, inner.depth < value.depth → stepFits inner →
      definitions.Obeys budget "planNode" inner → ∃ node ∈ part inner, node.IsAdmissible) :
    ∃ nodes ∈ list? part value, PlanNode.AreAdmissible nodes := by
  simp only [PlanNode.areAdmissible_iff]
  obtain ⟨items, rfl, hitems⟩ := admits_listSchema_iff.1 ((Definitions.obeys_succ_iff rfl).1 h)
  exact exists_mapM fun item hitem =>
    hpart item (Json.depth_lt_of_mem hitem) (stepFits_of_mem hfits hitem) (hitems item hitem)

/-- A step of a plan is read from a record of its kind, if the steps in it are. -/
theorem PlanNode.exists_ofRecord? {kind : PlanNode.Kind} {fields : Json.Fields}
    {part : Json → Option PlanNode} (hbudget : (Json.object fields).depth ≤ budget + 1)
    (h : definitions.Obeys (budget + 3) kind.definition (.object fields))
    (hfits : stepFits (.object fields))
    (hpart : ∀ inner, inner.depth < (Json.object fields).depth → stepFits inner →
      definitions.Obeys (budget + 1) "planNode" inner → ∃ node ∈ part inner, node.IsAdmissible) :
    ∃ node ∈ PlanNode.ofRecord? part kind (.object fields), node.IsAdmissible := by
  have hplan : ∀ {key : String} {found : Json}, key ∈ ["map", "then", "else"] →
      fields.lookup key = some found → definitions.Obeys (budget + 2) "plan" found →
        ∃ nodes ∈ list? part found, PlanNode.AreAdmissible nodes := by
    intro key found hkey hfound hobeys
    have houter : found.depth < (Json.object fields).depth := Json.depth_lt_of_field? hfound
    exact exists_list? hobeys (planFits_of_stepFits hfits hkey hfound) fun inner hdepth =>
      hpart inner (Nat.lt_trans hdepth houter)
  cases kind with
  | message =>
    obtain ⟨message, hread, hadmissible⟩ := PlanMessage.exists_ofJson? h hfits
    refine ⟨.message message, ?_, hadmissible⟩
    rw [Option.mem_def] at hread ⊢
    rw [ofRecord?, hread, Option.map_some]
  | forEach =>
    obtain ⟨hkeys, ⟨-, hsource, horder, hsortBy, hlimit, hfilling, hmap, hseparator, htokens,
      hstops, -⟩, -⟩ := admits_record_iff.1 ((Definitions.obeys_succ_iff rfl).1 h)
    obtain ⟨source, hsource, hadmissible⟩ :
        ∃ source ∈ required? "source" Reference.ofJson? fields, source.IsAdmissible :=
      exists_required? (hkeys _ (by simp)) fun found hfound =>
        Reference.exists_ofJson? (hsource found hfound)
    obtain ⟨order, horder, -⟩ :
        ∃ order ∈ defaulting? "order" (choice? .buffered Order.choices) .ascending fields, True :=
      exists_defaulting? trivial fun found hfound =>
        exists_choice? .buffered (horder found hfound)
    obtain ⟨sortBy, hsortBy, hnonempty⟩ : ∃ sortBy ∈ optional? "sortBy" text? fields,
        ∀ path ∈ sortBy, path ≠ "" :=
      exists_optional? fun found hfound => exists_name? (hsortBy found hfound)
    obtain ⟨limit, hlimit, -⟩ : ∃ limit ∈ optional? "limit" natural? fields,
        ∀ number ∈ limit, True :=
      exists_optional? fun found hfound =>
        exists_natural? (hlimit found hfound) (fitsWord64_of_stepFits hfits (by simp) hfound)
    obtain ⟨filling, hfilling, -⟩ :
        ∃ filling ∈ defaulting? "fillDir" (choice? .buffered Filling.choices) .appending fields,
          True :=
      exists_defaulting? trivial fun found hfound =>
        exists_choice? .buffered (hfilling found hfound)
    obtain ⟨body, hbody, hadmissibleBody⟩ :
        ∃ body ∈ required? "map" (list? part) fields, PlanNode.AreAdmissible body :=
      exists_required? (hkeys _ (by simp)) fun found hfound =>
        hplan (by simp) hfound (hmap found hfound)
    obtain ⟨separator, hseparator, -⟩ :
        ∃ separator ∈ optional? "interleave" (Frame.ofJson? .buffered) fields,
          ∀ frame ∈ separator, True :=
      exists_optional? fun found hfound =>
        Frame.exists_ofJson? .buffered (hseparator found hfound)
    obtain ⟨tokens, htokens, -⟩ : ∃ tokens ∈ optional? "budget" word64? fields,
        ∀ amount ∈ tokens, True :=
      exists_optional? fun found hfound =>
        exists_tokens? (htokens found hfound) (fitsWord64_of_stepFits hfits (by simp) hfound)
    obtain ⟨stops, hstops, -⟩ :
        ∃ stops ∈ defaulting? "stopWhenOutOfBudget" flag? true fields, True :=
      exists_defaulting? trivial fun found hfound => exists_flag? (hstops found hfound)
    refine ⟨.forEach ⟨source, order, sortBy, limit, filling, separator, tokens, stops⟩ body, ?_,
      ⟨hadmissible, hnonempty⟩, hadmissibleBody⟩
    simp only [ofRecord?, Option.bind_eq_bind, Option.mem_def, Option.bind_eq_some_iff]
    exact ⟨fields, rfl, source, hsource, order, horder, sortBy, hsortBy, limit, hlimit, filling,
      hfilling, body, hbody, separator, hseparator, tokens, htokens, stops, hstops, rfl⟩
  | branch =>
    obtain ⟨hkeys, ⟨-, hcondition, htrue, hfalse, -⟩, -⟩ :=
      admits_record_iff.1 ((Definitions.obeys_succ_iff rfl).1 h)
    obtain ⟨condition, hcondition, hadmissible⟩ :
        ∃ condition ∈ required? "condition" (Condition.ofJson? .buffered) fields,
          condition.IsAdmissible := by
      refine exists_required? (hkeys _ (by simp)) fun found hfound => ?_
      have hdepth : found.depth < (Json.object fields).depth := Json.depth_lt_of_field? hfound
      exact Condition.exists_ofJson? .buffered (by omega) (hcondition found hfound)
    obtain ⟨whenTrue, htrue, hadmissibleTrue⟩ :
        ∃ whenTrue ∈ required? "then" (list? part) fields, PlanNode.AreAdmissible whenTrue :=
      exists_required? (hkeys _ (by simp)) fun found hfound =>
        hplan (by simp) hfound (htrue found hfound)
    obtain ⟨whenFalse, hfalse, hadmissibleFalse⟩ :
        ∃ whenFalse ∈ defaulting? "else" (list? part) [] fields,
          PlanNode.AreAdmissible whenFalse :=
      exists_defaulting? trivial fun found hfound =>
        hplan (by simp) hfound (hfalse found hfound)
    refine ⟨.branch condition whenTrue whenFalse, ?_, hadmissible, hadmissibleTrue,
      hadmissibleFalse⟩
    simp only [ofRecord?, Option.bind_eq_bind, Option.mem_def, Option.bind_eq_some_iff]
    exact ⟨fields, rfl, condition, hcondition, whenTrue, htrue, whenFalse, hfalse, rfl⟩

/-- A step of a plan is read, if the depth suffices and three times as many references are
followed. -/
theorem PlanNode.exists_within? (depth : Nat) :
    ∀ (form : Form) (budget : Nat) (value : Json), value.depth ≤ depth →
      3 * depth + 1 ≤ budget → definitions.Obeys budget "planNode" value → stepFits value →
        ∃ node ∈ PlanNode.within? depth form value, node.IsAdmissible := by
  -- From a step to the steps inside it there are three references: to the definition of its
  -- kind, to that of plans, and to that of steps.
  induction depth with
  | zero =>
    intro form budget value hdepth hbudget h
    obtain ⟨budget, rfl⟩ : ∃ lower, budget = lower + 1 := ⟨budget - 1, by omega⟩
    obtain ⟨fields, -, -, rfl, -⟩ :=
      exists_kind_of_admits_taggedSchema kinds ((Definitions.obeys_succ_iff rfl).1 h)
    simp [Json.depth] at hdepth
  | succ depth ih =>
    intro form budget value hdepth hbudget h hfits
    obtain ⟨budget, rfl⟩ : ∃ lower, budget = lower + 4 := ⟨budget - 4, by omega⟩
    have hschema := (Definitions.obeys_succ_iff rfl).1 h
    obtain ⟨fields, word, kind, rfl, hlookup, hkind⟩ :=
      exists_kind_of_admits_taggedSchema kinds hschema
    have hrecord := (admits_planNodeSchema_object_iff hkind hlookup).1 hschema
    obtain ⟨node, hread, hadmissible⟩ := exists_ofRecord? (by omega) hrecord hfits
      fun inner hinner hinnerFits hobeys =>
        ih .buffered (budget + 1) inner (by omega) (by omega) hobeys hinnerFits
    refine ⟨node, ?_, hadmissible⟩
    have hfield : (Json.object fields).field? "kind" = some (.string word) := hlookup
    have hnodup : (kinds.map Prod.fst).Nodup := by simp [kinds]
    rw [within?, tagged?_of_field? hfield (Keyed.lookup_of_mem hnodup hkind)]
    exact hread

/-- A step of a plan is read, if three times as many references are followed as it is deep. -/
theorem PlanNode.exists_ofJson? (form : Form) (hbudget : 3 * value.depth + 1 ≤ budget)
    (h : definitions.Obeys budget "planNode" value) (hfits : stepFits value) :
    ∃ node ∈ PlanNode.ofJson? form value, node.IsAdmissible :=
  exists_within? value.depth form budget value (Nat.le_refl _) hbudget h hfits

/-! ### The layout, slots and lanes -/

theorem LayoutMessage.exists_ofJson? {fields : Json.Fields}
    (h : definitions.Obeys (budget + 2) "layoutMessage" (.object fields)) :
    ∃ message ∈ LayoutMessage.ofJson? (.object fields), message.IsAdmissible := by
  obtain ⟨hkeys, ⟨-, hrole, hcontent, hfrom, hflag, hanchor, -⟩, -⟩ :=
    admits_record_iff.1 ((Definitions.obeys_succ_iff rfl).1 h)
  obtain ⟨role, hrole, -⟩ : ∃ role ∈ required? "role" (Role.ofJson? .buffered) fields, True :=
    exists_required? (hkeys _ (by simp)) fun found hfound =>
      Role.exists_ofJson? .buffered (hrole found hfound)
  obtain ⟨content, hcontent, -⟩ : ∃ content ∈ optional? "content" text? fields,
      ∀ s ∈ content, True :=
    exists_optional? fun found hfound => exists_text? (hcontent found hfound)
  obtain ⟨source, hsource, hadmissible⟩ : ∃ source ∈ optional? "from" Reference.ofJson? fields,
      ∀ reference ∈ source, reference.IsAdmissible :=
    exists_optional? fun found hfound => Reference.exists_ofJson? (hfrom found hfound)
  obtain ⟨openEnded, hopen, -⟩ : ∃ openEnded ∈ defaulting? "prefix" flag? false fields, True :=
    exists_defaulting? trivial fun found hfound => exists_flag? (hflag found hfound)
  obtain ⟨anchor, hanchor, hnonempty⟩ : ∃ anchor ∈ optional? "anchor" text? fields,
      ∀ key ∈ anchor, key ≠ "" :=
    exists_optional? fun found hfound => exists_name? (hanchor found hfound)
  refine ⟨⟨role, content, source, openEnded, anchor⟩, ?_, hadmissible, hnonempty⟩
  simp only [ofJson?, Option.bind_eq_bind, Option.mem_def, Option.bind_eq_some_iff]
  exact ⟨fields, rfl, role, hrole, content, hcontent, source, hsource, openEnded, hopen, anchor,
    hanchor, rfl⟩

theorem Placeholder.exists_ofJson? {fields : Json.Fields}
    (h : definitions.Obeys (budget + 3) "layoutSlot" (.object fields)) :
    ∃ placeholder ∈ Placeholder.ofJson? (.object fields), placeholder.name ≠ "" := by
  obtain ⟨hkeys, ⟨-, hname, hheader, hfooter, homit, -⟩, -⟩ :=
    admits_record_iff.1 ((Definitions.obeys_succ_iff rfl).1 h)
  obtain ⟨name, hname, hnonempty⟩ : ∃ name ∈ required? "name" text? fields, name ≠ "" :=
    exists_required? (hkeys _ (by simp)) fun found hfound => exists_name? (hname found hfound)
  obtain ⟨header, hheader, -⟩ : ∃ header ∈ optional? "header" (Frame.ofJson? .buffered) fields,
      ∀ frame ∈ header, True :=
    exists_optional? fun found hfound => Frame.exists_ofJson? .buffered (hheader found hfound)
  obtain ⟨footer, hfooter, -⟩ : ∃ footer ∈ optional? "footer" (Frame.ofJson? .buffered) fields,
      ∀ frame ∈ footer, True :=
    exists_optional? fun found hfound => Frame.exists_ofJson? .buffered (hfooter found hfound)
  obtain ⟨omitIfEmpty, homit, -⟩ : ∃ omitIfEmpty ∈ optional? "omitIfEmpty" flag? fields,
      ∀ flag ∈ omitIfEmpty, True :=
    exists_optional? fun found hfound => exists_flag? (homit found hfound)
  refine ⟨⟨name, header, footer, omitIfEmpty⟩, ?_, hnonempty⟩
  simp only [ofJson?, Option.bind_eq_bind, Option.mem_def, Option.bind_eq_some_iff]
  exact ⟨fields, rfl, name, hname, header, hheader, footer, hfooter, omitIfEmpty, homit, rfl⟩

theorem LayoutNode.exists_ofJson? (form : Form)
    (h : definitions.Obeys (budget + 4) "layoutNode" value) :
    ∃ node ∈ LayoutNode.ofJson? form value, node.IsAdmissible := by
  have hschema := (Definitions.obeys_succ_iff rfl).1 h
  obtain ⟨fields, word, kind, rfl, hlookup, hkind⟩ :=
    exists_kind_of_admits_taggedSchema kinds hschema
  have hrecord := (admits_layoutNodeSchema_object_iff hkind hlookup).1 hschema
  have hfield : (Json.object fields).field? "kind" = some (.string word) := hlookup
  have hnodup : (kinds.map Prod.fst).Nodup := by simp [kinds]
  rw [ofJson?, tagged?_of_field? hfield (Keyed.lookup_of_mem hnodup hkind)]
  cases kind with
  | message =>
    obtain ⟨message, hread, hadmissible⟩ := LayoutMessage.exists_ofJson? hrecord
    exact ⟨.message message, by simpa using hread, hadmissible⟩
  | slot =>
    obtain ⟨placeholder, hread, hnonempty⟩ := Placeholder.exists_ofJson? hrecord
    exact ⟨.slot placeholder, by simpa using hread, hnonempty⟩

/-- A slot is read, if its numbers fit and as many references are followed as its plan and its
condition ask for. -/
theorem Slot.exists_ofJson? (hbudget : 3 * value.depth + 2 ≤ budget)
    (h : definitions.Obeys budget "slot" value) (hfits : slotFits value) :
    ∃ slot ∈ Slot.ofJson? value, slot.IsAdmissible := by
  obtain ⟨budget, rfl⟩ : ∃ lower, budget = lower + 2 := ⟨budget - 2, by omega⟩
  obtain ⟨fields, rfl, hrecord⟩ :=
    admits_recordSchema_iff.1 ((Definitions.obeys_succ_iff rfl).1 h)
  obtain ⟨hkeys, ⟨hpriority, hcondition, htokens, hplan, -, -⟩, -⟩ := admits_record_iff.1 hrecord
  have hdepth : ∀ {key : String} {found : Json}, fields.lookup key = some found →
      found.depth < (Json.object fields).depth := fun hfound => Json.depth_lt_of_field? hfound
  obtain ⟨priority, hpriority, -⟩ : ∃ priority ∈ defaulting? "priority" int32? 0 fields, True :=
    exists_defaulting? trivial fun found hfound =>
      exists_int32? (hpriority found hfound) (fits_of_lookup hfits rfl hfound)
  obtain ⟨condition, hcondition, hadmissible⟩ :
      ∃ condition ∈ optional? "when" (Condition.ofJson? .direct) fields,
        ∀ part ∈ condition, part.IsAdmissible := by
    refine exists_optional? fun found hfound => ?_
    have hdeeper := hdepth hfound
    exact Condition.exists_ofJson? .direct (by omega) (hcondition found hfound)
  obtain ⟨tokens, htokens, -⟩ : ∃ tokens ∈ optional? "budget" word64? fields,
      ∀ amount ∈ tokens, True :=
    exists_optional? fun found hfound =>
      exists_tokens? (htokens found hfound) (fits_of_lookup hfits rfl hfound)
  obtain ⟨plan, hplan, hadmissiblePlan⟩ :
      ∃ plan ∈ required? "plan" (list? (PlanNode.ofJson? .direct)) fields,
        PlanNode.AreAdmissible plan := by
    refine exists_required? (hkeys _ (by simp)) fun found hfound => ?_
    have hdeeper := hdepth hfound
    exact PlanNode.exists_list? (hplan found hfound) (fits_of_lookup hfits rfl hfound)
      fun inner hinner hinnerFits hobeys =>
        PlanNode.exists_ofJson? .direct (by omega) hobeys hinnerFits
  obtain ⟨metadata, hmetadata, -⟩ : ∃ metadata ∈ defaulting? "meta" some .null fields, True :=
    exists_defaulting? trivial fun found _ => ⟨found, rfl, trivial⟩
  refine ⟨⟨priority, condition, tokens, plan, metadata⟩, ?_, hadmissible, hadmissiblePlan⟩
  simp only [ofJson?, Option.bind_eq_bind, Option.mem_def, Option.bind_eq_some_iff]
  exact ⟨fields, rfl, priority, hpriority, condition, hcondition, tokens, htokens, plan, hplan,
    metadata, hmetadata, rfl⟩

theorem LaneGroup.exists_ofJson? (h : groupSchema.Admits meaning value) :
    ∃ group ∈ LaneGroup.ofJson? value, group.id ≠ "" := by
  obtain ⟨fields, rfl, hrecord⟩ := admits_recordSchema_iff.1 h
  obtain ⟨hkeys, ⟨hid, hopening, hclosing, -⟩, -⟩ := admits_record_iff.1 hrecord
  obtain ⟨id, hid, hnonempty⟩ : ∃ id ∈ required? "id" text? fields, id ≠ "" :=
    exists_required? (hkeys _ (by simp)) fun found hfound => exists_name? (hid found hfound)
  obtain ⟨opening, hopening, -⟩ : ∃ opening ∈ optional? "open" text? fields, ∀ s ∈ opening, True :=
    exists_optional? fun found hfound => exists_text? (hopening found hfound)
  obtain ⟨closing, hclosing, -⟩ : ∃ closing ∈ optional? "close" text? fields, ∀ s ∈ closing, True :=
    exists_optional? fun found hfound => exists_text? (hclosing found hfound)
  refine ⟨⟨id, opening, closing⟩, ?_, hnonempty⟩
  simp only [ofJson?, Option.bind_eq_bind, Option.mem_def, Option.bind_eq_some_iff]
  exact ⟨fields, rfl, id, hid, opening, hopening, closing, hclosing, rfl⟩

/-- A lane is read, if its numbers fit. -/
theorem Lane.exists_ofJson? (h : definitions.Obeys (budget + 2) "lane" value)
    (hfits : laneFits value) : ∃ lane ∈ Lane.ofJson? value, lane.IsAdmissible := by
  obtain ⟨fields, rfl, hrecord⟩ :=
    admits_recordSchema_iff.1 ((Definitions.obeys_succ_iff rfl).1 h)
  obtain ⟨hkeys, ⟨hid, henabled, hrole, htemplate, horder, hgroups, hreserve, -⟩, -⟩ :=
    admits_record_iff.1 hrecord
  obtain ⟨id, hid, hnonempty⟩ : ∃ id ∈ required? "id" text? fields, id ≠ "" :=
    exists_required? (hkeys _ (by simp)) fun found hfound => exists_name? (hid found hfound)
  obtain ⟨enabled, henabled, -⟩ : ∃ enabled ∈ defaulting? "enabled" flag? true fields, True :=
    exists_defaulting? trivial fun found hfound => exists_flag? (henabled found hfound)
  obtain ⟨role, hrole, -⟩ : ∃ role ∈ required? "role" (Role.ofJson? .direct) fields, True :=
    exists_required? (hkeys _ (by simp)) fun found hfound =>
      Role.exists_ofJson? .direct (hrole found hfound)
  obtain ⟨template, htemplate, -⟩ : ∃ template ∈ required? "template" text? fields, True :=
    exists_required? (hkeys _ (by simp)) fun found hfound => exists_text? (htemplate found hfound)
  obtain ⟨order, horder, -⟩ : ∃ order ∈ defaulting? "order" int32? 0 fields, True :=
    exists_defaulting? trivial fun found hfound =>
      exists_int32? (horder found hfound) (fits_of_lookup hfits rfl hfound)
  obtain ⟨groups, hgroups, hgroupsNamed⟩ :
      ∃ groups ∈ defaulting? "groups" (list? LaneGroup.ofJson?) [] fields,
        ∀ group ∈ groups, group.id ≠ "" :=
    exists_defaulting? (fun group hgroup => nomatch hgroup) fun found hfound =>
      exists_list? (hgroups found hfound) fun _ _ hgroup => LaneGroup.exists_ofJson? hgroup
  obtain ⟨reserve, hreserve, -⟩ : ∃ reserve ∈ optional? "reserveTokens" word64? fields,
      ∀ amount ∈ reserve, True :=
    exists_optional? fun found hfound =>
      exists_tokens? (hreserve found hfound) (fits_of_lookup hfits rfl hfound)
  refine ⟨⟨id, enabled, role, template, order, groups, reserve⟩, ?_, hnonempty, hgroupsNamed⟩
  simp only [ofJson?, Option.bind_eq_bind, Option.mem_def, Option.bind_eq_some_iff]
  exact ⟨fields, rfl, id, hid, enabled, henabled, role, hrole, template, htemplate, order, horder,
    groups, hgroups, reserve, hreserve, rfl⟩

/-- The slots are read under their names, if their numbers fit and as many references are
followed as the deepest of them asks for. -/
theorem exists_slotsOfJson? (hbudget : 3 * value.depth + 2 ≤ budget)
    (h : (rules [ofKind [.object], values (.named "slot")]).Admits (definitions.Obeys budget)
      value)
    (hfits : slotsFit value) :
    ∃ slots ∈ slotsOfJson? value, ∀ entry ∈ slots, entry.2.IsAdmissible := by
  obtain ⟨hkind, hvalues, -⟩ := h
  obtain ⟨fields, rfl⟩ : ∃ fields, value = .object fields := by
    simpa [Admits, Kind.admits_object_iff] using hkind
  refine exists_mapM fun field hfield => ?_
  have hdeeper : field.2.depth < (Json.object fields).depth := by
    rw [Json.depth]
    exact Nat.lt_succ_of_le (Json.depth_le_depthOfFields hfield)
  obtain ⟨slot, hread, hadmissible⟩ := Slot.exists_ofJson? (by omega) (hvalues field hfield)
    (List.all_eq_true.1 hfits field hfield)
  rw [Option.mem_def] at hread
  exact ⟨(field.1, slot), by rw [hread, Option.map_some, Option.mem_def], hadmissible⟩

end Template

/-- A document that the schema admits is read, if its numbers fit and as many references are
followed as the deepest plan asks for. -/
theorem Template.exists_ofJson?_of_admits {document : Json} {budget : Nat}
    (hbudget : 3 * document.depth + 4 ≤ budget)
    (h : schema.Admits (definitions.Obeys budget) document) (hfits : numbersFit document) :
    ∃ template ∈ Template.ofJson? document, template.IsAdmissible := by
  obtain ⟨budget, rfl⟩ : ∃ lower, budget = lower + 4 := ⟨budget - 4, by omega⟩
  obtain ⟨fields, rfl, hrecord⟩ := admits_recordSchema_iff.1 h
  obtain ⟨hkeys, ⟨hid, htask, hname, hversion, hlayout, hslots, hattachments, -⟩, -⟩ :=
    admits_record_iff.1 hrecord
  obtain ⟨id, hid, hnonempty⟩ : ∃ id ∈ required? "id" text? fields, id ≠ "" :=
    exists_required? (hkeys _ (by simp)) fun found hfound => exists_name? (hid found hfound)
  obtain ⟨task, htask, -⟩ : ∃ task ∈ defaulting? "task" text? "" fields, True :=
    exists_defaulting? trivial fun found hfound => exists_text? (htask found hfound)
  obtain ⟨name, hname, -⟩ : ∃ name ∈ required? "name" text? fields, True :=
    exists_required? (hkeys _ (by simp)) fun found hfound => exists_text? (hname found hfound)
  obtain ⟨version, hversion, -⟩ : ∃ version ∈ required? "version" word32? fields, True :=
    exists_required? (hkeys _ (by simp)) fun found hfound =>
      exists_word32? (hversion found hfound) (fits_of_lookup hfits rfl hfound)
  obtain ⟨layout, hlayout, hadmissibleLayout⟩ :
      ∃ layout ∈ required? "layout" (list? (LayoutNode.ofJson? .direct)) fields,
        ∀ node ∈ layout, node.IsAdmissible :=
    exists_required? (hkeys _ (by simp)) fun found hfound =>
      exists_list? (hlayout found hfound) fun _ _ hnode => LayoutNode.exists_ofJson? .direct hnode
  obtain ⟨slots, hslots, hadmissibleSlots⟩ :
      ∃ slots ∈ defaulting? "slots" slotsOfJson? [] fields,
        ∀ entry ∈ slots, entry.2.IsAdmissible := by
    refine exists_defaulting? (fun entry hentry => nomatch hentry) fun found hfound => ?_
    have hdeeper : found.depth < (Json.object fields).depth := Json.depth_lt_of_field? hfound
    exact exists_slotsOfJson? (by omega) (hslots found hfound) (fits_of_lookup hfits rfl hfound)
  obtain ⟨attachments, hattachments, hadmissibleLanes⟩ :
      ∃ attachments ∈ defaulting? "attachments" (list? Lane.ofJson?) [] fields,
        ∀ lane ∈ attachments, lane.IsAdmissible := by
    refine exists_defaulting? (fun lane hlane => nomatch hlane) fun found hfound => ?_
    have hlanes := fits_of_lookup hfits rfl hfound
    obtain ⟨items, rfl, hitems⟩ := admits_listSchema_iff.1 (hattachments found hfound)
    exact exists_mapM fun item hitem =>
      Lane.exists_ofJson? (hitems item hitem) (List.all_eq_true.1 hlanes item hitem)
  refine ⟨⟨id, task, name, version, layout, slots, attachments⟩, ?_, hnonempty,
    hadmissibleLayout, hadmissibleSlots, hadmissibleLanes⟩
  simp only [Template.ofJson?, Option.bind_eq_bind, Option.mem_def, Option.bind_eq_some_iff]
  exact ⟨fields, rfl, id, hid, task, htask, name, hname, version, hversion, layout, hlayout,
    slots, hslots, attachments, hattachments, rfl⟩

/-- A document without violations whose numbers fit their fields is read as a template of
which the schema asks nothing that is missing. -/
theorem Template.exists_ofJson? {document : Json} (hvalid : violations document = [])
    (hfits : numbersFit document) :
    ∃ template ∈ Template.ofJson? document, template.IsAdmissible := by
  have hlength : definitions.length = 15 := rfl
  have hadmits := violations_eq_nil_iff.1 hvalid
  rw [hlength] at hadmits
  exact exists_ofJson?_of_admits (by omega) hadmits hfits

end ChatPrompt
