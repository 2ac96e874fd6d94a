import ChatPrompt.Template.Writing
import ChatPrompt.Proofs.Records
import ChatPrompt.Proofs.Shapes

/-!
# Written templates obey the schema

The schema asks for a little more than that a template can be read: names are not empty, and
a reference says where its data comes from. A template of which this holds throughout is
written as a value that obeys the schema, however many references to definitions are followed.
-/

namespace ChatPrompt

open Schema Record

namespace Template

/-- What the schema asks of a reference: it names a source or a path, and no name is empty. -/
structure Reference.IsAdmissible (reference : Reference) : Prop where
  /-- The name of the source is not empty. -/
  source : ∀ name ∈ reference.source, name ≠ ""
  /-- The text of the path is not empty. -/
  path : ∀ path ∈ reference.path, path ≠ ""
  /-- There is a source or a path. -/
  leads : reference.source.isSome ∨ reference.path.isSome

mutual

/-- What the schema asks of a condition: its references are admissible, and an expression is
not empty. -/
def Condition.IsAdmissible : Condition → Prop
  | .present target => target.IsAdmissible
  | .nonEmpty target => target.IsAdmissible
  | .compare target _ _ => target.IsAdmissible
  | .expression source => source ≠ ""
  | .all conditions => Condition.AreAdmissible conditions
  | .any conditions => Condition.AreAdmissible conditions
  | .negation condition => condition.IsAdmissible

/-- What the schema asks of each of several conditions. -/
def Condition.AreAdmissible : List Condition → Prop
  | [] => True
  | condition :: rest => condition.IsAdmissible ∧ Condition.AreAdmissible rest

end

/-- What the schema asks of a message of a plan. -/
structure PlanMessage.IsAdmissible (message : PlanMessage) : Prop where
  /-- The value that is said can be looked for. -/
  source : ∀ reference ∈ message.source, reference.IsAdmissible
  /-- The key is not empty. -/
  anchor : ∀ key ∈ message.anchor, key ≠ ""

/-- What the schema asks of a loop. -/
structure Loop.IsAdmissible (header : Loop) : Prop where
  /-- The items can be looked for. -/
  source : header.source.IsAdmissible
  /-- The text of the path is not empty. -/
  sortBy : ∀ path ∈ header.sortBy, path ≠ ""

mutual

/-- What the schema asks of a step of a plan. -/
def PlanNode.IsAdmissible : PlanNode → Prop
  | .message details => details.IsAdmissible
  | .forEach header body => header.IsAdmissible ∧ PlanNode.AreAdmissible body
  | .branch condition whenTrue whenFalse =>
    condition.IsAdmissible ∧ PlanNode.AreAdmissible whenTrue ∧ PlanNode.AreAdmissible whenFalse

/-- What the schema asks of each of several steps. -/
def PlanNode.AreAdmissible : List PlanNode → Prop
  | [] => True
  | node :: rest => node.IsAdmissible ∧ PlanNode.AreAdmissible rest

end

/-- What the schema asks of a message of the layout. -/
structure LayoutMessage.IsAdmissible (message : LayoutMessage) : Prop where
  /-- The value that is said can be looked for. -/
  source : ∀ reference ∈ message.source, reference.IsAdmissible
  /-- The key is not empty. -/
  anchor : ∀ key ∈ message.anchor, key ≠ ""

/-- What the schema asks of an element of the layout. -/
def LayoutNode.IsAdmissible : LayoutNode → Prop
  | .message details => details.IsAdmissible
  | .slot placeholder => placeholder.name ≠ ""

/-- What the schema asks of a slot. -/
structure Slot.IsAdmissible (slot : Slot) : Prop where
  /-- Its condition is admissible. -/
  condition : ∀ condition ∈ slot.condition, condition.IsAdmissible
  /-- Its steps are admissible. -/
  plan : PlanNode.AreAdmissible slot.plan

/-- What the schema asks of a lane. -/
structure Lane.IsAdmissible (lane : Lane) : Prop where
  /-- Its name is not empty. -/
  id : lane.id ≠ ""
  /-- The names of its groups are not empty. -/
  groups : ∀ group ∈ lane.groups, group.id ≠ ""

end Template

/-- What the schema asks of a template. -/
structure Template.IsAdmissible (template : Template) : Prop where
  /-- Its identity is not empty. -/
  id : template.id ≠ ""
  /-- The elements of its layout are admissible. -/
  layout : ∀ node ∈ template.layout, node.IsAdmissible
  /-- Its slots are admissible. -/
  slots : ∀ entry ∈ template.slots, entry.2.IsAdmissible
  /-- Its lanes are admissible. -/
  attachments : ∀ lane ∈ template.attachments, lane.IsAdmissible

namespace Template

/-- Several conditions are admissible if each of them is. -/
theorem Condition.areAdmissible_iff {conditions : List Condition} :
    Condition.AreAdmissible conditions ↔ ∀ condition ∈ conditions, condition.IsAdmissible := by
  induction conditions with
  | nil => simp [Condition.AreAdmissible]
  | cons condition rest ih => simp [Condition.AreAdmissible, ih]

/-- Several steps are admissible if each of them is. -/
theorem PlanNode.areAdmissible_iff {nodes : List PlanNode} :
    PlanNode.AreAdmissible nodes ↔ ∀ node ∈ nodes, node.IsAdmissible := by
  induction nodes with
  | nil => simp [PlanNode.AreAdmissible]
  | cons node rest ih => simp [PlanNode.AreAdmissible, ih]

/-! ### Parts that hold no others -/

/-- A role is written as one. -/
theorem obeys_role (role : Role) : ∀ budget, definitions.Obeys budget "role" role.toJson :=
  Definitions.obeys_of_admits rfl fun _ => by
    cases role <;> simp [Admits, AdmitsAll, Role.toJson, Role.text]

theorem obeys_tokens (tokens : Tokens) :
    ∀ budget, definitions.Obeys budget "tokens" (tokensToJson tokens) :=
  Definitions.obeys_of_admits rfl fun _ => admits_countSchema tokens.toNat

theorem Reference.obeys_toJson {reference : Reference} (h : reference.IsAdmissible) :
    ∀ budget, definitions.Obeys budget "dataRef" reference.toJson := by
  refine Definitions.obeys_of_admits rfl fun budget => ?_
  rw [toJson]
  refine admits_referenceSchema_object_iff.2 ⟨?_, ⟨?_, ?_, ?_, trivial⟩, ?_⟩
  · simp only [List.forall_mem_append, forall_mem_whenSome, forall_mem_whenNotNull]
    simp
  · simpa [List.lookup_append, admits_nameSchema_iff] using h.source
  · simp [Admits, AdmitsAll]
  · simpa [List.lookup_append, admits_nameSchema_iff] using h.path
  · simpa [List.lookup_append, -List.lookup_isSome_iff] using h.leads

theorem Frame.obeys_toJson (frame : Frame) :
    ∀ budget, definitions.Obeys budget "frame" frame.toJson := by
  refine Definitions.obeys_of_admits rfl fun budget => ?_
  refine admits_recordSchema_iff.2 ⟨_, rfl, admits_record_iff.2 ⟨?_, ⟨?_, ?_, trivial⟩, ?_⟩⟩
  · simp
  · simp [Admits, obeys_role]
  · simp [List.lookup_cons, admits_textSchema_iff]
  · simp

/-! ### Conditions -/

/-- A record with the fields of a kind of conditions, each as the schema asks for, is written as
a condition. -/
theorem Condition.obeys_object {word : String} {kind : Condition.Kind} {fields : Json.Fields}
    (hkind : (word, kind) ∈ kinds) (hnames : fields.map Prod.fst = kind.known.map Prod.fst)
    (hfields : ∀ budget, AdmitsFields (definitions.Obeys budget) kind.known
      (("type", .string word) :: fields)) :
    ∀ budget,
      definitions.Obeys budget "condition" (.object (("type", .string word) :: fields)) := by
  refine Definitions.obeys_of_admits rfl fun budget => ?_
  refine (admits_conditionSchema_object_iff hkind List.lookup_cons_self).2 ?_
  refine admits_record_iff.2 ⟨?_, ⟨?_, hfields budget⟩, ?_⟩
  · intro key hkey
    rw [← hnames] at hkey
    obtain ⟨field, hfield, rfl⟩ := List.mem_map.1 hkey
    exact List.lookup_isSome_iff.2 ⟨field, List.mem_cons_of_mem _ hfield, by simp⟩
  · simp [Admits]
  · rw [List.map_cons, ← hnames]
    intro field hfield
    rcases List.mem_cons.1 hfield with rfl | hrest
    · exact List.mem_cons_self
    · exact List.mem_cons_of_mem _ (List.mem_map_of_mem hrest)

mutual

/-- A condition is written as one. -/
theorem Condition.obeys_toJson : ∀ {condition : Condition}, condition.IsAdmissible →
    ∀ budget, definitions.Obeys budget "condition" condition.toJson
  | .present target, h => by
    have hkind : ("exists", Kind.present) ∈ kinds := by simp [kinds]
    refine obeys_object hkind rfl fun budget => ⟨?_, trivial⟩
    simpa [List.lookup_cons, Admits] using Reference.obeys_toJson h budget
  | .nonEmpty target, h => by
    have hkind : ("nonEmpty", Kind.nonEmpty) ∈ kinds := by simp [kinds]
    refine obeys_object hkind rfl fun budget => ⟨?_, trivial⟩
    simpa [List.lookup_cons, Admits] using Reference.obeys_toJson h budget
  | .compare target op value, h => by
    have hkind : ("compare", Kind.compare) ∈ kinds := by simp [kinds]
    refine obeys_object hkind rfl fun budget => ⟨?_, ?_, ?_, trivial⟩
    · simpa [List.lookup_cons, Admits] using Reference.obeys_toJson h budget
    · cases op <;> simp [List.lookup_cons, Admits, AdmitsAll, comparisonWord]
    · simp [Admits, AdmitsAll]
  | .expression source, h => by
    have hkind : ("expr", Kind.expression) ∈ kinds := by simp [kinds]
    have hnonempty : source ≠ "" := h
    refine obeys_object hkind rfl fun budget => ⟨?_, trivial⟩
    simpa [List.lookup_cons, admits_nameSchema_iff] using hnonempty
  | .all conditions, h => by
    have hkind : ("all", Kind.all) ∈ kinds := by simp [kinds]
    refine obeys_object hkind rfl fun budget => ⟨?_, trivial⟩
    simpa [List.lookup_cons, admits_listSchema_iff, Admits] using
      fun item hitem => Condition.obeys_listToJson h item hitem budget
  | .any conditions, h => by
    have hkind : ("any", Kind.any) ∈ kinds := by simp [kinds]
    refine obeys_object hkind rfl fun budget => ⟨?_, trivial⟩
    simpa [List.lookup_cons, admits_listSchema_iff, Admits] using
      fun item hitem => Condition.obeys_listToJson h item hitem budget
  | .negation condition, h => by
    have hkind : ("not", Kind.negation) ∈ kinds := by simp [kinds]
    have hinner : condition.IsAdmissible := h
    refine obeys_object hkind rfl fun budget => ⟨?_, trivial⟩
    simpa [List.lookup_cons, Admits] using Condition.obeys_toJson hinner budget

theorem Condition.obeys_listToJson :
    ∀ {conditions : List Condition}, Condition.AreAdmissible conditions →
      ∀ item ∈ Condition.listToJson conditions, ∀ budget,
        definitions.Obeys budget "condition" item
  | [], _, _, hitem, _ => nomatch hitem
  | condition :: rest, h, item, hitem, budget => by
    rcases List.mem_cons.1 hitem with rfl | hrest
    · exact Condition.obeys_toJson h.1 budget
    · exact Condition.obeys_listToJson h.2 item hrest budget

end

/-! ### Plans -/

theorem PlanMessage.obeys_toFields {message : PlanMessage} (h : message.IsAdmissible)
    (kind : Json) : ∀ budget,
      definitions.Obeys budget "planMessage" (.object (("kind", kind) :: message.toFields)) := by
  refine Definitions.obeys_of_admits rfl fun budget => ?_
  rw [toFields]
  refine admits_record_iff.2 ⟨?_, ⟨?_, ?_, ?_, ?_, ?_, ?_, trivial⟩, ?_⟩
  · simp
  · simp [Admits]
  · simp [List.lookup_cons, Admits, obeys_role]
  · simp [List.lookup_cons, List.lookup_append, admits_textSchema_iff]
  · have hsource : ∀ reference ∈ message.source,
        definitions.Obeys budget "dataRef" reference.toJson :=
      fun reference hreference => Reference.obeys_toJson (h.source reference hreference) budget
    simpa [List.lookup_cons, List.lookup_append, Admits] using hsource
  · simpa [List.lookup_cons, List.lookup_append, admits_nameSchema_iff] using h.anchor
  · simp [List.lookup_cons, List.lookup_append, Admits, obeys_tokens]
  · simp only [List.forall_mem_append, List.forall_mem_cons, forall_mem_whenSome]
    simp

/-- A step of a kind is written as a step, if its record obeys the definition of the kind. -/
theorem PlanNode.obeys_object {word : String} {kind : PlanNode.Kind} {fields : Json.Fields}
    (hkind : (word, kind) ∈ kinds) (hlookup : fields.lookup "kind" = some (.string word))
    (h : ∀ budget, definitions.Obeys budget kind.definition (.object fields)) :
    ∀ budget, definitions.Obeys budget "planNode" (.object fields) :=
  Definitions.obeys_of_admits rfl fun budget =>
    (admits_planNodeSchema_object_iff hkind hlookup).2 (h budget)

/-- Steps that are written as such are written as a plan. -/
theorem PlanNode.obeys_plan {nodes : List PlanNode}
    (h : ∀ item ∈ listToJson nodes, ∀ budget, definitions.Obeys budget "planNode" item) :
    ∀ budget, definitions.Obeys budget "plan" (.array (listToJson nodes)) :=
  Definitions.obeys_of_admits rfl fun budget =>
    admits_listSchema_iff.2 ⟨_, rfl, fun item hitem => h item hitem budget⟩

/-- A loop is written as one, if its steps are written as a plan. -/
theorem Loop.obeys_fields {header : Loop} (h : header.IsAdmissible) {body : List PlanNode}
    (hbody : ∀ budget, definitions.Obeys budget "plan" (.array (PlanNode.listToJson body))) :
    ∀ budget, definitions.Obeys budget "forEach" (PlanNode.forEach header body).toJson := by
  refine Definitions.obeys_of_admits rfl fun budget => ?_
  rw [PlanNode.toJson]
  refine admits_record_iff.2 ⟨?_, ⟨?_, ?_, ?_, ?_, ?_, ?_, ?_, ?_, ?_, ?_, trivial⟩, ?_⟩
  · simp [List.lookup_cons, List.lookup_append, -List.lookup_isSome_iff]
  · simp [Admits]
  · simpa [List.lookup_cons, Admits] using Reference.obeys_toJson h.source budget
  · cases header.order <;> simp [List.lookup_cons, Admits, AdmitsAll, Order.toJson]
  · simpa [List.lookup_cons, List.lookup_append, admits_nameSchema_iff] using h.sortBy
  · simp [List.lookup_cons, List.lookup_append, admits_countSchema]
  · cases header.filling <;>
      simp [List.lookup_cons, List.lookup_append, Admits, AdmitsAll, Filling.toJson]
  · simpa [List.lookup_cons, List.lookup_append, Admits] using hbody budget
  · simp [List.lookup_cons, List.lookup_append, Admits, Frame.obeys_toJson]
  · simp [List.lookup_cons, List.lookup_append, Admits, obeys_tokens]
  · simp [List.lookup_cons, List.lookup_append, admits_flagSchema_iff]
  · simp only [List.forall_mem_append, List.forall_mem_cons, forall_mem_whenSome]
    simp

/-- A branch is written as one, if its steps are written as plans. -/
theorem PlanNode.obeys_branch {condition : Condition} (h : condition.IsAdmissible)
    {whenTrue whenFalse : List PlanNode}
    (htrue : ∀ budget, definitions.Obeys budget "plan" (.array (listToJson whenTrue)))
    (hfalse : ∀ budget, definitions.Obeys budget "plan" (.array (listToJson whenFalse))) :
    ∀ budget,
      definitions.Obeys budget "ifNode" (PlanNode.branch condition whenTrue whenFalse).toJson := by
  refine Definitions.obeys_of_admits rfl fun budget => ?_
  rw [PlanNode.toJson]
  refine admits_record_iff.2 ⟨?_, ⟨?_, ?_, ?_, ?_, trivial⟩, ?_⟩
  · simp
  · simp [Admits]
  · simpa [List.lookup_cons, Admits] using Condition.obeys_toJson h budget
  · simpa [List.lookup_cons, Admits] using htrue budget
  · cases whenFalse with
    | nil => simp [List.lookup_cons]
    | cons node rest => simpa [List.lookup_cons, Admits] using hfalse budget
  · cases whenFalse <;> simp

mutual

/-- A step of a plan is written as one. -/
theorem PlanNode.obeys_toJson : ∀ {node : PlanNode}, node.IsAdmissible →
    ∀ budget, definitions.Obeys budget "planNode" node.toJson
  | .message details, h => by
    have hkind : ("message", Kind.message) ∈ kinds := by simp [kinds]
    exact obeys_object hkind rfl (PlanMessage.obeys_toFields h _)
  | .forEach header body, ⟨hheader, hbody⟩ => by
    have hkind : ("forEach", Kind.forEach) ∈ kinds := by simp [kinds]
    have hplan := obeys_plan (PlanNode.obeys_listToJson hbody)
    exact obeys_object hkind rfl (Loop.obeys_fields hheader hplan)
  | .branch condition whenTrue whenFalse, ⟨hcondition, htrue, hfalse⟩ => by
    have hkind : ("if", Kind.branch) ∈ kinds := by simp [kinds]
    have hwhenTrue := obeys_plan (PlanNode.obeys_listToJson htrue)
    have hwhenFalse := obeys_plan (PlanNode.obeys_listToJson hfalse)
    exact obeys_object hkind rfl (obeys_branch hcondition hwhenTrue hwhenFalse)

theorem PlanNode.obeys_listToJson :
    ∀ {nodes : List PlanNode}, PlanNode.AreAdmissible nodes →
      ∀ item ∈ PlanNode.listToJson nodes, ∀ budget, definitions.Obeys budget "planNode" item
  | [], _, _, hitem, _ => nomatch hitem
  | node :: rest, h, item, hitem, budget => by
    rcases List.mem_cons.1 hitem with rfl | hrest
    · exact PlanNode.obeys_toJson h.1 budget
    · exact PlanNode.obeys_listToJson h.2 item hrest budget

end

/-! ### The layout, slots and lanes -/

theorem LayoutMessage.obeys_toFields {message : LayoutMessage} (h : message.IsAdmissible)
    (kind : Json) : ∀ budget,
      definitions.Obeys budget "layoutMessage" (.object (("kind", kind) :: message.toFields)) := by
  refine Definitions.obeys_of_admits rfl fun budget => ?_
  rw [toFields]
  refine admits_record_iff.2 ⟨?_, ⟨?_, ?_, ?_, ?_, ?_, ?_, trivial⟩, ?_⟩
  · simp
  · simp [Admits]
  · simp [List.lookup_cons, Admits, obeys_role]
  · simp [List.lookup_cons, List.lookup_append, admits_textSchema_iff]
  · have hsource : ∀ reference ∈ message.source,
        definitions.Obeys budget "dataRef" reference.toJson :=
      fun reference hreference => Reference.obeys_toJson (h.source reference hreference) budget
    simpa [List.lookup_cons, List.lookup_append, Admits] using hsource
  · simp [List.lookup_cons, List.lookup_append, admits_flagSchema_iff]
  · simpa [List.lookup_cons, List.lookup_append, admits_nameSchema_iff] using h.anchor
  · simp only [List.forall_mem_append, List.forall_mem_cons, forall_mem_whenSome,
      forall_mem_whenTrue]
    simp

theorem Placeholder.obeys_toFields {placeholder : Placeholder} (h : placeholder.name ≠ "")
    (kind : Json) : ∀ budget,
      definitions.Obeys budget "layoutSlot" (.object (("kind", kind) :: placeholder.toFields)) := by
  refine Definitions.obeys_of_admits rfl fun budget => ?_
  rw [toFields]
  refine admits_record_iff.2 ⟨?_, ⟨?_, ?_, ?_, ?_, ?_, trivial⟩, ?_⟩
  · simp
  · simp [Admits]
  · simpa [List.lookup_cons, admits_nameSchema_iff] using h
  · simp [List.lookup_cons, List.lookup_append, Admits, Frame.obeys_toJson]
  · simp [List.lookup_cons, List.lookup_append, Admits, Frame.obeys_toJson]
  · cases placeholder.omitIfEmpty <;>
      simp [List.lookup_cons, List.lookup_append, admits_flagSchema_iff]
  · simp only [List.forall_mem_append, List.forall_mem_cons, forall_mem_whenSome]
    simp

theorem LayoutNode.obeys_toJson {node : LayoutNode} (h : node.IsAdmissible) :
    ∀ budget, definitions.Obeys budget "layoutNode" node.toJson := by
  refine Definitions.obeys_of_admits rfl fun budget => ?_
  cases node with
  | message details =>
    have hkind : ("message", Kind.message) ∈ kinds := by simp [kinds]
    exact (admits_layoutNodeSchema_object_iff hkind rfl).2
      (LayoutMessage.obeys_toFields h _ budget)
  | slot placeholder =>
    have hkind : ("slot", Kind.slot) ∈ kinds := by simp [kinds]
    exact (admits_layoutNodeSchema_object_iff hkind rfl).2
      (Placeholder.obeys_toFields h _ budget)

theorem Slot.obeys_toJson {slot : Slot} (h : slot.IsAdmissible) :
    ∀ budget, definitions.Obeys budget "slot" slot.toJson := by
  refine Definitions.obeys_of_admits rfl fun budget => ?_
  rw [toJson]
  refine admits_recordSchema_iff.2 ⟨_, rfl, admits_record_iff.2
    ⟨?_, ⟨?_, ?_, ?_, ?_, ?_, trivial⟩, ?_⟩⟩
  · simp [List.lookup_cons, List.lookup_append, -List.lookup_isSome_iff]
  · simp [admits_integerSchema]
  · have hcondition : ∀ condition ∈ slot.condition,
        definitions.Obeys budget "condition" condition.toJson :=
      fun condition hmem => Condition.obeys_toJson (h.condition condition hmem) budget
    simpa [List.lookup_cons, List.lookup_append, Admits] using hcondition
  · simp [List.lookup_cons, List.lookup_append, Admits, obeys_tokens]
  · simpa [List.lookup_cons, List.lookup_append, Admits] using
      PlanNode.obeys_plan (PlanNode.obeys_listToJson h.plan) budget
  · simp [Admits, AdmitsAll]
  · simp only [List.forall_mem_append, List.forall_mem_cons, forall_mem_whenSome,
      forall_mem_whenNotNull]
    simp

theorem LaneGroup.admits_toJson {group : LaneGroup} (h : group.id ≠ "")
    {meaning : String → Json → Prop} : groupSchema.Admits meaning group.toJson := by
  rw [toJson]
  refine admits_recordSchema_iff.2 ⟨_, rfl, admits_record_iff.2
    ⟨?_, ⟨?_, ?_, ?_, trivial⟩, ?_⟩⟩
  · simp
  · simpa [admits_nameSchema_iff] using h
  · simp [List.lookup_cons, List.lookup_append, admits_textSchema_iff]
  · simp [List.lookup_cons, List.lookup_append, admits_textSchema_iff]
  · simp only [List.forall_mem_append, List.forall_mem_cons, forall_mem_whenSome]
    simp

/-- A lane is written as one. -/
theorem Lane.obeys_toJson {lane : Lane} (h : lane.IsAdmissible) :
    ∀ budget, definitions.Obeys budget "lane" lane.toJson := by
  refine Definitions.obeys_of_admits rfl fun budget => ?_
  rw [toJson]
  refine admits_recordSchema_iff.2 ⟨_, rfl, admits_record_iff.2
    ⟨?_, ⟨?_, ?_, ?_, ?_, ?_, ?_, ?_, trivial⟩, ?_⟩⟩
  · simp
  · simpa [List.lookup_cons, admits_nameSchema_iff] using h.id
  · simp [List.lookup_cons, admits_flagSchema_iff]
  · simp [List.lookup_cons, Admits, obeys_role]
  · simp [List.lookup_cons, admits_textSchema_iff]
  · simp [List.lookup_cons, admits_integerSchema]
  · have hgroups : (listSchema groupSchema).Admits (definitions.Obeys budget)
        (.array (lane.groups.map LaneGroup.toJson)) :=
      admits_listSchema_iff.2 ⟨_, rfl, List.forall_mem_map.2 fun group hgroup =>
        LaneGroup.admits_toJson (h.groups group hgroup)⟩
    simpa [List.lookup_cons, List.lookup_append, groupSchema] using fun _ => hgroups
  · simp [List.lookup_cons, List.lookup_append, Admits, obeys_tokens]
  · simp only [List.forall_mem_append, List.forall_mem_cons, forall_mem_whenSome,
      forall_mem_whenNotEmpty]
    simp

end Template

/-- A template of which the schema asks nothing that is missing is written without violations. -/
theorem Template.violations_toJson {template : Template} (h : template.IsAdmissible) :
    violations template.toJson = [] := by
  rw [violations_eq_nil_iff]
  generalize (template.toJson.depth + 1) * definitions.length = budget
  rw [toJson]
  refine admits_recordSchema_iff.2 ⟨_, rfl, admits_record_iff.2
    ⟨?_, ⟨?_, ?_, ?_, ?_, ?_, ?_, ?_, trivial⟩, ?_⟩⟩
  · simp
  · simpa [admits_nameSchema_iff] using h.id
  · simp [List.lookup_cons, admits_textSchema_iff]
  · simp [List.lookup_cons, admits_textSchema_iff]
  · simp [List.lookup_cons, admits_countSchema]
  · have hlayout : ∀ node ∈ template.layout, definitions.Obeys budget "layoutNode" node.toJson :=
      fun node hnode => LayoutNode.obeys_toJson (h.layout node hnode) budget
    simpa [List.lookup_cons, admits_listSchema_iff, Admits] using hlayout
  · have hslots : ∀ entry ∈ template.slots, definitions.Obeys budget "slot" entry.2.toJson :=
      fun entry hentry => Slot.obeys_toJson (h.slots entry hentry) budget
    have hobject : (rules [ofKind [.object], values (.named "slot")]).Admits
        (definitions.Obeys budget)
        (.object (template.slots.map fun entry => (entry.1, entry.2.toJson))) := by
      exact ⟨by simp [Admits, Kind.admits_object_iff], List.forall_mem_map.2 hslots, trivial⟩
    simpa [List.lookup_cons] using hobject
  · have hlanes : (listSchema (.named "lane")).Admits (definitions.Obeys budget)
        (.array (template.attachments.map Lane.toJson)) :=
      admits_listSchema_iff.2 ⟨_, rfl, List.forall_mem_map.2 fun lane hlane =>
        Lane.obeys_toJson (h.attachments lane hlane) budget⟩
    simpa [List.lookup_cons] using fun _ => hlanes
  · simp only [List.forall_mem_append, List.forall_mem_cons, forall_mem_whenNotEmpty]
    simp

end ChatPrompt
