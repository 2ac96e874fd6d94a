import ChatPrompt.Template.Reading
import ChatPrompt.Proofs.Records

/-!
# Templates are read back as they were written

Every part of a template that was written as a value is read from that value as it was. A
field that was left out because there is nothing in it is missing on reading, where it takes
the value that it had; and the kind that a record names first is the one that it had.

Conditions and plans are read down to the depth of the value, so their proofs follow the part
that was written and ask only that the depth suffices.
-/

namespace ChatPrompt

open Record

theorem Role.ofJson?_toJson (form : Form) (role : Role) :
    Role.ofJson? form role.toJson = some role := by
  cases role <;> rfl

namespace Template

theorem Reference.ofJson?_toJson (reference : Reference) :
    Reference.ofJson? reference.toJson = some reference := by
  obtain ⟨source, args, path⟩ := reference
  rw [toJson, ofJson?]
  generalize hfields : whenSome "source" Json.string source ++ whenNotNull "args" args ++
    whenSome "path" Json.string path = fields
  have hsource : optional? "source" text? fields = some source :=
    optional?_text (by simp [← hfields, List.lookup_append])
  have hargs : defaulting? "args" some .null fields = some args :=
    defaulting?_value (by simp [← hfields, List.lookup_append])
  have hpath : optional? "path" text? fields = some path :=
    optional?_text (by simp [← hfields, List.lookup_append])
  rw [hsource, hargs, hpath]
  rfl

theorem choice?_comparisonWord (op : Value.Comparison) :
    choice? .buffered comparisons (.string (comparisonWord op)) = some op := by
  cases op <;> rfl

theorem Order.choice?_toJson (order : Order) :
    choice? .buffered Order.choices order.toJson = some order := by
  cases order <;> rfl

theorem Filling.choice?_toJson (filling : Filling) :
    choice? .buffered Filling.choices filling.toJson = some filling := by
  cases filling <;> rfl

mutual

/-- A condition is read back, if the depth suffices. -/
theorem Condition.within?_toJson :
    ∀ (condition : Condition) (form : Form) (depth : Nat), condition.toJson.depth ≤ depth →
      Condition.within? depth form condition.toJson = some condition
  | condition, _, 0, hdepth => by
    cases condition <;> simp [toJson, Json.depth] at hdepth
  | .present target, form, depth + 1, _ => by
    have htarget := target.ofJson?_toJson
    rw [within?, toJson, tagged?_of_field? rfl rfl]
    simp [ofRecord?, fields?, required?, List.lookup_cons, htarget]
  | .nonEmpty target, form, depth + 1, _ => by
    have htarget := target.ofJson?_toJson
    rw [within?, toJson, tagged?_of_field? rfl rfl]
    simp [ofRecord?, fields?, required?, List.lookup_cons, htarget]
  | .compare target op value, form, depth + 1, _ => by
    have htarget := target.ofJson?_toJson
    have hop := choice?_comparisonWord op
    rw [within?, toJson, tagged?_of_field? rfl rfl]
    simp [ofRecord?, fields?, required?, List.lookup_cons, htarget, hop]
  | .expression source, form, depth + 1, _ => by
    rw [within?, toJson, tagged?_of_field? rfl rfl]
    simp [ofRecord?, fields?, required?, List.lookup_cons, text?]
  | .all conditions, form, depth + 1, hdepth => by
    have hlist := Condition.mapM_listToJson conditions depth (by
      simp only [toJson, Json.depth, Json.depthOfFields] at hdepth
      omega)
    rw [within?, toJson, tagged?_of_field? rfl rfl]
    simp [ofRecord?, fields?, required?, List.lookup_cons, list?, hlist]
  | .any conditions, form, depth + 1, hdepth => by
    have hlist := Condition.mapM_listToJson conditions depth (by
      simp only [toJson, Json.depth, Json.depthOfFields] at hdepth
      omega)
    rw [within?, toJson, tagged?_of_field? rfl rfl]
    simp [ofRecord?, fields?, required?, List.lookup_cons, list?, hlist]
  | .negation condition, form, depth + 1, hdepth => by
    have hinner := Condition.within?_toJson condition .buffered depth (by
      simp only [toJson, Json.depth, Json.depthOfFields] at hdepth
      omega)
    rw [within?, toJson, tagged?_of_field? rfl rfl]
    simp [ofRecord?, fields?, required?, List.lookup_cons, hinner]

theorem Condition.mapM_listToJson :
    ∀ (conditions : List Condition) (depth : Nat),
      Json.depthOfItems (Condition.listToJson conditions) ≤ depth →
        (Condition.listToJson conditions).mapM (Condition.within? depth .buffered) =
          some conditions
  | [], _, _ => rfl
  | condition :: rest, depth, hdepth => by
    rw [listToJson, Json.depthOfItems] at hdepth
    have hhead := Condition.within?_toJson condition .buffered depth (by omega)
    have htail := Condition.mapM_listToJson rest depth (by omega)
    simp [listToJson, hhead, htail]

end

theorem Condition.ofJson?_toJson (form : Form) (condition : Condition) :
    Condition.ofJson? form condition.toJson = some condition :=
  condition.within?_toJson form _ (Nat.le_refl _)

theorem Frame.ofJson?_toJson (form : Form) (frame : Frame) :
    Frame.ofJson? form frame.toJson = some frame := by
  have hrole := frame.role.ofJson?_toJson form
  simp [toJson, ofJson?, fields?, defaulting?, required?, List.lookup_cons, text?, hrole]

/-- A message of a plan is read back from a record that names its kind besides. -/
theorem PlanMessage.ofJson?_toFields (message : PlanMessage) (kind : Json) :
    PlanMessage.ofJson? (.object (("kind", kind) :: message.toFields)) = some message := by
  obtain ⟨role, content, source, anchor, budget⟩ := message
  rw [toFields, ofJson?]
  generalize hfields : ("kind", kind) :: ([("role", role.toJson)] ++
    whenSome "content" Json.string content ++ whenSome "from" Reference.toJson source ++
    whenSome "anchor" Json.string anchor ++ whenSome "budget" tokensToJson budget) = fields
  have hrole : required? "role" (Role.ofJson? .buffered) fields = some role :=
    required?_of_lookup (role.ofJson?_toJson .buffered) (by simp [← hfields, List.lookup_cons])
  have hcontent : optional? "content" text? fields = some content :=
    optional?_text (by simp [← hfields, List.lookup_append, List.lookup_cons])
  have hsource : optional? "from" Reference.ofJson? fields = some source :=
    optional?_of_lookup Reference.toJson rfl (fun reference _ => reference.ofJson?_toJson)
      (by simp [← hfields, List.lookup_append, List.lookup_cons])
  have hanchor : optional? "anchor" text? fields = some anchor :=
    optional?_text (by simp [← hfields, List.lookup_append, List.lookup_cons])
  have hbudget : optional? "budget" word64? fields = some budget :=
    optional?_of_lookup tokensToJson rfl (fun tokens _ => word64?_ofNat tokens)
      (by simp [← hfields, List.lookup_append, List.lookup_cons])
  simp [fields?, hrole, hcontent, hsource, hanchor, hbudget]

/-- A loop is read back from its record, if its steps are. -/
theorem PlanNode.ofRecord?_forEach (part : Json → Option PlanNode) (header : Loop)
    (body : List PlanNode) (hbody : (listToJson body).mapM part = some body) :
    ofRecord? part .forEach (PlanNode.forEach header body).toJson =
      some (.forEach header body) := by
  obtain ⟨source, order, sortBy, limit, filling, separator, budget, stops⟩ := header
  rw [toJson, ofRecord?]
  generalize hfields : [("kind", Json.string "forEach"), ("source", source.toJson),
      ("order", order.toJson)] ++ whenSome "sortBy" Json.string sortBy ++
    whenSome "limit" Json.ofNat limit ++ [("fillDir", filling.toJson),
      ("map", Json.array (listToJson body))] ++ whenSome "interleave" Frame.toJson separator ++
    whenSome "budget" tokensToJson budget ++ [("stopWhenOutOfBudget", Json.bool stops)] = fields
  have hsource : required? "source" Reference.ofJson? fields = some source :=
    required?_of_lookup source.ofJson?_toJson (by simp [← hfields, List.lookup_cons])
  have horder : defaulting? "order" (choice? .buffered Order.choices) .ascending fields =
      some order :=
    defaulting?_of_lookup order.choice?_toJson (by simp [← hfields, List.lookup_cons])
  have hsortBy : optional? "sortBy" text? fields = some sortBy :=
    optional?_text (by simp [← hfields, List.lookup_append, List.lookup_cons])
  have hlimit : optional? "limit" natural? fields = some limit :=
    optional?_of_lookup Json.ofNat rfl (fun number _ => natural?_ofNat number)
      (by simp [← hfields, List.lookup_append, List.lookup_cons])
  have hfilling : defaulting? "fillDir" (choice? .buffered Filling.choices) .appending fields =
      some filling :=
    defaulting?_of_lookup filling.choice?_toJson
      (by simp [← hfields, List.lookup_append, List.lookup_cons])
  have hlist : list? part (.array (listToJson body)) = some body := hbody
  have hmap : required? "map" (list? part) fields = some body :=
    required?_of_lookup hlist (by simp [← hfields, List.lookup_append, List.lookup_cons])
  have hseparator : optional? "interleave" (Frame.ofJson? .buffered) fields = some separator :=
    optional?_of_lookup Frame.toJson rfl (fun frame _ => frame.ofJson?_toJson .buffered)
      (by simp [← hfields, List.lookup_append, List.lookup_cons])
  have hbudget : optional? "budget" word64? fields = some budget :=
    optional?_of_lookup tokensToJson rfl (fun tokens _ => word64?_ofNat tokens)
      (by simp [← hfields, List.lookup_append, List.lookup_cons])
  have hstops : defaulting? "stopWhenOutOfBudget" flag? true fields = some stops :=
    defaulting?_of_lookup (flag?_bool stops)
      (by simp [← hfields, List.lookup_append, List.lookup_cons])
  simp [fields?, hsource, horder, hsortBy, hlimit, hfilling, hmap, hseparator, hbudget, hstops]

/-- A branch is read back from its record, if its steps are. -/
theorem PlanNode.ofRecord?_branch (part : Json → Option PlanNode) (condition : Condition)
    (whenTrue whenFalse : List PlanNode)
    (htrue : (listToJson whenTrue).mapM part = some whenTrue)
    (hfalse : (listToJson whenFalse).mapM part = some whenFalse) :
    ofRecord? part .branch (PlanNode.branch condition whenTrue whenFalse).toJson =
      some (.branch condition whenTrue whenFalse) := by
  have hcondition := condition.ofJson?_toJson .buffered
  cases whenFalse with
  | nil =>
    simp [toJson, ofRecord?, fields?, required?, defaulting?, List.lookup_cons, list?, hcondition,
      htrue]
  | cons node rest =>
    simp [toJson, ofRecord?, fields?, required?, defaulting?, List.lookup_cons, list?, hcondition,
      htrue, hfalse]

mutual

/-- A step of a plan is read back, if the depth suffices. -/
theorem PlanNode.within?_toJson :
    ∀ (node : PlanNode) (form : Form) (depth : Nat), node.toJson.depth ≤ depth →
      PlanNode.within? depth form node.toJson = some node
  | node, _, 0, hdepth => by
    cases node <;> simp [toJson, Json.depth] at hdepth
  | .message details, form, depth + 1, _ => by
    have hdetails := details.ofJson?_toFields (.string "message")
    rw [within?, toJson, tagged?_of_field? rfl rfl]
    simp [ofRecord?, hdetails]
  | .forEach header body, form, depth + 1, hdepth => by
    have hmap : (PlanNode.forEach header body).toJson.field? "map" =
        some (.array (listToJson body)) := by
      simp [toJson, Json.field?, List.lookup_append, List.lookup_cons]
    have hdeeper := Json.depth_lt_of_field? hmap
    rw [Json.depth] at hdeeper
    have hbody := PlanNode.mapM_listToJson body depth (by omega)
    have hkind : (PlanNode.forEach header body).toJson.field? "kind" =
        some (.string "forEach") := by
      simp [toJson, Json.field?]
    rw [within?, tagged?_of_field? hkind rfl]
    exact ofRecord?_forEach _ header body hbody
  | .branch condition whenTrue whenFalse, form, depth + 1, hdepth => by
    have hkind : (PlanNode.branch condition whenTrue whenFalse).toJson.field? "kind" =
        some (.string "if") := by
      simp [toJson, Json.field?]
    have htrue : (PlanNode.branch condition whenTrue whenFalse).toJson.field? "then" =
        some (.array (listToJson whenTrue)) := by
      simp [toJson, Json.field?, List.lookup_cons]
    have hdeeper := Json.depth_lt_of_field? htrue
    rw [Json.depth] at hdeeper
    have hwhenTrue := PlanNode.mapM_listToJson whenTrue depth (by omega)
    -- Without steps for the other case there is no field for them, and nothing to be deep.
    have hwhenFalse := PlanNode.mapM_listToJson whenFalse depth (by
      cases whenFalse with
      | nil => simp [listToJson, Json.depthOfItems]
      | cons node rest =>
        have hfalse : (PlanNode.branch condition whenTrue (node :: rest)).toJson.field? "else" =
            some (.array (listToJson (node :: rest))) := by
          simp [toJson, Json.field?, List.lookup_cons]
        have hdeeper := Json.depth_lt_of_field? hfalse
        rw [Json.depth] at hdeeper
        omega)
    rw [within?, tagged?_of_field? hkind rfl]
    exact ofRecord?_branch _ condition whenTrue whenFalse hwhenTrue hwhenFalse

theorem PlanNode.mapM_listToJson :
    ∀ (nodes : List PlanNode) (depth : Nat),
      Json.depthOfItems (PlanNode.listToJson nodes) ≤ depth →
        (PlanNode.listToJson nodes).mapM (PlanNode.within? depth .buffered) = some nodes
  | [], _, _ => rfl
  | node :: rest, depth, hdepth => by
    rw [listToJson, Json.depthOfItems] at hdepth
    have hhead := PlanNode.within?_toJson node .buffered depth (by omega)
    have htail := PlanNode.mapM_listToJson rest depth (by omega)
    simp [listToJson, hhead, htail]

end

theorem PlanNode.ofJson?_toJson (form : Form) (node : PlanNode) :
    PlanNode.ofJson? form node.toJson = some node :=
  node.within?_toJson form _ (Nat.le_refl _)

/-- Steps of a plan are written one by one. -/
theorem PlanNode.listToJson_eq_map (nodes : List PlanNode) :
    PlanNode.listToJson nodes = nodes.map PlanNode.toJson := by
  induction nodes with
  | nil => rfl
  | cons node rest ih => rw [listToJson, List.map_cons, ih]

/-- A message of the layout is read back from a record that names its kind besides. -/
theorem LayoutMessage.ofJson?_toFields (message : LayoutMessage) (kind : Json) :
    LayoutMessage.ofJson? (.object (("kind", kind) :: message.toFields)) = some message := by
  obtain ⟨role, content, source, openEnded, anchor⟩ := message
  rw [toFields, ofJson?]
  generalize hfields : ("kind", kind) :: ([("role", role.toJson)] ++
    whenSome "content" Json.string content ++ whenSome "from" Reference.toJson source ++
    whenTrue "prefix" openEnded ++ whenSome "anchor" Json.string anchor) = fields
  have hrole : required? "role" (Role.ofJson? .buffered) fields = some role :=
    required?_of_lookup (role.ofJson?_toJson .buffered) (by simp [← hfields, List.lookup_cons])
  have hcontent : optional? "content" text? fields = some content :=
    optional?_text (by simp [← hfields, List.lookup_append, List.lookup_cons])
  have hsource : optional? "from" Reference.ofJson? fields = some source :=
    optional?_of_lookup Reference.toJson rfl (fun reference _ => reference.ofJson?_toJson)
      (by simp [← hfields, List.lookup_append, List.lookup_cons])
  have hopen : defaulting? "prefix" flag? false fields = some openEnded :=
    defaulting?_flag (by simp [← hfields, List.lookup_append, List.lookup_cons])
  have hanchor : optional? "anchor" text? fields = some anchor :=
    optional?_text (by simp [← hfields, List.lookup_append, List.lookup_cons])
  simp [fields?, hrole, hcontent, hsource, hopen, hanchor]

/-- A place for generated messages is read back from a record that names its kind besides. -/
theorem Placeholder.ofJson?_toFields (placeholder : Placeholder) (kind : Json) :
    Placeholder.ofJson? (.object (("kind", kind) :: placeholder.toFields)) =
      some placeholder := by
  obtain ⟨name, header, footer, omitIfEmpty⟩ := placeholder
  rw [toFields, ofJson?]
  generalize hfields : ("kind", kind) :: ([("name", Json.string name)] ++
    whenSome "header" Frame.toJson header ++ whenSome "footer" Frame.toJson footer ++
    whenSome "omitIfEmpty" Json.bool omitIfEmpty) = fields
  have hname : required? "name" text? fields = some name :=
    required?_of_lookup (text?_string name) (by simp [← hfields, List.lookup_cons])
  have hheader : optional? "header" (Frame.ofJson? .buffered) fields = some header :=
    optional?_of_lookup Frame.toJson rfl (fun frame _ => frame.ofJson?_toJson .buffered)
      (by simp [← hfields, List.lookup_append, List.lookup_cons])
  have hfooter : optional? "footer" (Frame.ofJson? .buffered) fields = some footer :=
    optional?_of_lookup Frame.toJson rfl (fun frame _ => frame.ofJson?_toJson .buffered)
      (by simp [← hfields, List.lookup_append, List.lookup_cons])
  have homit : optional? "omitIfEmpty" flag? fields = some omitIfEmpty :=
    optional?_of_lookup Json.bool rfl (fun _ _ => rfl)
      (by simp [← hfields, List.lookup_append, List.lookup_cons])
  simp [fields?, hname, hheader, hfooter, homit]

theorem LayoutNode.ofJson?_toJson (form : Form) (node : LayoutNode) :
    LayoutNode.ofJson? form node.toJson = some node := by
  cases node with
  | message details =>
    have hdetails := details.ofJson?_toFields (.string "message")
    rw [ofJson?, toJson, tagged?_of_field? rfl rfl]
    simp [hdetails]
  | slot placeholder =>
    have hplace := placeholder.ofJson?_toFields (.string "slot")
    rw [ofJson?, toJson, tagged?_of_field? rfl rfl]
    simp [hplace]

theorem Slot.ofJson?_toJson (slot : Slot) : Slot.ofJson? slot.toJson = some slot := by
  obtain ⟨priority, condition, budget, plan, metadata⟩ := slot
  rw [toJson, ofJson?, PlanNode.listToJson_eq_map]
  generalize hfields : [("priority", Json.ofInt priority.toInt)] ++
    whenSome "when" Condition.toJson condition ++ whenSome "budget" tokensToJson budget ++
    [("plan", Json.array (plan.map PlanNode.toJson))] ++ whenNotNull "meta" metadata = fields
  have hpriority : defaulting? "priority" int32? 0 fields = some priority :=
    defaulting?_of_lookup (int32?_ofInt priority) (by simp [← hfields])
  have hcondition : optional? "when" (Condition.ofJson? .direct) fields = some condition :=
    optional?_of_lookup Condition.toJson rfl (fun part _ => part.ofJson?_toJson .direct)
      (by simp [← hfields, List.lookup_append, List.lookup_cons])
  have hbudget : optional? "budget" word64? fields = some budget :=
    optional?_of_lookup tokensToJson rfl (fun tokens _ => word64?_ofNat tokens)
      (by simp [← hfields, List.lookup_append, List.lookup_cons])
  have hplan : required? "plan" (list? (PlanNode.ofJson? .direct)) fields = some plan :=
    required?_of_lookup (list?_map fun node _ => node.ofJson?_toJson .direct)
      (by simp [← hfields, List.lookup_append, List.lookup_cons])
  have hmetadata : defaulting? "meta" some .null fields = some metadata :=
    defaulting?_value (by simp [← hfields, List.lookup_append, List.lookup_cons])
  simp [fields?, hpriority, hcondition, hbudget, hplan, hmetadata]

theorem LaneGroup.ofJson?_toJson (group : LaneGroup) :
    LaneGroup.ofJson? group.toJson = some group := by
  obtain ⟨id, opening, closing⟩ := group
  rw [toJson, ofJson?]
  generalize hfields : [("id", Json.string id)] ++ whenSome "open" Json.string opening ++
    whenSome "close" Json.string closing = fields
  have hid : required? "id" text? fields = some id :=
    required?_of_lookup (text?_string id) (by simp [← hfields])
  have hopening : optional? "open" text? fields = some opening :=
    optional?_text (by simp [← hfields, List.lookup_append, List.lookup_cons])
  have hclosing : optional? "close" text? fields = some closing :=
    optional?_text (by simp [← hfields, List.lookup_append, List.lookup_cons])
  simp [fields?, hid, hopening, hclosing]

theorem Lane.ofJson?_toJson (lane : Lane) : Lane.ofJson? lane.toJson = some lane := by
  obtain ⟨id, enabled, role, template, order, groups, reserve⟩ := lane
  rw [toJson, ofJson?]
  generalize hfields : [("id", Json.string id), ("enabled", Json.bool enabled),
    ("role", role.toJson), ("template", Json.string template),
    ("order", Json.ofInt order.toInt)] ++ whenNotEmpty "groups" LaneGroup.toJson groups ++
    whenSome "reserveTokens" tokensToJson reserve = fields
  have hid : required? "id" text? fields = some id :=
    required?_of_lookup (text?_string id) (by simp [← hfields])
  have henabled : defaulting? "enabled" flag? true fields = some enabled :=
    defaulting?_of_lookup (flag?_bool enabled) (by simp [← hfields, List.lookup_cons])
  have hrole : required? "role" (Role.ofJson? .direct) fields = some role :=
    required?_of_lookup (role.ofJson?_toJson .direct) (by simp [← hfields, List.lookup_cons])
  have htemplate : required? "template" text? fields = some template :=
    required?_of_lookup (text?_string template) (by simp [← hfields, List.lookup_cons])
  have horder : defaulting? "order" int32? 0 fields = some order :=
    defaulting?_of_lookup (int32?_ofInt order) (by simp [← hfields, List.lookup_cons])
  have hgroups : defaulting? "groups" (list? LaneGroup.ofJson?) [] fields = some groups :=
    defaulting?_list (fun group _ => group.ofJson?_toJson)
      (by simp [← hfields, List.lookup_append, List.lookup_cons])
  have hreserve : optional? "reserveTokens" word64? fields = some reserve :=
    optional?_of_lookup tokensToJson rfl (fun tokens _ => word64?_ofNat tokens)
      (by simp [← hfields, List.lookup_append, List.lookup_cons])
  simp [fields?, hid, henabled, hrole, htemplate, horder, hgroups, hreserve]

/-- Slots are read back under their names. -/
theorem slotsOfJson?_map (slots : List (String × Slot)) :
    slotsOfJson? (.object (slots.map fun entry => (entry.1, entry.2.toJson))) = some slots := by
  have hread : ∀ entry ∈ slots,
      (Slot.ofJson? entry.2.toJson).map (fun slot => (entry.1, slot)) = some entry := by
    intro entry _
    rw [Slot.ofJson?_toJson, Option.map_some]
  exact mapM_map (fun entry : String × Slot => (entry.1, entry.2.toJson)) _ slots hread

end Template

/-- A template is read back. -/
theorem Template.ofJson?_toJson (template : Template) :
    Template.ofJson? template.toJson = some template := by
  obtain ⟨id, task, name, version, layout, slots, attachments⟩ := template
  rw [toJson, ofJson?]
  generalize hfields : [("id", Json.string id), ("task", Json.string task),
    ("name", Json.string name), ("version", Json.ofNat version.toNat),
    ("layout", Json.array (layout.map LayoutNode.toJson)),
    ("slots", Json.object (slots.map fun entry => (entry.1, entry.2.toJson)))] ++
    whenNotEmpty "attachments" Lane.toJson attachments = fields
  have hid : required? "id" text? fields = some id :=
    required?_of_lookup (text?_string id) (by simp [← hfields])
  have htask : defaulting? "task" text? "" fields = some task :=
    defaulting?_of_lookup (text?_string task) (by simp [← hfields, List.lookup_cons])
  have hname : required? "name" text? fields = some name :=
    required?_of_lookup (text?_string name) (by simp [← hfields, List.lookup_cons])
  have hversion : required? "version" word32? fields = some version :=
    required?_of_lookup (word32?_ofNat version) (by simp [← hfields, List.lookup_cons])
  have hlayout : required? "layout" (list? (LayoutNode.ofJson? .direct)) fields = some layout :=
    required?_of_lookup (list?_map fun node _ => node.ofJson?_toJson .direct)
      (by simp [← hfields, List.lookup_cons])
  have hslots : defaulting? "slots" slotsOfJson? [] fields = some slots :=
    defaulting?_of_lookup (slotsOfJson?_map slots) (by simp [← hfields, List.lookup_cons])
  have hattachments : defaulting? "attachments" (list? Lane.ofJson?) [] fields =
      some attachments :=
    defaulting?_list (fun lane _ => lane.ofJson?_toJson)
      (by simp [← hfields, List.lookup_cons])
  simp only [Option.bind_eq_bind, Option.bind_eq_some_iff]
  exact ⟨fields, rfl, id, hid, task, htask, name, hname, version, hversion, layout, hlayout, slots,
    hslots, attachments, hattachments, rfl⟩

end ChatPrompt
