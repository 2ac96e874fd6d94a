import ChatPrompt.Anchor
import ChatPrompt.Injection.Request
import ChatPrompt.Proofs.Recovery

/-!
# Whatever is written is read back

The parts of a template are read back as they were written; here the same is said of what goes into
a render besides and of what comes out of it: messages, anchors, targets, requests and options.
Three forms need care. An anchor shares its record with its origin, so the fields of both are found
in one list. A list of targets stands where a single target may stand too, and no list is taken for
one. And the kind of a record is looked up by its word, wherever the record stands.
-/

namespace ChatPrompt

open Record

/-- Whatever is written as a value is read back from it. -/
def Record.Recovers {α : Type} (write : α → Json) (read : Json → Option α) : Prop :=
  ∀ value, read (write value) = some value

theorem Message.ofJson?_toJson (form : Form) (message : Message) :
    Message.ofJson? form message.toJson = some message := by
  obtain ⟨role, content, openEnded⟩ := message
  rw [toJson, ofJson?]
  generalize hfields : [("role", role.toJson), ("content", Json.string content)] ++
    whenTrue "prefix" openEnded = fields
  have hrole : required? "role" (Role.ofJson? form) fields = some role :=
    required?_of_lookup (role.ofJson?_toJson form) (by simp [← hfields])
  have hcontent : required? "content" text? fields = some content :=
    required?_of_lookup (text?_string content) (by simp [← hfields, List.lookup_cons])
  have hopen : defaulting? "prefix" flag? false fields = some openEnded :=
    defaulting?_flag (by simp [← hfields, List.lookup_cons])
  simp [fields?, hrole, hcontent, hopen]

/-- Where a message comes from is read back, whatever fields stand before, unless they have the same
names. -/
theorem Origin.ofFields?_toFields (origin : Origin) {before : Json.Fields}
    (hsource : before.lookup "source" = none) (hslot : before.lookup "slotName" = none) :
    Origin.ofFields? (before ++ origin.toFields) = some origin := by
  cases origin with
  | layout =>
    have hword : kind? .buffered Origin.kinds (.string "layout") = some .layout := rfl
    have hkind : required? "source" (kind? .buffered Origin.kinds)
        (before ++ Origin.layout.toFields) = some .layout :=
      required?_of_lookup hword (by simp [toFields, List.lookup_append, hsource])
    simp [ofFields?, hkind]
  | slot name =>
    have hword : kind? .buffered Origin.kinds (.string "slot") = some .slot := rfl
    have hkind : required? "source" (kind? .buffered Origin.kinds)
        (before ++ (Origin.slot name).toFields) = some .slot :=
      required?_of_lookup hword (by simp [toFields, List.lookup_append, hsource])
    have hname : required? "slotName" text? (before ++ (Origin.slot name).toFields) = some name :=
      required?_of_lookup (text?_string name)
        (by simp [toFields, List.lookup_append, List.lookup_cons, hslot])
    simp [ofFields?, hkind, hname]

theorem Anchor.ofJson?_toJson (anchor : Anchor) : Anchor.ofJson? anchor.toJson = some anchor := by
  obtain ⟨key, index, origin⟩ := anchor
  have horigin : Origin.ofFields?
      ([("key", .string key), ("index", .ofNat index)] ++ origin.toFields) = some origin :=
    origin.ofFields?_toFields rfl rfl
  have hkey : required? "key" text?
      ([("key", .string key), ("index", .ofNat index)] ++ origin.toFields) = some key :=
    required?_of_lookup (text?_string key) rfl
  have hindex : required? "index" natural?
      ([("key", .string key), ("index", .ofNat index)] ++ origin.toFields) = some index :=
    required?_of_lookup (natural?_ofNat index) rfl
  simp only [toJson, ofJson?]
  rw [hkey, hindex, horigin]
  rfl

namespace Injection

theorem Edge.choice?_toJson (edge : Edge) :
    choice? .buffered Edge.choices edge.toJson = some edge := by
  cases edge <;> rfl

theorem Target.ofJson?_toJson (form : Form) (target : Target) :
    Target.ofJson? form target.toJson = some target := by
  cases target with
  | anchored key after =>
    rw [toJson, ofJson?, tagged?_of_field? rfl rfl]
    simp [fields?, required?, defaulting?, List.lookup_cons, text?, flag?]
  | boundary edge distance =>
    have hedge := edge.choice?_toJson
    have hdistance := natural?_ofNat distance
    rw [toJson, ofJson?, tagged?_of_field? rfl rfl]
    simp [fields?, required?, defaulting?, List.lookup_cons, hedge, hdistance]

/-- A list of targets is not taken for a single one, since no target is the word of a kind. -/
theorem Target.ofJson?_array (form : Form) (targets : List Target) :
    Target.ofJson? form (.array (targets.map toJson)) = none := by
  cases targets with
  | nil => rfl
  | cons first rest => cases first <;> rfl

/-- A list of targets is read back, be it empty, of one or of more. -/
theorem Target.listOfJson?_toJson (targets : List Target) :
    Target.listOfJson? (.array (targets.map toJson)) = some targets := by
  rw [listOfJson?, ofJson?_array]
  exact list?_map fun target _ => target.ofJson?_toJson .buffered

/-- A request is read back. -/
theorem Request.ofJson?_toJson (request : Request) :
    Request.ofJson? request.toJson = some request := by
  obtain ⟨lane, targets, payload, priority, group⟩ := request
  rw [toJson, ofJson?]
  generalize hfields : [("lane", Json.string lane),
    ("target", Json.array (targets.map Target.toJson)), ("payload", payload),
    ("priority", Json.ofInt priority.toInt)] ++ whenSome "groupId" Json.string group = fields
  have hlane : required? "lane" text? fields = some lane :=
    required?_of_lookup (text?_string lane) (by simp [← hfields])
  have htargets : required? "target" Target.listOfJson? fields = some targets :=
    required?_of_lookup (Target.listOfJson?_toJson targets)
      (by simp [← hfields, List.lookup_cons])
  have hpayload : required? "payload" some fields = some payload :=
    required?_of_lookup rfl (by simp [← hfields, List.lookup_cons])
  have hpriority : defaulting? "priority" int32? 0 fields = some priority :=
    defaulting?_of_lookup (int32?_ofInt priority) (by simp [← hfields, List.lookup_cons])
  have hgroup : optional? "groupId" text? fields = some group :=
    optional?_text (by simp [← hfields, List.lookup_cons])
  simp [fields?, hlane, htargets, hpayload, hpriority, hgroup]

end Injection

/-- The options of a render are read back. -/
theorem OptionsDocument.ofJson?_toJson (options : OptionsDocument) :
    OptionsDocument.ofJson? options.toJson = some options := by
  obtain ⟨attachments, injections⟩ := options
  have hlanes : list? Template.Lane.ofJson? (.array (attachments.map Template.Lane.toJson)) =
      some attachments := list?_map fun lane _ => lane.ofJson?_toJson
  have hrequests : list? Injection.Request.ofJson?
      (.array (injections.map Injection.Request.toJson)) = some injections :=
    list?_map fun request _ => request.ofJson?_toJson
  simp [toJson, ofJson?, fields?, defaulting?, List.lookup_cons, hlanes, hrequests]

/-- **Reading undoes writing, for all data.** Whatever is written as a value is read back as it was:
templates, the elements of a layout, the steps of a plan and conditions of any depth, references,
frames, lanes, messages, anchors, targets, requests with any list of targets, and the options of a
render. Where a part may stand on its own or inside a record whose kind was looked at first, it is
read back in both places. -/
theorem recovers_dataModel :
    Recovers Template.toJson Template.ofJson? ∧
    (∀ form, Recovers Template.LayoutNode.toJson (Template.LayoutNode.ofJson? form)) ∧
    (∀ form, Recovers Template.PlanNode.toJson (Template.PlanNode.ofJson? form)) ∧
    Recovers Template.Reference.toJson Template.Reference.ofJson? ∧
    (∀ form, Recovers Template.Condition.toJson (Template.Condition.ofJson? form)) ∧
    (∀ form, Recovers Template.Frame.toJson (Template.Frame.ofJson? form)) ∧
    Recovers Template.Lane.toJson Template.Lane.ofJson? ∧
    (∀ form, Recovers Message.toJson (Message.ofJson? form)) ∧
    Recovers Anchor.toJson Anchor.ofJson? ∧
    (∀ form, Recovers Injection.Target.toJson (Injection.Target.ofJson? form)) ∧
    Recovers Injection.Request.toJson Injection.Request.ofJson? ∧
    Recovers OptionsDocument.toJson OptionsDocument.ofJson? :=
  ⟨Template.ofJson?_toJson, Template.LayoutNode.ofJson?_toJson, Template.PlanNode.ofJson?_toJson,
    Template.Reference.ofJson?_toJson, Template.Condition.ofJson?_toJson,
    Template.Frame.ofJson?_toJson, Template.Lane.ofJson?_toJson, Message.ofJson?_toJson,
    Anchor.ofJson?_toJson, Injection.Target.ofJson?_toJson, Injection.Request.ofJson?_toJson,
    OptionsDocument.ofJson?_toJson⟩

end ChatPrompt
