import ChatPrompt.Blueprint.Issue
import ChatPrompt.Leaf.Parser
import ChatPrompt.Path
import ChatPrompt.Proofs.WellFormed

/-!
# What is to be read in a template

Every text of a template that is read as a leaf, a path or an expression, with its place, listed
without a compiler. Each of them can be read or has a fault by itself, whatever stands around it.

Not each of them is examined. A message that has both a text and a value is refused as a whole, and
what stands around the place of a slot that does not exist is passed over with the place. A loop
with a path to sort by that cannot be read is given up in the middle: the reference to its items is
examined, its steps and the message between the items are not.
-/

namespace ChatPrompt.Template

/-- What a text is read as. -/
inductive Reading.Kind where
  /-- As a leaf. -/
  | text
  /-- As a path. -/
  | path
  /-- As an expression. -/
  | expression
  deriving DecidableEq, Repr

/-- A text of a template that is to be read. -/
structure Reading where
  /-- Its place. -/
  location : Location
  /-- What it is read as. -/
  kind : Reading.Kind
  /-- The text. -/
  source : String
  /-- Whether it is examined. -/
  isExamined : Bool
  deriving DecidableEq, Repr

namespace Reading

/-- What keeps the text from being read, if anything does. -/
def fault? (reading : Reading) : Option Leaf.Fault :=
  match reading.kind with
  | .text =>
    match Leaf.ofText reading.source with
    | .ok _ => none
    | .error fault => some fault
  | .path =>
    match Path.ofText reading.source with
    | .ok _ => none
    | .error e => some (Leaf.Fault.ofSyntaxError reading.source e)
  | .expression =>
    match Expr.ofText reading.source with
    | .ok _ => none
    | .error e => some (Leaf.Fault.ofSyntaxError reading.source e)

/-- The issue at the place of a text that has a fault, if it is examined. -/
def issue? (reading : Reading) : Option Blueprint.Issue :=
  if reading.isExamined then reading.fault?.map (.leaf reading.location) else none

/-- An issue of a text is at its place, and the text is examined. -/
theorem issue?_eq_some {reading : Reading} {issue : Blueprint.Issue}
    (h : reading.issue? = some issue) :
    reading.isExamined = true ∧
      ∃ fault, reading.fault? = some fault ∧ .leaf reading.location fault = issue := by
  rw [issue?] at h
  split at h
  · next hexamined =>
    obtain ⟨fault, hfault, hissue⟩ := Option.map_eq_some_iff.1 h
    exact ⟨hexamined, fault, hfault, hissue⟩
  · cases h

/-- Texts that are only examined under a condition. -/
def onlyIf (condition : Bool) (readings : List Reading) : List Reading :=
  readings.map fun reading => { reading with isExamined := reading.isExamined && condition }

/-- The issues of some texts. -/
def issues (readings : List Reading) : List Blueprint.Issue := readings.filterMap issue?

/-- The issues of two lists of texts. -/
theorem issues_append (first others : List Reading) :
    issues (first ++ others) = issues first ++ issues others := List.filterMap_append

/-- A condition that holds changes nothing. -/
theorem onlyIf_true (readings : List Reading) : onlyIf true readings = readings := by
  simp [onlyIf]

/-- There are no issues where nothing is examined. -/
theorem issues_onlyIf_false (readings : List Reading) : issues (onlyIf false readings) = [] := by
  simp [issues, onlyIf, issue?]

end Reading

/-- A text that is read as a leaf. -/
def leafReading (here : Location) (source : String) : Reading := ⟨here, .text, source, true⟩

/-- A text that is read as a path. -/
def pathReading (here : Location) (source : String) : Reading := ⟨here, .path, source, true⟩

mutual

/-- The texts of arguments that hold tags. -/
def argumentReadings (here : Location) : Json → List Reading
  | .string source => if Leaf.isTemplated source then [leafReading here source] else []
  | .array items => itemReadings here 0 items
  | .object fields => memberReadings here fields
  | _ => []

/-- The texts of the elements of a sequence of arguments, from a position on. -/
def itemReadings (here : Location) (position : Nat) : List Json → List Reading
  | [] => []
  | item :: rest =>
    argumentReadings (here.element position) item ++ itemReadings here (position + 1) rest

/-- The texts of named arguments. -/
def memberReadings (here : Location) : List (String × Json) → List Reading
  | [] => []
  | (key, value) :: rest => argumentReadings (here.field key) value ++ memberReadings here rest

end

/-- The texts of a reference. -/
def Reference.readings (here : Location) (reference : Reference) : List Reading :=
  argumentReadings (here.field "args") reference.args ++
    reference.path.toList.map (pathReading (here.field "path"))

mutual

/-- The texts of a condition. -/
def Condition.readings (here : Location) : Condition → List Reading
  | .present target => target.readings (here.field "ref")
  | .nonEmpty target => target.readings (here.field "ref")
  | .compare target _ _ => target.readings (here.field "ref")
  | .expression source => [⟨here.field "expr", .expression, source, true⟩]
  | .all conditions => conditionReadings (here.field "conditions") 0 conditions
  | .any conditions => conditionReadings (here.field "conditions") 0 conditions
  | .negation inner => inner.readings (here.field "condition")

/-- The texts of conditions, from a position on. -/
def conditionReadings (here : Location) (position : Nat) : List Condition → List Reading
  | [] => []
  | first :: rest =>
    first.readings (here.element position) ++ conditionReadings here (position + 1) rest

end

/-- The text of an optional frame. -/
def frameReadings (here : Location) (frame : Option Frame) : List Reading :=
  frame.toList.map fun frame => leafReading here frame.content

/-- The texts of what a message says, which is not looked at where there are two of them. -/
def contentReadings (here : Location) (content : Option String) (source : Option Reference) :
    List Reading :=
  Reading.onlyIf (content.isNone || source.isNone)
    (content.toList.map (leafReading (here.field "content")) ++
      source.toList.flatMap (Reference.readings (here.field "from")))

/-- The texts of a message: of what it says, and its key. -/
def messageReadings (here : Location) (content : Option String) (source : Option Reference)
    (anchor : Option String) : List Reading :=
  contentReadings here content source ++
    anchor.toList.map (leafReading (here.field "anchor"))

/-- Whether the path to sort by can be read, if there is one. -/
def Loop.isSortable (header : Loop) : Bool :=
  header.sortBy.all fun source => (Path.ofText source).isOk

mutual

/-- The texts of a step of a plan. Those of a loop behind the path to sort by are not examined
where that cannot be read. -/
def PlanNode.readings (here : Location) : PlanNode → List Reading
  | .message details => messageReadings here details.content details.source details.anchor
  | .forEach header body =>
    header.source.readings (here.field "source") ++
      (header.sortBy.toList.map (pathReading (here.field "sortBy")) ++
        Reading.onlyIf header.isSortable
          (planReadings (here.field "map") 0 body ++
            frameReadings (here.field "interleave") header.separator))
  | .branch test whenTrue whenFalse =>
    test.readings (here.field "condition") ++
      (planReadings (here.field "then") 0 whenTrue ++ planReadings (here.field "else") 0 whenFalse)

/-- The texts of the steps of a plan, from a position on. -/
def planReadings (here : Location) (position : Nat) : List PlanNode → List Reading
  | [] => []
  | node :: rest => node.readings (here.element position) ++ planReadings here (position + 1) rest

end

/-- The texts of a slot. -/
def Slot.readings (here : Location) (slot : Slot) : List Reading :=
  slot.condition.toList.flatMap (Condition.readings (here.field "when")) ++
    planReadings (here.field "plan") 0 slot.plan

/-- The texts of the slot that is kept under a name. -/
def slotReadings (slots : List (String × Slot)) (name : String) : List Reading :=
  (slots.lookup name).toList.flatMap (Slot.readings [.key "slots", .key name])

/-- The texts of the layout, from a position on. Those around a place are not looked at where
there is no slot for it. -/
def layoutReadings (slots : List (String × Slot)) (position : Nat) :
    List LayoutNode → List Reading
  | [] => []
  | .message details :: rest =>
    messageReadings [.key "layout", .index position] details.content details.source
        details.anchor ++
      layoutReadings slots (position + 1) rest
  | .slot place :: rest =>
    Reading.onlyIf (slots.lookup place.name).isSome
        (frameReadings [.key "layout", .index position, .key "header"] place.header ++
          frameReadings [.key "layout", .index position, .key "footer"] place.footer) ++
      layoutReadings slots (position + 1) rest

/-- The texts of the groups of a lane, from a position on. -/
def groupReadings (here : Location) (position : Nat) : List LaneGroup → List Reading
  | [] => []
  | group :: rest =>
    (group.opening.toList.map (leafReading ((here.element position).field "open")) ++
        group.closing.toList.map (leafReading ((here.element position).field "close"))) ++
      groupReadings here (position + 1) rest

/-- The texts of a lane. -/
def Lane.readings (here : Location) (lane : Lane) : List Reading :=
  leafReading (here.field "template") lane.template ::
    groupReadings (here.field "groups") 0 lane.groups

/-- The texts of the lanes, from a position on. -/
def laneReadings (position : Nat) : List Lane → List Reading
  | [] => []
  | lane :: rest =>
    lane.readings [.key "attachments", .index position] ++ laneReadings (position + 1) rest

end ChatPrompt.Template

namespace ChatPrompt

/-- The texts of a template that are to be read: those of the layout, of the slots that it has
places for, and of the lanes. -/
def Template.readings (template : Template) : List Template.Reading :=
  layoutReadings template.slots 0 template.layout ++
    (template.placeNames.flatMap (slotReadings template.slots) ++
      laneReadings 0 template.attachments)

namespace Template

/-- What is to be read, apart from its place. -/
def Reading.said (reading : Reading) : Reading.Kind × String := (reading.kind, reading.source)

/-- What is to be read of a part, if it is a text. -/
def Part.said? : Part → Option (Reading.Kind × String)
  | .text source => some (.text, source)
  | .path source => some (.path, source)
  | .expression source => some (.expression, source)
  | .anchor _ key => some (.text, key)
  | _ => none

/-- Some texts are those of some parts, in the same order. -/
def AreOf (readings : List Reading) (parts : List Part) : Prop :=
  readings.map Reading.said = parts.filterMap Part.said?

/-- The texts of two lists of parts. -/
theorem AreOf.append {readings more : List Reading} {parts others : List Part}
    (h : AreOf readings parts) (hmore : AreOf more others) :
    AreOf (readings ++ more) (parts ++ others) := by
  rw [AreOf, List.map_append, List.filterMap_append, h, hmore]

/-- Whether texts are examined does not matter. -/
theorem AreOf.onlyIf {readings : List Reading} {parts : List Part} (h : AreOf readings parts)
    (condition : Bool) : AreOf (Reading.onlyIf condition readings) parts := by
  rw [AreOf, ← h, Reading.onlyIf, List.map_map]
  rfl

/-- The leaf of an optional text. -/
theorem areOf_leafReading (here : Location) (source : Option String) :
    AreOf (source.toList.map (leafReading here)) (source.toList.map .text) := by
  cases source with
  | none => rfl
  | some source => rfl

/-- The path of an optional text. -/
theorem areOf_pathReading (here : Location) (source : Option String) :
    AreOf (source.toList.map (pathReading here)) (source.toList.map .path) := by
  cases source with
  | none => rfl
  | some source => rfl

mutual

theorem areOf_argumentReadings (here : Location) (value : Json) :
    AreOf (argumentReadings here value) (argumentParts value) := by
  cases value with
  | null | bool _ | number _ =>
    rw [argumentReadings, argumentParts]
    · rfl
    all_goals simp
  | string source =>
    rw [argumentReadings, argumentParts]
    split
    · rfl
    · rfl
  | array items =>
    rw [argumentReadings, argumentParts]
    exact areOf_itemReadings here 0 items
  | object fields =>
    rw [argumentReadings, argumentParts]
    exact areOf_memberReadings here fields

theorem areOf_itemReadings (here : Location) (position : Nat) (items : List Json) :
    AreOf (itemReadings here position items) (itemParts items) := by
  cases items with
  | nil =>
    rw [itemReadings, itemParts]
    rfl
  | cons item rest =>
    rw [itemReadings, itemParts]
    exact (areOf_argumentReadings _ item).append (areOf_itemReadings here _ rest)

theorem areOf_memberReadings (here : Location) (fields : Json.Fields) :
    AreOf (memberReadings here fields) (fieldParts fields) := by
  cases fields with
  | nil =>
    rw [memberReadings, fieldParts]
    rfl
  | cons field rest =>
    obtain ⟨key, value⟩ := field
    rw [memberReadings, fieldParts]
    exact (areOf_argumentReadings _ value).append (areOf_memberReadings here rest)

end

theorem Reference.areOf_readings (here : Location) (reference : Reference) :
    AreOf (reference.readings here) reference.parts :=
  (areOf_argumentReadings _ reference.args).append (areOf_pathReading _ reference.path)

mutual

theorem Condition.areOf_readings (here : Location) (test : Condition) :
    AreOf (test.readings here) test.parts := by
  cases test with
  | present target | nonEmpty target | compare target _ _ =>
    rw [Condition.readings, Condition.parts]
    exact target.areOf_readings _
  | expression source =>
    rw [Condition.readings, Condition.parts]
    rfl
  | all conditions | any conditions =>
    rw [Condition.readings, Condition.parts]
    exact areOf_conditionReadings _ 0 conditions
  | negation inner =>
    rw [Condition.readings, Condition.parts]
    exact inner.areOf_readings _

theorem areOf_conditionReadings (here : Location) (position : Nat) (conditions : List Condition) :
    AreOf (conditionReadings here position conditions) (conditionParts conditions) := by
  cases conditions with
  | nil =>
    rw [conditionReadings, conditionParts]
    rfl
  | cons first rest =>
    rw [conditionReadings, conditionParts]
    exact (first.areOf_readings _).append (areOf_conditionReadings here _ rest)

end

theorem areOf_frameReadings (here : Location) (frame : Option Frame) :
    AreOf (frameReadings here frame) (frameParts frame) := by
  cases frame with
  | none => rfl
  | some frame => rfl

theorem areOf_messageReadings (here : Location) (inLoop : Bool) (content : Option String)
    (source : Option Reference) (anchor : Option String) :
    AreOf (messageReadings here content source anchor)
      (contentParts content source ++ anchor.toList.map (.anchor inLoop)) := by
  have hsource : AreOf (source.toList.flatMap (Reference.readings (here.field "from")))
      (source.toList.flatMap Reference.parts) := by
    cases source with
    | none => rfl
    | some source => simpa using source.areOf_readings (here.field "from")
  have hcontent : AreOf (contentReadings here content source) (contentParts content source) :=
    ((areOf_leafReading _ content).append hsource).onlyIf _
  refine hcontent.append ?_
  cases anchor with
  | none => rfl
  | some key => rfl

mutual

/-- The texts of a step of a plan are those of its parts. -/
theorem PlanNode.areOf_readings (here : Location) (inLoop : Bool) (node : PlanNode) :
    AreOf (node.readings here) (node.parts inLoop) := by
  cases node with
  | message details =>
    rw [PlanNode.readings, PlanNode.parts]
    exact areOf_messageReadings here inLoop details.content details.source details.anchor
  | forEach header body =>
    rw [PlanNode.readings, PlanNode.parts]
    exact (header.source.areOf_readings _).append ((areOf_pathReading _ header.sortBy).append
      (((areOf_planReadings _ true 0 body).append (areOf_frameReadings _ _)).onlyIf _))
  | branch test whenTrue whenFalse =>
    rw [PlanNode.readings, PlanNode.parts]
    exact (test.areOf_readings _).append
      ((areOf_planReadings _ inLoop 0 whenTrue).append (areOf_planReadings _ inLoop 0 whenFalse))

theorem areOf_planReadings (here : Location) (inLoop : Bool) (position : Nat)
    (nodes : List PlanNode) :
    AreOf (planReadings here position nodes) (planParts inLoop nodes) := by
  cases nodes with
  | nil =>
    rw [planReadings, planParts]
    rfl
  | cons node rest =>
    rw [planReadings, planParts]
    exact (node.areOf_readings _ inLoop).append (areOf_planReadings here inLoop _ rest)

end

/-- The texts of the slot that is kept under a name are those of its parts. -/
theorem areOf_slotReadings (slots : List (String × Slot)) (name : String) :
    AreOf (slotReadings slots name) (slotParts slots name) := by
  rw [slotReadings, slotParts]
  cases slots.lookup name with
  | none => rfl
  | some slot =>
    have hcondition : AreOf
        (slot.condition.toList.flatMap (Condition.readings
          (Location.field [.key "slots", .key name] "when")))
        (slot.condition.toList.flatMap Condition.parts) := by
      cases slot.condition with
      | none => rfl
      | some test => simpa using test.areOf_readings _
    rw [Option.toList_some, List.flatMap_singleton, List.flatMap_singleton]
    exact hcondition.append (areOf_planReadings _ false 0 slot.plan)

theorem areOf_layoutReadings (slots : List (String × Slot)) (position : Nat)
    (layout : List LayoutNode) :
    AreOf (layoutReadings slots position layout) (layout.flatMap LayoutNode.parts) := by
  induction layout generalizing position with
  | nil => rfl
  | cons node rest ih =>
    rw [List.flatMap_cons]
    cases node with
    | message details =>
      have hmessage : AreOf (messageReadings [.key "layout", .index position] details.content
          details.source details.anchor) details.parts := areOf_messageReadings _ false _ _ _
      exact hmessage.append (ih (position + 1))
    | slot place =>
      exact (((areOf_frameReadings _ place.header).append
        (areOf_frameReadings _ place.footer)).onlyIf _).append (ih (position + 1))

theorem areOf_groupReadings (here : Location) (position : Nat) (groups : List LaneGroup) :
    AreOf (groupReadings here position groups) (groups.flatMap LaneGroup.parts) := by
  induction groups generalizing position with
  | nil => rfl
  | cons group rest ih =>
    exact ((areOf_leafReading _ group.opening).append
      (areOf_leafReading _ group.closing)).append (ih (position + 1))

theorem areOf_laneReadings (position : Nat) (lanes : List Lane) :
    AreOf (laneReadings position lanes) (lanes.flatMap Lane.parts) := by
  induction lanes generalizing position with
  | nil => rfl
  | cons lane rest ih =>
    have htemplate : AreOf [leafReading ((Location.element [.key "attachments"] position).field
        "template") lane.template] [.text lane.template] := rfl
    exact (htemplate.append (areOf_groupReadings _ 0 lane.groups)).append (ih (position + 1))

/-- No text is missing: what is listed with its place is what is to be read of the parts of the
template. -/
theorem areOf_readings (template : Template) : AreOf template.readings template.parts := by
  have hslots : AreOf (template.placeNames.flatMap (slotReadings template.slots))
      (template.placeNames.flatMap (slotParts template.slots)) := by
    induction template.placeNames with
    | nil => rfl
    | cons name rest ih => exact (areOf_slotReadings template.slots name).append ih
  exact (areOf_layoutReadings template.slots 0 template.layout).append
    (hslots.append (areOf_laneReadings 0 template.attachments))

end Template

end ChatPrompt
