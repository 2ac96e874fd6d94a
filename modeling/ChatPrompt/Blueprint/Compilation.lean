import ChatPrompt.Blueprint.Basic
import ChatPrompt.Blueprint.Issue
import ChatPrompt.Leaf.Cache

/-!
# From templates to blueprints

Each part of a template becomes the part of a blueprint that means the same. What cannot is
left out and its issues are noted, so that the whole template is gone through in any case;
a blueprint is made only where there is no issue in the end.

A key without variables names one place, so no message of a loop may have one and no two
messages may have the same. Leaves are taken from a cache.
-/

namespace ChatPrompt

namespace Blueprint

/-- What is known in the middle of a compilation. -/
structure Progress where
  /-- The leaves read so far. -/
  leaves : Leaf.Cache
  /-- The issues found so far, in order. -/
  issues : List Issue
  /-- The keys without variables met so far. -/
  anchors : List String

/-- A part of a compilation. -/
abbrev Compilation := StateM Progress

namespace Compilation

/-- Notes an issue. -/
def note (issue : Issue) : Compilation Unit :=
  modify fun progress => { progress with issues := progress.issues ++ [issue] }

/-- A text as a leaf. -/
def leaf (here : Location) (source : String) : Compilation (Option Leaf) := do
  let progress ← get
  let (found, leaves) := progress.leaves.fetch source
  set { progress with leaves := leaves }
  match found with
  | .ok (_, leaf) => return some leaf
  | .error fault => do
    note (.leaf here fault)
    return none

/-- An optional text as a leaf. -/
def leaf? (here : Location) : Option String → Compilation (Option Leaf)
  | none => return none
  | some source => leaf here source

/-- A text as a path. -/
def path (here : Location) (source : String) : Compilation (Option Path) :=
  match Path.ofText source with
  | .ok path => return some path
  | .error e => do
    note (.leaf here (Leaf.Fault.ofSyntaxError source e))
    return none

/-- A text as an expression. -/
def expression (here : Location) (source : String) : Compilation (Option Expr) :=
  match Expr.ofText source with
  | .ok expr => return some expr
  | .error e => do
    note (.leaf here (Leaf.Fault.ofSyntaxError source e))
    return none

mutual

/-- What a source is asked with. Texts that hold tags are rendered each time. -/
def arguments (here : Location) : Json → Compilation Arguments
  | .string source =>
    if Leaf.isTemplated source then do
      let leaf ← leaf here source
      return (leaf.map .text).getD (.literal .null)
    else return .literal (.string source)
  | .array items => do
    let items ← argumentItems here 0 items
    return .array items
  | .object fields => do
    let fields ← argumentFields here fields
    return .object fields
  | value => return .literal value

/-- The elements of a sequence of arguments, from a position on. -/
def argumentItems (here : Location) (position : Nat) : List Json → Compilation (List Arguments)
  | [] => return []
  | item :: rest => do
    let first ← arguments (here.element position) item
    let others ← argumentItems here (position + 1) rest
    return first :: others

/-- Named arguments. -/
def argumentFields (here : Location) : Json.Fields → Compilation (List (String × Arguments))
  | [] => return []
  | (key, value) :: rest => do
    let first ← arguments (here.field key) value
    let others ← argumentFields here rest
    return (key, first) :: others

end

/-- Notes a source that is not among those allowed. -/
def checkSource (allowed : Option (List String)) (here : Location) (name : String) :
    Compilation Unit :=
  match allowed with
  | none => return ()
  | some names =>
    if names.contains name then return () else note (.unknownSource name here)

/-- Where a reference reads from. -/
def target (allowed : Option (List String)) (here : Location) :
    Option String → Option String → Compilation (Option Target)
  | some name, none => do
    checkSource allowed here name
    return some (.source name [])
  | some name, some source => do
    checkSource allowed here name
    let path ← path (here.field "path") source
    return path.map fun path => .source name path.asSteps
  | none, some source => do
    let path ← path (here.field "path") source
    return path.map .scope
  | none, none => do
    note (.invalid here .emptyReference)
    return none

/-- A reference. -/
def reference (allowed : Option (List String)) (here : Location)
    (reference : Template.Reference) : Compilation (Option Reference) := do
  let arguments ← arguments (here.field "args") reference.args
  let target ← target allowed here reference.source reference.path
  return target.map fun target => ⟨target, arguments⟩

mutual

/-- A condition. -/
def condition (allowed : Option (List String)) (here : Location) :
    Template.Condition → Compilation (Option Condition)
  | .present target => do
    let target ← reference allowed (here.field "ref") target
    return target.map .present
  | .nonEmpty target => do
    let target ← reference allowed (here.field "ref") target
    return target.map .nonEmpty
  | .compare target op value => do
    let target ← reference allowed (here.field "ref") target
    return target.map fun target => .compare target op value
  | .expression source => do
    let expr ← expression (here.field "expr") source
    return expr.map .expression
  | .all conditions => do
    let conditions ← conditionList allowed (here.field "conditions") 0 conditions
    return conditions.map .all
  | .any conditions => do
    let conditions ← conditionList allowed (here.field "conditions") 0 conditions
    return conditions.map .any
  | .negation inner => do
    let inner ← condition allowed (here.field "condition") inner
    return inner.map .negation

/-- Conditions from a position on, of which all have to be in order. -/
def conditionList (allowed : Option (List String)) (here : Location) (position : Nat) :
    List Template.Condition → Compilation (Option (List Condition))
  | [] => return some []
  | first :: rest => do
    let first ← condition allowed (here.element position) first
    let others ← conditionList allowed here (position + 1) rest
    return first.bind fun first => others.map (first :: ·)

end

/-- An optional condition. -/
def condition? (allowed : Option (List String)) (here : Location) :
    Option Template.Condition → Compilation (Option Condition)
  | none => return none
  | some inner => condition allowed here inner

/-- An optional frame. -/
def frame? (here : Location) : Option Template.Frame → Compilation (Option Frame)
  | none => return none
  | some frame => do
    let content ← leaf here frame.content
    return content.map fun content => ⟨frame.role, content⟩

/-- What a message says, which is either a text or a value. -/
def content (allowed : Option (List String)) (here : Location) :
    Option String → Option Template.Reference → Compilation (Option Content)
  | some source, none => do
    let leaf ← leaf (here.field "content") source
    return leaf.map .text
  | none, some source => do
    let source ← reference allowed (here.field "from") source
    return source.map .value
  | some _, some _ => do
    note (.twoContents here)
    return none
  | none, none => do
    note (.noContent here)
    return none

/-- The key of a message, which is its own if it has no variables. -/
def anchor (here : Location) (inLoop : Bool) (key : String) : Compilation (Option Leaf) := do
  let found ← leaf here key
  match found with
  | none => return none
  | some leaf => do
    let progress ← get
    if leaf.hasVariables then return some leaf
    else if inLoop then do
      note (.fixedAnchorInLoop key here)
      return none
    else if progress.anchors.contains key then do
      note (.repeatedAnchor key here)
      return none
    else do
      set { progress with anchors := progress.anchors ++ [key] }
      return some leaf

/-- An optional key, which is not there or in order. -/
def anchor? (here : Location) (inLoop : Bool) :
    Option String → Compilation (Option (Option Leaf))
  | none => return some none
  | some key => do
    let leaf ← anchor here inLoop key
    return leaf.map some

/-- A message of the layout. -/
def layoutMessage (allowed : Option (List String)) (here : Location)
    (message : Template.LayoutMessage) : Compilation (Option Message) := do
  if message.openEnded && message.role != .assistant then
    note (.openEndedRole here message.role)
  let content ← content allowed here message.content message.source
  let anchor ← anchor? (here.field "anchor") false message.anchor
  return content.bind fun content => anchor.map fun anchor =>
    ⟨message.role, content, message.openEnded, anchor, none⟩

/-- A message of a plan. -/
def planMessage (allowed : Option (List String)) (here : Location) (inLoop : Bool)
    (message : Template.PlanMessage) : Compilation (Option Message) := do
  let content ← content allowed here message.content message.source
  let anchor ← anchor? (here.field "anchor") inLoop message.anchor
  return content.bind fun content => anchor.map fun anchor =>
    ⟨message.role, content, false, anchor, message.budget⟩

/-- An optional path to sort by, which is not there or in order. -/
def sortBy? (here : Location) : Option String → Compilation (Option (Option Path))
  | none => return some none
  | some source => do
    let path ← path here source
    return path.map some

mutual

/-- A step of a plan. -/
def planNode (allowed : Option (List String)) (here : Location) (inLoop : Bool) :
    Template.PlanNode → Compilation (Option PlanNode)
  | .message details => do
    let message ← planMessage allowed here inLoop details
    return message.map .message
  | .forEach header body => do
    let source ← reference allowed (here.field "source") header.source
    let sortBy ← sortBy? (here.field "sortBy") header.sortBy
    match sortBy with
    | none => return none
    | some sortBy => do
      let body ← planFrom allowed (here.field "map") true 0 body
      let separator ← frame? (here.field "interleave") header.separator
      return source.map fun source =>
        .forEach ⟨source, header.order, sortBy, header.limit, header.filling, separator,
          header.budget, header.stopsWhenFull⟩ body
  | .branch test whenTrue whenFalse => do
    let test ← condition allowed (here.field "condition") test
    let whenTrue ← planFrom allowed (here.field "then") inLoop 0 whenTrue
    let whenFalse ← planFrom allowed (here.field "else") inLoop 0 whenFalse
    return test.map fun test => .branch test whenTrue whenFalse

/-- The steps of a plan from a position on. -/
def planFrom (allowed : Option (List String)) (here : Location) (inLoop : Bool)
    (position : Nat) : List Template.PlanNode → Compilation (List PlanNode)
  | [] => return []
  | node :: rest => do
    let first ← planNode allowed (here.element position) inLoop node
    let others ← planFrom allowed here inLoop (position + 1) rest
    return first.toList ++ others

end

/-- The groups of a lane from a position on, without those of names met before. -/
def laneGroups (here : Location) (position : Nat) (met : List String) :
    List Template.LaneGroup → Compilation (List LaneGroup)
  | [] => return []
  | group :: rest => do
    let place := here.element position
    if met.contains group.id then do
      note (.invalid place (.repeatedGroup group.id))
      laneGroups here (position + 1) met rest
    else do
      let opening ← leaf? (place.field "open") group.opening
      let closing ← leaf? (place.field "close") group.closing
      let others ← laneGroups here (position + 1) (group.id :: met) rest
      return ⟨group.id, opening, closing⟩ :: others

/-- A lane. -/
def lane (here : Location) (lane : Template.Lane) : Compilation (Option Lane) := do
  let template ← leaf (here.field "template") lane.template
  let groups ← laneGroups (here.field "groups") 0 [] lane.groups
  return template.map fun template =>
    ⟨lane.id, lane.enabled, lane.role, template, lane.order, groups, lane.reserve⟩

/-- The lanes from a position on, without those of names met before. -/
def lanes (position : Nat) (met : List String) : List Template.Lane → Compilation (List Lane)
  | [] => return []
  | first :: rest => do
    if met.contains first.id then do
      note (.repeatedLane first.id)
      lanes (position + 1) met rest
    else do
      let compiled ← lane [.key "attachments", .index position] first
      let others ← lanes (position + 1) (first.id :: met) rest
      return compiled.toList ++ others

/-- The slots that have a place in the layout, with the number of the element, from a
position on. A second place of one slot is none. -/
def placedSlots (slots : List (String × Template.Slot)) (position : Nat) (met : List String) :
    List Template.LayoutNode → Compilation (List (String × Nat))
  | [] => return []
  | .message _ :: rest => placedSlots slots (position + 1) met rest
  | .slot placeholder :: rest => do
    if (slots.lookup placeholder.name).isNone then do
      note (.unknownSlot placeholder.name)
      placedSlots slots (position + 1) met rest
    else if met.contains placeholder.name then do
      note (.repeatedSlot placeholder.name)
      placedSlots slots (position + 1) met rest
    else do
      let others ← placedSlots slots (position + 1) (placeholder.name :: met) rest
      return (placeholder.name, position) :: others

/-- Notes the slots that have no place in the layout. -/
def checkPlaced (placed : List (String × Nat)) : List (String × Template.Slot) → Compilation Unit
  | [] => return ()
  | (name, _) :: rest => do
    if (placed.lookup name).isNone then note (.unplacedSlot name)
    checkPlaced placed rest

/-- The place for a slot of which the number is known. -/
def placeholder (here : Location) (number : Nat) (placeholder : Template.Placeholder) :
    Compilation LayoutNode := do
  let header ← frame? (here.field "header") placeholder.header
  let footer ← frame? (here.field "footer") placeholder.footer
  return .slot ⟨placeholder.name, number, header, footer, placeholder.omitIfEmpty != some false⟩

/-- The elements of the layout from a position on. -/
def layoutFrom (allowed : Option (List String)) (placed : List (String × Nat))
    (position : Nat) : List Template.LayoutNode → Compilation (List LayoutNode)
  | [] => return []
  | .message details :: rest => do
    let message ← layoutMessage allowed [.key "layout", .index position] details
    let others ← layoutFrom allowed placed (position + 1) rest
    return (message.map .message).toList ++ others
  | .slot details :: rest =>
    match placed.findIdx? (fun entry => entry.2 == position) with
    | none => layoutFrom allowed placed (position + 1) rest
    | some number => do
      let first ← placeholder [.key "layout", .index position] number details
      let others ← layoutFrom allowed placed (position + 1) rest
      return first :: others

/-- The slots that have a place in the layout. -/
def slots (allowed : Option (List String)) (specs : List (String × Template.Slot)) :
    List (String × Nat) → Compilation (List Slot)
  | [] => return []
  | (name, layoutIndex) :: rest =>
    match specs.lookup name with
    | none => slots allowed specs rest
    | some spec => do
      let here : Location := [.key "slots", .key name]
      let test ← condition? allowed (here.field "when") spec.condition
      let plan ← planFrom allowed (here.field "plan") false 0 spec.plan
      let others ← slots allowed specs rest
      return ⟨name, spec.priority, test, spec.budget, plan, spec.metadata, layoutIndex⟩ ::
        others

/-- The numbers of slots in the order in which they are filled: by priority, and those of
equal priority in the order of the layout. -/
def fillingOrder (slots : List Slot) : List Nat :=
  (slots.zipIdx.mergeSort fun a b => b.1.priority ≤ a.1.priority).map Prod.snd

/-- A template. -/
def template (allowed : Option (List String)) (template : Template) :
    Compilation Blueprint := do
  let placed ← placedSlots template.slots 0 [] template.layout
  checkPlaced placed template.slots
  let layout ← layoutFrom allowed placed 0 template.layout
  let slots ← slots allowed template.slots placed
  let lanes ← lanes 0 [] template.attachments
  return ⟨template.id, template.task, template.name, template.version, layout, slots,
    fillingOrder slots, lanes⟩

/-- What a compilation makes, where there is no issue in the end, and the leaves that are
known then. -/
def run {α : Type} (compilation : Compilation α) (leaves : Leaf.Cache) :
    Except Issue α × Leaf.Cache :=
  let (result, progress) := compilation ⟨leaves, [], []⟩
  match Issue.collect progress.issues with
  | some issue => (.error issue, progress.leaves)
  | none => (.ok result, progress.leaves)

section Run

variable {α : Type} {compilation : Compilation α} {leaves : Leaf.Cache}

/-- What a compilation ends with depends on the issues that it noted. -/
theorem fst_run (compilation : Compilation α) (leaves : Leaf.Cache) :
    (compilation.run leaves).1 =
      match Issue.collect (compilation ⟨leaves, [], []⟩).2.issues with
      | some issue => .error issue
      | none => .ok (compilation ⟨leaves, [], []⟩).1 := by
  rw [run]
  obtain ⟨made, progress⟩ := compilation ⟨leaves, [], []⟩
  dsimp only
  cases Issue.collect progress.issues <;> rfl

/-- The leaves are known whether there are issues or not. -/
theorem snd_run (compilation : Compilation α) (leaves : Leaf.Cache) :
    (compilation.run leaves).2 = (compilation ⟨leaves, [], []⟩).2.leaves := by
  rw [run]
  obtain ⟨made, progress⟩ := compilation ⟨leaves, [], []⟩
  dsimp only
  cases Issue.collect progress.issues <;> rfl

/-- A compilation ends with what it made if it noted nothing. -/
theorem run_eq_ok_iff {made : α} :
    (compilation.run leaves).1 = .ok made ↔
      (compilation ⟨leaves, [], []⟩).2.issues = [] ∧ (compilation ⟨leaves, [], []⟩).1 = made := by
  rw [fst_run, ← Issue.collect_eq_none_iff]
  cases Issue.collect (compilation ⟨leaves, [], []⟩).2.issues with
  | none => simp
  | some issue => simp

/-- A compilation fails with what it noted, collected to one issue. -/
theorem run_eq_error_iff {issue : Issue} :
    (compilation.run leaves).1 = .error issue ↔
      Issue.collect (compilation ⟨leaves, [], []⟩).2.issues = some issue := by
  rw [fst_run]
  cases Issue.collect (compilation ⟨leaves, [], []⟩).2.issues with
  | none => simp
  | some found => simp

end Run

end Compilation

end Blueprint

end ChatPrompt
