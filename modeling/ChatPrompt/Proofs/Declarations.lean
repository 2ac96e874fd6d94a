import ChatPrompt.Proofs.Image
import ChatPrompt.Proofs.Nesting

/-!
# The keys that a blueprint declares

The messages of a blueprint are those of its layout and of its plans, with everything that stands in
branches and loops. A key that a message declares is fixed if its leaf is the same in every scope;
it is then the text that the leaf was read from. No two messages of a compiled blueprint declare one
fixed key, and no message inside a loop declares any.
-/

namespace ChatPrompt

namespace Leaf

/-- Symbols of which the tree is text are text. -/
theorem Derives.eq_of_isText {symbols : List Symbol} {nodes : List Node} (h : Derives symbols nodes)
    (htext : ∀ node ∈ nodes, node.isText = true) :
    ∃ contents : List (List Char), symbols = contents.map .text ∧
      nodes = contents.map fun content => .text (String.ofList content) := by
  induction h with
  | nil => exact ⟨[], rfl, rfl⟩
  | text content hrest ih =>
    obtain ⟨contents, rfl, rfl⟩ := ih fun node hnode => htext node (List.mem_cons_of_mem _ hnode)
    exact ⟨content :: contents, rfl, rfl⟩
  | value expr hrest ih => cases htext _ List.mem_cons_self
  | block condition hbody hrest _ _ => cases htext _ List.mem_cons_self
  | alternative condition hfirst hsecond hrest _ _ _ => cases htext _ List.mem_cons_self

/-- Parts that are read as text are text. -/
theorem eq_of_reads_text {parts : List Part} {contents : List (List Char)}
    (h : List.Forall₂ Part.Reads parts (contents.map .text)) : parts = contents.map .text := by
  induction contents generalizing parts with
  | nil =>
    cases h
    rfl
  | cons content rest ih =>
    cases h with
    | cons hreads hrest =>
      cases hreads
      rw [ih hrest, List.map_cons]

/-- A text of which all parts are text has no others than itself. -/
theorem eq_ofText_of_cut {cs : List Char} {contents : List (List Char)}
    (h : Cut cs (contents.map .text)) : contents.map .text = Part.ofText cs := by
  have hnone : ∀ part ∈ contents.map Part.text, ∃ content, part = .text content := by
    intro part hpart
    obtain ⟨content, -, rfl⟩ := List.mem_map.1 hpart
    exact ⟨content, rfl⟩
  generalize contents.map Part.text = parts at *
  cases h with
  | plain h => rfl
  | @unclosed before rest _ _ =>
    obtain ⟨content, hcontent⟩ :=
      hnone .unclosed (List.mem_append_right _ (List.mem_singleton.2 rfl))
    cases hcontent
  | @tag before inside rest parts _ _ _ =>
    obtain ⟨content, hcontent⟩ := hnone (.tag inside) (List.mem_append_right _ List.mem_cons_self)
    cases hcontent

/-- A leaf that is the same in every scope says the text that it was read from. -/
theorem render_of_hasVariables_eq_false {source : String} {leaf : Leaf}
    (hread : ofText source = .ok leaf) (hfixed : leaf.hasVariables = false) (scope : Scope) :
    leaf.render scope = source := by
  obtain ⟨parts, hcut, hok, htree⟩ := ofText_derives source
  obtain ⟨-, symbols, nodes, hreads, hderives⟩ := hok.1 ⟨leaf, hread⟩
  obtain ⟨hleaf, -⟩ := htree symbols nodes hreads hderives
  obtain rfl := Except.ok.inj (hread.symm.trans hleaf)
  have htext : ∀ node ∈ nodes, node.isText = true := by
    simpa [hasVariables] using hfixed
  obtain ⟨contents, rfl, rfl⟩ := hderives.eq_of_isText htext
  obtain rfl := eq_of_reads_text hreads
  have hwhole := eq_ofText_of_cut ((hcut _).2 rfl)
  rw [Part.ofText] at hwhole
  split at hwhole
  · next hnil =>
    rw [List.map_eq_nil_iff.1 hwhole]
    exact (String.toList_eq_nil_iff.1 hnil).symm
  · obtain ⟨content, rfl, hcontent⟩ := List.map_eq_singleton_iff.1 hwhole
    obtain rfl := Part.text.inj hcontent
    simp [render, renderNodes, Node.render]

/-- A leaf keeps the text that it was read from. -/
theorem source_of_ofText {source : String} {leaf : Leaf} (h : ofText source = .ok leaf) :
    leaf.source = source := by
  obtain ⟨parts, -, hok, htree⟩ := ofText_derives source
  obtain ⟨-, symbols, nodes, hreads, hderives⟩ := hok.1 ⟨leaf, h⟩
  rw [Except.ok.inj (h.symm.trans (htree symbols nodes hreads hderives).1)]

end Leaf

namespace Blueprint

/-- The key that a message declares, if it is the same in every scope. -/
def Message.fixedKey? (message : Message) : Option String :=
  message.anchor.bind fun leaf => if leaf.hasVariables then none else some leaf.source

/-- Whether a message declares a key that is the same in every scope. -/
def Message.isFixed (message : Message) : Bool := message.fixedKey?.isSome

mutual

/-- The messages of a step of a plan, with those inside it. -/
def PlanNode.messages : PlanNode → List Message
  | .message details => [details]
  | .forEach _ body => messagesOf body
  | .branch _ whenTrue whenFalse => messagesOf whenTrue ++ messagesOf whenFalse

/-- The messages of the steps of a plan, with those inside them. -/
def messagesOf : List PlanNode → List Message
  | [] => []
  | node :: rest => node.messages ++ messagesOf rest

end

mutual

/-- No message inside a loop of a step declares a fixed key. -/
def PlanNode.VariesInLoops : PlanNode → Prop
  | .message _ => True
  | .forEach _ body => ∀ message ∈ messagesOf body, message.fixedKey? = none
  | .branch _ whenTrue whenFalse => VaryInLoops whenTrue ∧ VaryInLoops whenFalse

/-- No message inside a loop of some steps declares a fixed key. -/
def VaryInLoops : List PlanNode → Prop
  | [] => True
  | node :: rest => node.VariesInLoops ∧ VaryInLoops rest

end

/-- The messages of the plan of a slot of a number, if there is one. -/
def slotMessages (blueprint : Blueprint) (number : Nat) : List Message :=
  (blueprint.slots[number]?).toList.flatMap fun slot => messagesOf slot.plan

/-- The messages of a slot that is there are those of its plan. -/
theorem slotMessages_of_getElem? {blueprint : Blueprint} {number : Nat} {slot : Slot}
    (h : blueprint.slots[number]? = some slot) :
    blueprint.slotMessages number = messagesOf slot.plan := by
  rw [slotMessages, h]
  exact List.append_nil _

/-- The messages that an element of the layout puts in or makes a slot put in. -/
def nodeMessages (blueprint : Blueprint) : LayoutNode → List Message
  | .message details => [details]
  | .slot place => blueprint.slotMessages place.slot

/-- The messages of a blueprint, in the order of the layout. -/
def declared (blueprint : Blueprint) : List Message :=
  blueprint.layout.flatMap blueprint.nodeMessages

end Blueprint

namespace Template

open Blueprint (messagesOf VaryInLoops)

/-- The fixed keys of some parts and others are those of both. -/
theorem fixedKeys_append (parts others : List Part) :
    fixedKeys (parts ++ others) = fixedKeys parts ++ fixedKeys others := List.filterMap_append

/-- The fixed keys of the parts of several things are those of each of them. -/
theorem fixedKeys_flatMap {α : Type} (things : List α) (parts : α → List Part) :
    fixedKeys (things.flatMap parts) = things.flatMap fun thing => fixedKeys (parts thing) :=
  List.filterMap_flatMap

/-- Parts none of which is a key declare none. -/
theorem fixedKeys_map {α : Type} (things : List α) {part : α → Part}
    (h : ∀ thing, (part thing).fixedKey? = none) : fixedKeys (things.map part) = [] := by
  rw [fixedKeys, List.filterMap_map, List.filterMap_eq_nil_iff]
  exact fun thing _ => h thing

mutual

/-- Arguments declare no key. -/
theorem fixedKeys_argumentParts (value : Json) : fixedKeys (argumentParts value) = [] := by
  match value with
  | .string source =>
    rw [argumentParts]
    split <;> rfl
  | .array items =>
    rw [argumentParts]
    exact fixedKeys_itemParts items
  | .object fields =>
    rw [argumentParts]
    exact fixedKeys_fieldParts fields
  | .null => rfl
  | .bool _ => rfl
  | .number _ => rfl

theorem fixedKeys_itemParts (items : List Json) : fixedKeys (itemParts items) = [] := by
  match items with
  | [] => rfl
  | item :: rest =>
    rw [itemParts, fixedKeys_append, fixedKeys_argumentParts item, fixedKeys_itemParts rest]
    rfl

theorem fixedKeys_fieldParts (fields : List (String × Json)) :
    fixedKeys (fieldParts fields) = [] := by
  match fields with
  | [] => rfl
  | (_, value) :: rest =>
    rw [fieldParts, fixedKeys_append, fixedKeys_argumentParts value, fixedKeys_fieldParts rest]
    rfl

end

theorem fixedKeys_reference (reference : Reference) : fixedKeys reference.parts = [] := by
  rw [Reference.parts, fixedKeys_append, fixedKeys_argumentParts]
  exact fixedKeys_map _ fun _ => rfl

mutual

theorem fixedKeys_condition (test : Condition) : fixedKeys test.parts = [] := by
  match test with
  | .present target | .nonEmpty target | .compare target _ _ => exact fixedKeys_reference target
  | .expression _ => rfl
  | .all conditions | .any conditions =>
    rw [Condition.parts]
    exact fixedKeys_conditionParts conditions
  | .negation inner =>
    rw [Condition.parts]
    exact fixedKeys_condition inner

theorem fixedKeys_conditionParts (conditions : List Condition) :
    fixedKeys (conditionParts conditions) = [] := by
  match conditions with
  | [] => rfl
  | first :: rest =>
    rw [conditionParts, fixedKeys_append, fixedKeys_condition first, fixedKeys_conditionParts rest]
    rfl

end

theorem fixedKeys_contentParts (content : Option String) (source : Option Reference) :
    fixedKeys (contentParts content source) = [] := by
  change fixedKeys (content.toList.map .text ++ source.toList.flatMap Reference.parts) = []
  rw [fixedKeys_append, fixedKeys_flatMap, fixedKeys_map _ fun _ => rfl, List.nil_append,
    List.flatMap_eq_nil_iff]
  exact fun reference _ => fixedKeys_reference reference

theorem fixedKeys_frameParts (frame : Option Frame) : fixedKeys (frameParts frame) = [] :=
  fixedKeys_map _ fun _ => rfl

mutual

/-- A step of a plan in a loop declares no fixed key. -/
theorem fixedKeys_parts_inLoop (node : PlanNode) : fixedKeys (node.parts true) = [] := by
  match node with
  | .message details =>
    rw [PlanNode.parts, PlanMessage.parts, fixedKeys_append, fixedKeys_contentParts]
    exact fixedKeys_map _ fun _ => rfl
  | .forEach header body =>
    rw [PlanNode.parts, fixedKeys_append, fixedKeys_append, fixedKeys_append, fixedKeys_reference,
      fixedKeys_map _ fun _ => rfl, fixedKeys_frameParts, fixedKeys_planParts_inLoop body]
    rfl
  | .branch test whenTrue whenFalse =>
    rw [PlanNode.parts, fixedKeys_append, fixedKeys_append, fixedKeys_condition,
      fixedKeys_planParts_inLoop whenTrue, fixedKeys_planParts_inLoop whenFalse]
    rfl

/-- The steps of a plan in a loop declare no fixed key. -/
theorem fixedKeys_planParts_inLoop (nodes : List PlanNode) :
    fixedKeys (planParts true nodes) = [] := by
  match nodes with
  | [] => rfl
  | node :: rest =>
    rw [planParts, fixedKeys_append, fixedKeys_parts_inLoop node, fixedKeys_planParts_inLoop rest]
    rfl

end

section InOrder

variable {allowed : Option (List String)}

/-- A text is fixed if the leaf that it becomes is. -/
theorem TextBecomes.isFixedText_eq {key : String} {leaf : Leaf} (h : TextBecomes key leaf) :
    Leaf.isFixedText key = !leaf.hasVariables := by
  rw [Leaf.isFixedText, h]

/-- A message declares the fixed key of its image, which in a loop it may not have. -/
theorem fixedKeys_anchor {inLoop : Bool} {role : Role} {content : Option String}
    {source : Option Reference} {openEnded : Bool} {anchor : Option String}
    {budget : Option Tokens} {made : Blueprint.Message}
    (h : MessageBecomes role content source openEnded anchor budget made)
    (horder : ∀ part ∈ anchor.toList.map (Part.anchor inLoop), part.IsInOrder allowed) :
    fixedKeys (contentParts content source ++ anchor.toList.map (Part.anchor inLoop)) =
      made.fixedKey?.toList := by
  have hkeys : fixedKeys (anchor.toList.map (Part.anchor inLoop)) = made.fixedKey?.toList := by
    have hanchor := h.anchor
    obtain ⟨_, _, _, madeAnchor, _⟩ := made
    cases hanchor with
    | none => rfl
    | @some key leaf hread =>
      have hfixed := hread.isFixedText_eq
      have hsource := Leaf.source_of_ofText hread
      have hpart : (Part.anchor inLoop key).IsInOrder allowed := horder _ List.mem_cons_self
      change fixedKeys [.anchor inLoop key] =
        (if leaf.hasVariables then none else some leaf.source : Option String).toList
      cases hvaries : leaf.hasVariables with
      | true => cases inLoop <;> simp [fixedKeys, Part.fixedKey?, hfixed, hvaries]
      | false =>
        cases inLoop with
        | true =>
          have hnot := hpart.2 rfl
          rw [hfixed, hvaries] at hnot
          cases hnot
        | false => simp [fixedKeys, Part.fixedKey?, hfixed, hvaries, hsource]
  rw [fixedKeys_append, fixedKeys_contentParts, List.nil_append, hkeys]

mutual

/-- A step of a plan declares the fixed keys of its image. -/
theorem PlanNode.Becomes.fixedKeys_eq {inLoop : Bool} {node : PlanNode} {made : Blueprint.PlanNode}
    (h : node.Becomes made) (horder : ∀ part ∈ node.parts inLoop, part.IsInOrder allowed) :
    fixedKeys (node.parts inLoop) = made.messages.filterMap Blueprint.Message.fixedKey? := by
  match node with
  | .message details =>
    cases h with
    | @message _ made hdetails =>
      rw [PlanNode.parts, PlanMessage.parts] at horder ⊢
      rw [fixedKeys_anchor hdetails fun part hpart => horder part (List.mem_append_right _ hpart),
        Blueprint.PlanNode.messages, List.filterMap_cons, List.filterMap_nil]
      cases made.fixedKey? <;> rfl
  | .forEach header body =>
    cases h with
    | forEach hheader hbody =>
      rw [PlanNode.parts] at horder ⊢
      rw [fixedKeys_append, fixedKeys_append, fixedKeys_append, fixedKeys_reference,
        fixedKeys_map _ fun _ => rfl, fixedKeys_frameParts, Blueprint.PlanNode.messages]
      rw [List.nil_append, List.nil_append, List.append_nil]
      exact fixedKeys_planParts hbody fun part hpart => horder part
        (List.mem_append_right _ (List.mem_append_right _ (List.mem_append_left _ hpart)))
  | .branch test whenTrue whenFalse =>
    cases h with
    | branch htest htrue hfalse =>
      rw [PlanNode.parts] at horder ⊢
      rw [fixedKeys_append, fixedKeys_append, fixedKeys_condition, List.nil_append,
        Blueprint.PlanNode.messages, List.filterMap_append,
        fixedKeys_planParts htrue fun part hpart => horder part
          (List.mem_append_right _ (List.mem_append_left _ hpart)),
        fixedKeys_planParts hfalse fun part hpart => horder part
          (List.mem_append_right _ (List.mem_append_right _ hpart))]

/-- The steps of a plan declare the fixed keys of their images. -/
theorem fixedKeys_planParts {inLoop : Bool} {nodes : List PlanNode}
    {made : List Blueprint.PlanNode} (h : List.Forall₂ PlanNode.Becomes nodes made)
    (horder : ∀ part ∈ planParts inLoop nodes, part.IsInOrder allowed) :
    fixedKeys (planParts inLoop nodes) =
      (messagesOf made).filterMap Blueprint.Message.fixedKey? := by
  match nodes with
  | [] =>
    cases h
    rfl
  | node :: rest =>
    obtain ⟨⟩ | ⟨hnode, hrest⟩ := h
    rw [planParts] at horder ⊢
    rw [fixedKeys_append, Blueprint.messagesOf, List.filterMap_append,
      hnode.fixedKeys_eq fun part hpart => horder part (List.mem_append_left _ hpart),
      fixedKeys_planParts hrest fun part hpart => horder part (List.mem_append_right _ hpart)]

end

mutual

/-- No message in a loop of a step that is in order declares a fixed key. -/
theorem PlanNode.Becomes.variesInLoops {inLoop : Bool} {node : PlanNode}
    {made : Blueprint.PlanNode} (h : node.Becomes made)
    (horder : ∀ part ∈ node.parts inLoop, part.IsInOrder allowed) : made.VariesInLoops := by
  match node with
  | .message details =>
    cases h
    trivial
  | .forEach header body =>
    cases h with
    | forEach hheader hbody =>
      rw [PlanNode.parts] at horder
      have hkeys := fixedKeys_planParts hbody fun part hpart => horder part
        (List.mem_append_right _ (List.mem_append_right _ (List.mem_append_left _ hpart)))
      rw [fixedKeys_planParts_inLoop] at hkeys
      exact List.filterMap_eq_nil_iff.1 hkeys.symm
  | .branch test whenTrue whenFalse =>
    cases h with
    | branch htest htrue hfalse =>
      rw [PlanNode.parts] at horder
      exact ⟨varyInLoops_of_becomes htrue fun part hpart => horder part
          (List.mem_append_right _ (List.mem_append_left _ hpart)),
        varyInLoops_of_becomes hfalse fun part hpart => horder part
          (List.mem_append_right _ (List.mem_append_right _ hpart))⟩

/-- No message in a loop of steps that are in order declares a fixed key. -/
theorem varyInLoops_of_becomes {inLoop : Bool} {nodes : List PlanNode}
    {made : List Blueprint.PlanNode} (h : List.Forall₂ PlanNode.Becomes nodes made)
    (horder : ∀ part ∈ planParts inLoop nodes, part.IsInOrder allowed) : VaryInLoops made := by
  match nodes with
  | [] =>
    cases h
    trivial
  | node :: rest =>
    obtain ⟨⟩ | ⟨hnode, hrest⟩ := h
    rw [planParts] at horder
    exact ⟨hnode.variesInLoops fun part hpart => horder part (List.mem_append_left _ hpart),
      varyInLoops_of_becomes hrest fun part hpart => horder part (List.mem_append_right _ hpart)⟩

end

end InOrder

end Template

namespace Blueprint

/-- The message that an element of the layout is, if it is one. -/
def LayoutNode.message? : LayoutNode → Option Message
  | .message details => some details
  | .slot _ => none

/-- What a list holds is found under its places. -/
theorem flatMap_getElem?_range {α β : Type} (things : List α) (read : α → List β) :
    ((List.range things.length).flatMap fun number => things[number]?.toList.flatMap read) =
      things.flatMap read := by
  induction things with
  | nil => rfl
  | cons thing rest ih =>
    rw [List.length_cons, List.range_succ_eq_map, List.flatMap_cons, List.flatMap_map]
    simpa using ih

/-- The messages that a blueprint declares are those of its layout and those of the plans of its
slots, each once. -/
theorem IsLaidOut.declared_perm {blueprint : Blueprint} (h : blueprint.IsLaidOut) :
    blueprint.declared.Perm (blueprint.layout.filterMap LayoutNode.message? ++
      blueprint.slots.flatMap fun slot => messagesOf slot.plan) := by
  have hsplit : blueprint.nodeMessages = fun node => node.message?.toList ++
      node.placeholder?.toList.flatMap fun place => blueprint.slotMessages place.slot := by
    funext node
    cases node with
    | message details => rfl
    | slot place => simp [nodeMessages, LayoutNode.message?, LayoutNode.placeholder?]
  have hown : (blueprint.layout.flatMap fun node => node.message?.toList) =
      blueprint.layout.filterMap LayoutNode.message? :=
    (List.filterMap_eq_flatMap_toList _ _).symm
  have hplans : (blueprint.layout.flatMap fun node =>
      node.placeholder?.toList.flatMap fun place => blueprint.slotMessages place.slot) =
      blueprint.slots.flatMap fun slot => messagesOf slot.plan := by
    rw [← flatMap_getElem?_range blueprint.slots, ← h.numbers_places, List.flatMap_map, places,
      List.filterMap_eq_flatMap_toList, List.flatMap_assoc]
    rfl
  rw [declared, hsplit, ← hown, ← hplans]
  exact (List.flatMap_append_perm _ _ _).symm

/-- The key of a message is a leaf that was read from a text. -/
def Message.IsRead (message : Message) : Prop :=
  ∀ leaf ∈ message.anchor, Leaf.ofText leaf.source = .ok leaf

end Blueprint

namespace Template

open Blueprint (messagesOf VaryInLoops)

/-- The key of the image of a message was read. -/
theorem MessageBecomes.isRead {role : Role} {content : Option String} {source : Option Reference}
    {openEnded : Bool} {anchor : Option String} {budget : Option Tokens} {made : Blueprint.Message}
    (h : MessageBecomes role content source openEnded anchor budget made) : made.IsRead := by
  have hanchor := h.anchor
  obtain ⟨_, _, _, madeAnchor, _⟩ := made
  cases hanchor with
  | none => exact nofun
  | some hread =>
    intro leaf hleaf
    obtain rfl := Option.some.inj hleaf
    rw [Leaf.source_of_ofText hread]
    exact hread

mutual

/-- The keys of the messages of the image of a step were read. -/
theorem PlanNode.Becomes.isRead {node : PlanNode} {made : Blueprint.PlanNode}
    (h : node.Becomes made) : ∀ message ∈ made.messages, message.IsRead := by
  match node with
  | .message details =>
    cases h with
    | message hdetails => exact List.forall_mem_singleton.2 hdetails.isRead
  | .forEach header body =>
    cases h with
    | forEach hheader hbody => exact isRead_of_becomes hbody
  | .branch test whenTrue whenFalse =>
    cases h with
    | branch htest htrue hfalse =>
      exact List.forall_mem_append.2 ⟨isRead_of_becomes htrue, isRead_of_becomes hfalse⟩

/-- The keys of the messages of the images of steps were read. -/
theorem isRead_of_becomes {nodes : List PlanNode} {made : List Blueprint.PlanNode}
    (h : List.Forall₂ PlanNode.Becomes nodes made) :
    ∀ message ∈ messagesOf made, message.IsRead := by
  match nodes with
  | [] =>
    cases h
    exact List.forall_mem_nil _
  | node :: rest =>
    obtain ⟨⟩ | ⟨hnode, hrest⟩ := h
    exact List.forall_mem_append.2 ⟨hnode.isRead, isRead_of_becomes hrest⟩

end

/-- The key of the image of a message of the layout was read. -/
theorem LayoutNode.Becomes.isRead {slots : List Blueprint.Slot} {node : LayoutNode}
    {made : Blueprint.LayoutNode} (h : node.Becomes slots made) :
    ∀ message ∈ made.message?, message.IsRead := by
  cases h with
  | message hdetails =>
    rintro _ ⟨⟩
    exact hdetails.isRead
  | slot hname hslot hheader hfooter homit => exact nofun

/-- Things of which each has as much as its image have as much together. -/
theorem flatMap_eq_of_forall₂ {α β γ : Type} {things : List α} {made : List β}
    {left : α → List γ} {right : β → List γ}
    (h : List.Forall₂ (fun thing image => left thing = right image) things made) :
    things.flatMap left = made.flatMap right := by
  induction h with
  | nil => rfl
  | cons hfirst _ ih => rw [List.flatMap_cons, List.flatMap_cons, hfirst, ih]

section Declared

variable {allowed : Option (List String)} {source : Template} {made : Blueprint}

/-- The messages of the layout declare the fixed keys of their images. -/
theorem Becomes.fixedKeys_layout (h : source.Becomes made)
    (horder : ∀ part ∈ source.layout.flatMap LayoutNode.parts, part.IsInOrder allowed) :
    fixedKeys (source.layout.flatMap LayoutNode.parts) =
      (made.layout.filterMap Blueprint.LayoutNode.message?).filterMap
        Blueprint.Message.fixedKey? := by
  have heach : ∀ node ∈ source.layout, ∀ part ∈ node.parts, part.IsInOrder allowed :=
    fun node hnode part hpart => horder part (List.mem_flatMap.2 ⟨node, hnode, hpart⟩)
  rw [fixedKeys_flatMap, List.filterMap_filterMap, List.filterMap_eq_flatMap_toList]
  refine flatMap_eq_of_forall₂ (((List.forall₂_and_left _ _).2 ⟨heach, h.layout⟩).imp ?_)
  rintro node image ⟨hnode, hbecomes⟩
  cases hbecomes with
  | message hdetails =>
    refine (fixedKeys_anchor hdetails fun part hpart => hnode part ?_)
    exact List.mem_cons_of_mem _ (List.mem_append_right _ hpart)
  | slot hname hslot hheader hfooter homit =>
    rw [LayoutNode.parts, fixedKeys_append, fixedKeys_frameParts, fixedKeys_frameParts]
    rfl

/-- A place and its image: the slot that is kept under the name declares the fixed keys of the
image, in no loop of which there are any. -/
theorem PlaceBecomes.declares {slots : List (String × Slot)} {place : String × Nat}
    {slot : Blueprint.Slot} (h : PlaceBecomes slots place slot)
    (horder : ∀ part ∈ slotParts slots place.1, part.IsInOrder allowed) :
    fixedKeys (slotParts slots place.1) =
        (messagesOf slot.plan).filterMap Blueprint.Message.fixedKey? ∧
      VaryInLoops slot.plan ∧ ∀ message ∈ messagesOf slot.plan, message.IsRead := by
  obtain ⟨spec, hspec, hslot⟩ := h.spec
  have hparts : slotParts slots place.1 = spec.parts := by
    rw [slotParts, hspec, Option.toList_some, List.flatMap_singleton]
  rw [hparts] at horder ⊢
  have hplan : ∀ part ∈ planParts false spec.plan, part.IsInOrder allowed :=
    fun part hpart => horder part (List.mem_append_right _ hpart)
  refine ⟨?_, varyInLoops_of_becomes hslot.plan hplan, isRead_of_becomes hslot.plan⟩
  have hcondition : fixedKeys (spec.condition.toList.flatMap Condition.parts) = [] := by
    rw [fixedKeys_flatMap, List.flatMap_eq_nil_iff]
    exact fun test _ => fixedKeys_condition test
  rw [Slot.parts, fixedKeys_append, hcondition, List.nil_append,
    fixedKeys_planParts hslot.plan hplan]

/-- Each slot of a compiled blueprint is the image of what is kept under its name, the parts of
which are in order. -/
theorem Becomes.places (h : source.Becomes made) (hformed : source.IsWellFormed allowed) :
    List.Forall₂ (fun place slot => (∀ part ∈ slotParts source.slots place.1,
        part.IsInOrder allowed) ∧ PlaceBecomes source.slots place slot)
      (Blueprint.Compilation.placesFrom 0 source.layout) made.slots := by
  refine (List.forall₂_and_left _ _).2 ⟨fun place hplace part hpart => ?_, h.slots⟩
  have hname : place.1 ∈ source.placeNames := by
    rw [placeNames, ← Blueprint.Compilation.names_placesFrom 0 source.layout]
    exact List.mem_map_of_mem hplace
  exact hformed.parts_inOrder part (List.mem_append_right _ (List.mem_append_left _
    (List.mem_flatMap.2 ⟨place.1, hname, hpart⟩)))

/-- No two messages of a compiled blueprint declare one fixed key. -/
theorem Becomes.nodup_fixedKeys (h : source.Becomes made) (hlaid : made.IsLaidOut)
    (hformed : source.IsWellFormed allowed) :
    (made.declared.filterMap Blueprint.Message.fixedKey?).Nodup := by
  have hlayout := h.fixedKeys_layout fun part hpart =>
    hformed.parts_inOrder part (List.mem_append_left _ hpart)
  have hplans : fixedKeys (source.placeNames.flatMap (slotParts source.slots)) =
      (made.slots.flatMap fun slot => messagesOf slot.plan).filterMap
        Blueprint.Message.fixedKey? := by
    rw [fixedKeys_flatMap, placeNames, ← Blueprint.Compilation.names_placesFrom 0 source.layout,
      List.flatMap_map, List.filterMap_flatMap]
    exact flatMap_eq_of_forall₂ ((h.places hformed).imp fun place slot hplace =>
      (hplace.2.declares hplace.1).1)
  have hkeys := hformed.keys_nodup
  rw [parts, fixedKeys_append, fixedKeys_append, hlayout, hplans, ← List.append_assoc,
    ← List.filterMap_append] at hkeys
  exact ((hlaid.declared_perm.filterMap _).nodup_iff).2 (List.nodup_append.1 hkeys).1

/-- The messages in the loops of a compiled blueprint declare no fixed key, and all keys were
read. -/
theorem Becomes.declares (h : source.Becomes made) (hlaid : made.IsLaidOut)
    (hformed : source.IsWellFormed allowed) :
    (∀ slot ∈ made.slots, VaryInLoops slot.plan) ∧
      ∀ message ∈ made.declared, message.IsRead := by
  have hslots : ∀ slot ∈ made.slots, VaryInLoops slot.plan ∧
      ∀ message ∈ messagesOf slot.plan, message.IsRead := by
    have hboth := (h.places hformed).flip.imp fun slot place hplace =>
      And.intro (hplace.2.declares hplace.1).2 trivial
    exact ((List.forall₂_and_left _ _).1 hboth).1
  have hlayout : ∀ node ∈ made.layout, ∀ message ∈ node.message?, message.IsRead := by
    have hboth := h.layout.flip.imp fun image node hbecomes =>
      And.intro hbecomes.isRead trivial
    exact ((List.forall₂_and_left _ _).1 hboth).1
  refine ⟨fun slot hslot => (hslots slot hslot).1, fun message hmessage => ?_⟩
  rcases List.mem_append.1 (hlaid.declared_perm.mem_iff.1 hmessage) with hown | hplan
  · obtain ⟨node, hnode, hsome⟩ := List.mem_filterMap.1 hown
    exact hlayout node hnode message hsome
  · obtain ⟨slot, hslot, hin⟩ := List.mem_flatMap.1 hplan
    exact (hslots slot hslot).2 message hin

end Declared

end Template

end ChatPrompt
