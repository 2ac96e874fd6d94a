import ChatPrompt.Anchor
import ChatPrompt.Render.Slot

/-!
# From layout to messages

The layout is gone through twice. First its own texts are rendered and what they cost is set
aside, so that slots cannot spend it; then, when the slots are filled, the messages are put
in the order of the layout and what was set aside is spent. The header and footer of a slot
that turns out empty are given up as soon as that is known.
-/

namespace ChatPrompt.Render

/-- The key of a message and where the message comes from. -/
structure Mark where
  /-- The key. -/
  key : String
  /-- Where the message comes from. -/
  origin : Origin
  deriving DecidableEq, Repr

/-- A message in its place. -/
structure Placed where
  /-- The message. -/
  message : Message
  /-- Its key. -/
  mark : Option Mark
  deriving DecidableEq, Repr

/-- A text of the layout for which its cost is set aside. -/
structure HeldText where
  /-- Who speaks. -/
  role : Role
  /-- What is said. -/
  text : String
  /-- The key under which the cost is set aside. -/
  floor : String
  deriving DecidableEq, Repr

/-- An element of the layout with its texts rendered. -/
inductive PreparedNode where
  /-- A message. -/
  | message (held : HeldText) (openEnded : Bool) (anchor : Option String)
  /-- A message that says nothing. -/
  | omitted
  /-- A place for what a slot generates. -/
  | slot (name : String) (number : Nat) (omitIfEmpty : Bool) (header footer : Option HeldText)
  deriving DecidableEq, Repr

/-- The texts of an element for which their cost is set aside. -/
def PreparedNode.texts : PreparedNode → List HeldText
  | .message held _ _ => [held]
  | .omitted => []
  | .slot _ _ _ header footer => header.toList ++ footer.toList

/-- The layout with its texts rendered. -/
structure PreparedLayout where
  /-- The elements. -/
  nodes : List PreparedNode
  /-- What their texts cost. -/
  floorTokens : Tokens

/-- The key for the cost of an element of the layout. -/
def layoutFloor (index : Nat) : String := "layout[" ++ toString index ++ "]"

/-- A frame with its text rendered, if that says anything. -/
def prepareFrame (scope : Scope) (floor : String) (frame : Option Blueprint.Frame) :
    Option HeldText :=
  frame.bind fun frame =>
    (Text.contentful? (frame.content.render scope)).map fun text => ⟨frame.role, text, floor⟩

/-- An element of the layout with its texts rendered. -/
def prepareNode (env : Environment) (index : Nat) : Blueprint.LayoutNode → PreparedNode
  | .message details =>
    match Text.contentful? (env.text env.root details.content) with
    | none => .omitted
    | some text =>
      .message ⟨details.role, text, layoutFloor index⟩ details.openEnded
        (anchorKey env.root details.anchor)
  | .slot place =>
    .slot place.name place.slot place.omitIfEmpty
      (prepareFrame env.root (layoutFloor index ++ ".header") place.header)
      (prepareFrame env.root (layoutFloor index ++ ".footer") place.footer)

/-- Sets aside what a text costs. -/
def reserveText (env : Environment) (ledger : Ledger) (held : HeldText) : Ledger :=
  ledger.reserve held.floor (env.estimate held.text)

/-- The layout with its texts rendered, and the ledger with their cost set aside. -/
def prepare (env : Environment) (blueprint : Blueprint) (ledger : Ledger) :
    PreparedLayout × Ledger :=
  let nodes := blueprint.layout.mapIdx fun index node => prepareNode env index node
  let texts := nodes.flatMap PreparedNode.texts
  (⟨nodes, Tokens.total (texts.map fun held => env.estimate held.text)⟩,
    texts.foldl (reserveText env) ledger)

/-- What slots are filled with, under their numbers. -/
abbrev Buffers := List (Nat × SlotBuffer)

/-- The header and footer that go where a slot is empty. -/
def omittedTexts (number : Nat) : List PreparedNode → List HeldText
  | [] => []
  | .slot _ slot true header footer :: rest =>
    if slot = number then header.toList ++ footer.toList else omittedTexts number rest
  | _ :: rest => omittedTexts number rest

/-- Gives up what was set aside for a text. -/
def releaseText (ledger : Ledger) (held : HeldText) : Ledger := ledger.release held.floor

/-- Fills the slots of some numbers one after the other. -/
def fillSlots (env : Environment) (blueprint : Blueprint) (prepared : PreparedLayout) :
    List Nat → Ledger → Buffers × Ledger
  | [], ledger => ([], ledger)
  | number :: rest, ledger =>
    match blueprint.slots[number]? with
    | none => fillSlots env blueprint prepared rest ledger
    | some slot =>
      let (buffer, after) := fillSlot env slot ledger
      let settled :=
        if buffer.entries.isEmpty then
          (omittedTexts number prepared.nodes).foldl releaseText after
        else after
      let (others, last) := fillSlots env blueprint prepared rest settled
      ((number, buffer) :: others, last)

/-- Why a layout cannot be put together. -/
inductive Fault where
  /-- A slot was not filled. -/
  | missingBuffer (slot : String)
  deriving DecidableEq, Repr

/-- The wording of a fault. -/
def Fault.message : Fault → String
  | .missingBuffer slot => "no buffer was produced for slot '" ++ slot ++ "'"

/-- Spends what was set aside for a text. -/
def settleText (env : Environment) (ledger : Ledger) (held : HeldText) : Ledger :=
  ledger.settle held.floor (env.estimate held.text)

/-- The message of a text that belongs to the layout. -/
def HeldText.placed (held : HeldText) : Placed := ⟨Message.of held.role held.text, none⟩

/-- A message of a slot in its place. -/
def Entry.placed (slot : String) (entry : Entry) : Placed :=
  ⟨entry.message, entry.anchor.map fun key => ⟨key, .slot slot⟩⟩

/-- The messages of a layout, given what its slots are filled with, and the ledger after
them. -/
def assemble (env : Environment) :
    List PreparedNode → Buffers → Ledger → Except Fault (List Placed × Ledger)
  | [], _, ledger => .ok ([], ledger)
  | .omitted :: rest, buffers, ledger => assemble env rest buffers ledger
  | .message held openEnded anchor :: rest, buffers, ledger => do
    let (others, last) ← assemble env rest buffers (settleText env ledger held)
    return (⟨⟨held.role, held.text, openEnded⟩, anchor.map fun key => ⟨key, .layout⟩⟩ :: others,
      last)
  | .slot name number omitIfEmpty header footer :: rest, buffers, ledger =>
    match buffers.lookup number with
    | none => .error (.missingBuffer name)
    | some buffer =>
      let left := buffers.filter fun entry => entry.1 != number
      if buffer.entries.isEmpty && omitIfEmpty then assemble env rest left ledger
      else do
        let settled := (header.toList ++ footer.toList).foldl (settleText env) ledger
        let (others, last) ← assemble env rest left settled
        return (header.toList.map HeldText.placed ++ buffer.entries.map (Entry.placed name) ++
          footer.toList.map HeldText.placed ++ others, last)

end ChatPrompt.Render
