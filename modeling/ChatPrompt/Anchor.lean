import ChatPrompt.Json.Record

/-!
# Anchors

A message may carry a key under which its place in the finished prompt is recorded, so that
other messages can be put next to it. The record also says whether the message comes from the
layout itself or from a slot.
-/

namespace ChatPrompt

/-- Where a message with a key comes from. -/
inductive Origin where
  /-- From the layout. -/
  | layout
  /-- From the slot of a name. -/
  | slot (name : String)
  deriving DecidableEq, Repr

/-- The place of a message in the finished prompt. -/
structure Anchor where
  /-- The key that the message carries. -/
  key : String
  /-- Its place, counted from zero. -/
  index : Nat
  /-- Where it comes from. -/
  origin : Origin
  deriving DecidableEq, Repr

/-- The fields that say where a message comes from. -/
def Origin.toFields : Origin → Json.Fields
  | .layout => [("source", .string "layout")]
  | .slot name => [("source", .string "slot"), ("slotName", .string name)]

/-- Where a message comes from, as a value. -/
def Origin.toJson (origin : Origin) : Json := .object origin.toFields

/-- An anchor as a value. -/
def Anchor.toJson (anchor : Anchor) : Json :=
  .object ([("key", .string anchor.key), ("index", .ofNat anchor.index)] ++
    anchor.origin.toFields)

/-- The kinds of origins. -/
inductive Origin.Kind where
  /-- The layout. -/
  | layout
  /-- A slot. -/
  | slot
  deriving DecidableEq, Repr

/-- The kinds of origins with their words, in their order. -/
def Origin.kinds : List (String × Origin.Kind) := [("layout", .layout), ("slot", .slot)]

/-- The origin that the fields of a record describe. -/
def Origin.ofFields? (fields : Json.Fields) : Option Origin := do
  let kind ← Record.required? "source" (Record.kind? .buffered Origin.kinds) fields
  match kind with
  | .layout => some .layout
  | .slot => (Record.required? "slotName" Record.text? fields).map .slot

/-- The anchor that a value describes. It has to be an object. -/
def Anchor.ofJson? : Json → Option Anchor
  | .object fields => do
    let key ← Record.required? "key" Record.text? fields
    let index ← Record.required? "index" Record.natural? fields
    let origin ← Origin.ofFields? fields
    some ⟨key, index, origin⟩
  | _ => none

end ChatPrompt
