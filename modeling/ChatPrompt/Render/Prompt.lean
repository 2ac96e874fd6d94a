import ChatPrompt.Blueprint.Options
import ChatPrompt.Render.Report

/-!
# Rendering a prompt

A blueprint becomes a prompt: its layout is prepared and its lanes' reserves are set aside,
the slots are filled in their order, the layout is put together, and the requests of the
lanes are injected. In the end a message stays open for the model only if it is the last,
and each key is recorded at the first message that carries it.
-/

namespace ChatPrompt.Render

/-- A finished prompt. -/
structure Prompt where
  /-- The messages. -/
  messages : List Message
  /-- The places of those that carry a key. -/
  anchors : List Anchor
  /-- How it came about. -/
  report : Report

/-- The lanes of a render: those of the blueprint, each with the lane of the same name of the
options in its place, and the other lanes of the options. -/
def mergedLanes (blueprint : Blueprint) (options : RenderOptions) : List Blueprint.Lane :=
  blueprint.lanes.map (fun lane =>
      (options.attachments.find? fun other => other.id == lane.id).getD lane) ++
    options.attachments.filter fun other =>
      !(blueprint.lanes.any fun lane => lane.id == other.id)

/-- Sets aside the reserve of a lane. -/
def reserveLane (ledger : Ledger) (lane : Blueprint.Lane) : Ledger :=
  match lane.reserve with
  | none => ledger
  | some amount =>
    if amount = 0 then ledger else ledger.reserve (Injection.laneFloor lane.id) amount

/-- The messages with none open but the last. -/
def closeEarly : List Placed → List Placed
  | [] => []
  | [last] => [last]
  | entry :: rest =>
    { entry with message := { entry.message with openEnded := false } } :: closeEarly rest

/-- The places of the keys from an index on, each at the first message that carries it, given
the keys met before. -/
def anchorsFrom (index : Nat) (met : List String) : List Placed → List Anchor
  | [] => []
  | entry :: rest =>
    match entry.mark with
    | none => anchorsFrom (index + 1) met rest
    | some mark =>
      if met.contains mark.key then anchorsFrom (index + 1) met rest
      else ⟨mark.key, index, mark.origin⟩ :: anchorsFrom (index + 1) (mark.key :: met) rest

/-- A finished prompt over a ledger, and the ledger after it. -/
def renderOver (env : Environment) (blueprint : Blueprint) (options : RenderOptions)
    (ledger : Ledger) : Except Fault (Prompt × Ledger) := do
  let lanes := mergedLanes blueprint options
  let (prepared, ledger) := prepare env blueprint ledger
  let ledger := (lanes.filter Blueprint.Lane.enabled).foldl reserveLane ledger
  let (buffers, ledger) := fillSlots env blueprint prepared blueprint.order ledger
  let stats := buffers.map fun buffer => buffer.2.stats
  let (placed, ledger) ← assemble env prepared.nodes buffers ledger
  let injected := Injection.inject env.estimate lanes options.injections placed ledger
  let final := closeEarly injected.placed
  let report : Report :=
    ⟨ledger.capacity, injected.ledger.spent, prepared.floorTokens, stats, injected.lanes,
      stats.filterMap slotDrop ++ injected.drops⟩
  return (⟨final.map Placed.message, anchorsFrom 0 [] final, report⟩, injected.ledger)

/-- A finished prompt for which so much may be spent. -/
def render (env : Environment) (blueprint : Blueprint) (options : RenderOptions)
    (capacity : Tokens) : Except Fault Prompt :=
  (renderOver env blueprint options (Ledger.ofCapacity capacity)).map Prod.fst

end ChatPrompt.Render
