import ChatPrompt.Ledger.Checked
import ChatPrompt.Render.Prompt

/-!
# Rendering with checked sums

A render of a program that checks its sums stops where one leaves the range of amounts. It gets no
further then than to the point where everything is set aside: all that is spent later either fits
beside it or was set aside. So the sums up to there are checked, and if they are in the range, the
prompt is the one that is rendered with wrapping sums.
-/

namespace ChatPrompt.Render

/-- Why a render with checked sums gives no prompt. -/
inductive Stop where
  /-- A sum leaves the range of amounts. -/
  | overflow
  /-- The layout cannot be put together. -/
  | fault (fault : Fault)
  deriving DecidableEq, Repr

/-- Sets aside what a text costs, if all sums are in the range. -/
def reserveText? (env : Environment) (ledger : Ledger) (held : HeldText) : Option Ledger :=
  ledger.reserve? held.floor (env.estimate held.text)

/-- The layout with its texts rendered, and the ledger with their cost set aside, if all sums are
in the range. -/
def prepare? (env : Environment) (blueprint : Blueprint) (ledger : Ledger) :
    Option (PreparedLayout × Ledger) := do
  let prepared := (prepare env blueprint ledger).1
  let texts := prepared.nodes.flatMap PreparedNode.texts
  let reserved ← texts.foldlM (reserveText? env) ledger
  let floorTokens ← Tokens.total? (texts.map fun held => env.estimate held.text)
  return (⟨prepared.nodes, floorTokens⟩, reserved)

/-- Sets aside the reserve of a lane, if all sums are in the range. -/
def reserveLane? (ledger : Ledger) (lane : Blueprint.Lane) : Option Ledger :=
  match lane.reserve with
  | none => some ledger
  | some amount =>
    if amount = 0 then some ledger else ledger.reserve? (Injection.laneFloor lane.id) amount

/-- The ledger with everything set aside, if all sums are in the range. -/
def reserved? (env : Environment) (blueprint : Blueprint) (options : RenderOptions)
    (ledger : Ledger) : Option Ledger := do
  let (_, prepared) ← prepare? env blueprint ledger
  ((mergedLanes blueprint options).filter Blueprint.Lane.enabled).foldlM reserveLane? prepared

/-- A finished prompt for which so much may be spent, if all sums are in the range. -/
def renderChecked (env : Environment) (blueprint : Blueprint) (options : RenderOptions)
    (capacity : Tokens) : Except Stop Prompt :=
  match reserved? env blueprint options (Ledger.ofCapacity capacity) with
  | none => .error .overflow
  | some _ => (render env blueprint options capacity).mapError .fault

end ChatPrompt.Render
