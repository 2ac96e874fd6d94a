import ChatPrompt.Render.Plan

/-!
# Filling a slot

A slot is filled by running its plan under its own budget, unless its condition does not
hold. Together with the messages it reports what it cost and what its loops did.
-/

namespace ChatPrompt.Render

/-- What filling a slot did. -/
structure SlotStats where
  /-- The name of the slot. -/
  name : String
  /-- Its priority. -/
  priority : Int32
  /-- What its messages cost. -/
  tokens : Tokens
  /-- The number of its messages. -/
  messages : Nat
  /-- What its loops did, and whether anything was refused. -/
  tally : Tally
  /-- Whether its condition did not hold. -/
  skipped : Bool
  deriving DecidableEq, Repr

/-- What a slot is filled with. -/
structure SlotBuffer where
  /-- The messages. -/
  entries : List Entry
  /-- How they came about. -/
  stats : SlotStats
  deriving DecidableEq, Repr

/-- Whether a slot is to be filled. -/
def isWanted (env : Environment) (slot : Blueprint.Slot) : Bool :=
  match slot.condition with
  | none => true
  | some condition => env.holds env.root condition

/-- What a slot is filled with, and the ledger after it. -/
def fillSlot (env : Environment) (slot : Blueprint.Slot) (ledger : Ledger) :
    SlotBuffer × Ledger :=
  if isWanted env slot then
    let (own, opened) := ledger.openCap? slot.budget
    let run := runNodes env env.root false slot.plan opened
    let after := run.ledger.closeCap? own
    let tally := run.tally.add ⟨0, 0, 0, run.outcome.level?.isSome⟩
    (⟨run.entries, ⟨slot.name, slot.priority, Tokens.minus after.spent ledger.spent,
      run.entries.length, tally, false⟩⟩, after)
  else (⟨[], ⟨slot.name, slot.priority, 0, 0, .zero, true⟩⟩, ledger)

end ChatPrompt.Render
