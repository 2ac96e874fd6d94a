import ChatPrompt.Injection.Lanes
import ChatPrompt.Number.Text

/-!
# The report of a render

What a render did: what it cost, what its slots and lanes did, and what was dropped. How full
the prompt is, in percent, is computed in single precision, each step rounded.
-/

namespace ChatPrompt.Render

open Number

/-- How full a prompt is, in percent, as a single precision number in units. A prompt for
which nothing may be spent is empty or full. -/
def utilization (capacity spent : Tokens) : Nat :=
  let single := Format.binary32
  if capacity = 0 then if spent = 0 then 0 else single.round 100 1
  else
    let share := single.round (single.round spent.toNat 1) (single.round capacity.toNat 1)
    single.round (share * 100) single.one

/-- The text of a percentage. -/
def percentText (units : Nat) : String := Format.binary32.write .single false units

/-- What a render did. -/
structure Report where
  /-- What might be spent. -/
  capacity : Tokens
  /-- What was spent. -/
  spent : Tokens
  /-- What the layout's own texts cost. -/
  floorTokens : Tokens
  /-- What each slot did, in the order in which they were filled. -/
  slots : List SlotStats
  /-- What each lane did, in their order. -/
  lanes : List Injection.LaneStats
  /-- What was dropped. -/
  drops : List Injection.Drop

/-- What a slot dropped, if anything. -/
def slotDrop (stats : SlotStats) : Option Injection.Drop :=
  if 0 < stats.tally.dropped then
    some ⟨"slot:" ++ stats.name, stats.tally.dropped, .exhausted⟩
  else none

end ChatPrompt.Render
