import ChatPrompt.Ledger

/-!
# Sums that are checked

The sums of a ledger wrap where they pass the range of amounts. A program can be built to check
them instead, and then it stops where one would wrap. The operations here are those of such a
program: they give a ledger only if no sum on the way leaves the range, and then it is the one that
wrapping operations give. What is charged only where it fits cannot leave the range once all that is
set aside is in it, so there is nothing to check in that.
-/

namespace ChatPrompt

namespace Tokens

/-- The sum of two amounts, if it is in the range. -/
def plus? (a b : Tokens) : Option Tokens :=
  if a.toNat + b.toNat < UInt64.size then some (a + b) else none

/-- The sum of some amounts, if it is in the range. -/
def total? : List Tokens → Option Tokens
  | [] => some 0
  | amount :: rest => do amount.plus? (← total? rest)

end Tokens

namespace Ledger

/-- Adds to what is set aside under a key, if the sum is in the range. -/
def addFloor? (key : String) (tokens : Tokens) :
    List (String × Tokens) → Option (List (String × Tokens))
  | [] => some [(key, tokens)]
  | (k, held) :: rest =>
    if k = key then do return (k, ← held.plus? tokens) :: rest
    else do return (k, held) :: (← addFloor? key tokens rest)

/-- Sets an amount aside under a key, on top of what is there. All that is set aside then is added
up as well, and that to what is spent, for a warning. -/
def reserve? (ledger : Ledger) (key : String) (tokens : Tokens) : Option Ledger := do
  let floors ← addFloor? key tokens ledger.floors
  let total ← Tokens.total? (floors.map Prod.snd)
  let _ ← ledger.spent.plus? total
  return { ledger with floors := floors }

/-- Spends an amount at every level, whether it fits or not. -/
def charge? (ledger : Ledger) (tokens : Tokens) : Option Ledger := do
  let spent ← ledger.spent.plus? tokens
  let caps ← ledger.caps.mapM fun cap => do return { cap with spent := ← cap.spent.plus? tokens }
  return { ledger with spent := spent, caps := caps }

/-- Spends the actual cost of content that a floor was for, which ends the floor. -/
def settle? (ledger : Ledger) (key : String) (tokens : Tokens) : Option Ledger :=
  (ledger.release key).charge? tokens

end Ledger

end ChatPrompt
