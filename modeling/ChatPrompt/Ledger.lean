/-!
# The token ledger

The account of one render. It holds what has been spent of a capacity, what is set aside for
mandatory content that is still to come (the floors), and the caps that are open around what
is running. Optional content is charged only where it fits at every level; mandatory content
is charged whether it fits or not, and what is missing then is missing for everything else.

Amounts are 64-bit words: they wrap when a sum passes their range, and differences stop at
zero. The operations that stop instead where a sum would wrap are defined on top of these.
-/

namespace ChatPrompt

/-- An amount of tokens. -/
abbrev Tokens := UInt64

/-- The sum of some amounts. -/
def Tokens.total (amounts : List Tokens) : Tokens := amounts.foldr (· + ·) 0

/-- A difference that stops at zero. -/
def Tokens.minus (a b : Tokens) : Tokens := if a < b then 0 else a - b

/-- A limit on what runs inside it. -/
structure Cap where
  /-- What may be spent inside. -/
  limit : Tokens
  /-- What was spent inside so far. -/
  spent : Tokens
  deriving DecidableEq, Repr

/-- What may still be spent inside a cap. -/
def Cap.room (cap : Cap) : Tokens := cap.limit.minus cap.spent

/-- Optional content that did not fit. -/
structure Refusal where
  /-- The outermost level that could not take it: zero is the whole render, and caps count
  from one, outermost first. -/
  level : Nat
  /-- What it would have cost. -/
  tokens : Tokens
  deriving DecidableEq, Repr

/-- The account of a render. -/
structure Ledger where
  /-- What may be spent altogether. -/
  capacity : Tokens
  /-- What was spent so far. -/
  spent : Tokens
  /-- What is set aside, under the key of the content it is for. -/
  floors : List (String × Tokens)
  /-- The open caps, outermost first. -/
  caps : List Cap
  deriving DecidableEq, Repr

/-- What was spent, at every level, at some moment. -/
structure Checkpoint where
  /-- What was spent altogether. -/
  spent : Tokens
  /-- What was spent inside each cap, outermost first. -/
  capsSpent : List Tokens
  deriving DecidableEq, Repr

namespace Ledger

/-- An account of which nothing is spent. -/
def ofCapacity (capacity : Tokens) : Ledger := ⟨capacity, 0, [], []⟩

/-- What is set aside altogether. -/
def floorTotal (ledger : Ledger) : Tokens := Tokens.total (ledger.floors.map Prod.snd)

/-- What is neither spent nor set aside. -/
def available (ledger : Ledger) : Tokens :=
  (ledger.capacity.minus ledger.spent).minus ledger.floorTotal

/-- What optional content may still cost at the innermost level. -/
def remaining (ledger : Ledger) : Tokens :=
  ledger.caps.foldl (fun least cap => min least cap.room) ledger.available

/-- The outermost level that cannot take an amount, if there is one. -/
def refusalLevel? (ledger : Ledger) (tokens : Tokens) : Option Nat :=
  if ledger.available < tokens then some 0
  else (ledger.caps.findIdx? fun cap => cap.room < tokens).map (· + 1)

/-- Whether every level can take an amount. -/
def fits (ledger : Ledger) (tokens : Tokens) : Bool := (ledger.refusalLevel? tokens).isNone

/-- Spends an amount at every level, whether it fits or not. -/
def charge (ledger : Ledger) (tokens : Tokens) : Ledger :=
  { ledger with
    spent := ledger.spent + tokens
    caps := ledger.caps.map fun cap => { cap with spent := cap.spent + tokens } }

/-- Spends an amount if every level can take it. -/
def spend (ledger : Ledger) (tokens : Tokens) : Except Refusal Ledger :=
  match ledger.refusalLevel? tokens with
  | some level => .error ⟨level, tokens⟩
  | none => .ok (ledger.charge tokens)

/-- What is set aside under a key. -/
def floor? (ledger : Ledger) (key : String) : Option Tokens := ledger.floors.lookup key

/-- Adds to what is set aside under a key. -/
def addFloor (key : String) (tokens : Tokens) : List (String × Tokens) → List (String × Tokens)
  | [] => [(key, tokens)]
  | (k, held) :: rest =>
    if k = key then (k, held + tokens) :: rest else (k, held) :: addFloor key tokens rest

/-- Sets an amount aside under a key, on top of what is there. -/
def reserve (ledger : Ledger) (key : String) (tokens : Tokens) : Ledger :=
  { ledger with floors := addFloor key tokens ledger.floors }

/-- Gives up what is set aside under a key. -/
def release (ledger : Ledger) (key : String) : Ledger :=
  { ledger with floors := ledger.floors.filter fun floor => floor.1 != key }

/-- Spends the actual cost of content that a floor was for, which ends the floor. -/
def settle (ledger : Ledger) (key : String) (tokens : Tokens) : Ledger :=
  (ledger.release key).charge tokens

/-- Opens a cap inside those that are open. -/
def openCap (ledger : Ledger) (limit : Tokens) : Ledger :=
  { ledger with caps := ledger.caps ++ [⟨limit, 0⟩] }

/-- Closes the innermost cap. -/
def closeCap (ledger : Ledger) : Ledger := { ledger with caps := ledger.caps.dropLast }

/-- The level of the innermost cap, which is the number of open caps. -/
def depth (ledger : Ledger) : Nat := ledger.caps.length

/-- Opens a cap where a limit is given, and gives its level. -/
def openCap? (ledger : Ledger) : Option Tokens → Option Nat × Ledger
  | none => (none, ledger)
  | some limit => (some (ledger.depth + 1), ledger.openCap limit)

/-- Closes the innermost cap where one was opened. -/
def closeCap? (ledger : Ledger) (opened : Option Nat) : Ledger :=
  if opened.isSome then ledger.closeCap else ledger

/-- What is spent now. -/
def checkpoint (ledger : Ledger) : Checkpoint :=
  ⟨ledger.spent, ledger.caps.map Cap.spent⟩

/-- The caps with what was spent in each taken from a list, as far as that reaches. -/
def restoreCaps : List Cap → List Tokens → List Cap
  | cap :: caps, spent :: rest => { cap with spent := spent } :: restoreCaps caps rest
  | caps, _ => caps

/-- Goes back to what was spent at a checkpoint. Floors and limits stay. -/
def rollback (ledger : Ledger) (checkpoint : Checkpoint) : Ledger :=
  { ledger with
    spent := checkpoint.spent
    caps := restoreCaps ledger.caps checkpoint.capsSpent }

/-- Spending keeps the limits of all caps. -/
theorem limits_charge (ledger : Ledger) (tokens : Tokens) :
    (ledger.charge tokens).caps.map Cap.limit = ledger.caps.map Cap.limit := by
  simp [charge]

end Ledger

end ChatPrompt
