import ChatPrompt.Injection.Block
import ChatPrompt.Injection.Position

/-!
# Injecting into a prompt

The lanes that are used are gone through in their order. Each first gives up what was set
aside for it, so that its blocks can spend it. The entries of its blocks are admitted one
after the other while the message they make fits; the first that does not fit ends the lane.
All messages of a lane are put in at once, so that their gaps are those of the prompt before
the lane, while later lanes see them.
-/

namespace ChatPrompt.Injection

open Render

/-- What a lane did. -/
structure LaneStats where
  /-- The name of the lane. -/
  id : String
  /-- What its messages cost. -/
  tokens : Tokens
  /-- The requests that went into the prompt. -/
  included : Nat
  /-- The requests that were addressed to it. -/
  total : Nat
  /-- The messages that it put in. -/
  blocks : Nat
  deriving DecidableEq, Repr

/-- Why something was dropped. -/
inductive DropReason where
  /-- It did not fit. -/
  | exhausted
  /-- It said nothing. -/
  | empty
  deriving DecidableEq, Repr

/-- The wording of a reason. -/
def DropReason.text : DropReason → String
  | .exhausted => "budget exhausted"
  | .empty => "rendered empty"

/-- What was dropped. -/
structure Drop where
  /-- The slot or lane in which it was dropped. -/
  scope : String
  /-- How much was dropped. -/
  count : Nat
  /-- Why. -/
  reason : DropReason
  deriving DecidableEq, Repr

/-- The key under which the reserve of a lane is set aside. -/
def laneFloor (id : String) : String := "lane:" ++ id

/-- The entries of a block that are admitted after some others: as many as make a message
that fits. Also says whether one did not. -/
def accept (fits : List String → Bool) : List String → List String → List String × Bool
  | accepted, [] => (accepted, false)
  | accepted, entry :: rest =>
    if fits (accepted ++ [entry]) then accept fits (accepted ++ [entry]) rest
    else (accepted, true)

/-- A lane between two blocks. -/
structure LaneState where
  /-- The ledger. -/
  ledger : Ledger
  /-- What the messages cost so far. -/
  tokens : Tokens
  /-- The number of requests in the messages so far. -/
  included : Nat
  /-- The messages so far, each with its gap. -/
  inserts : List (Nat × Placed)
  /-- Whether anything did not fit. -/
  exhausted : Bool

/-- The lane after the entries of a block that were admitted became a message. -/
def LaneState.insert (estimate : Estimator) (lane : Blueprint.Lane) (placed : List Placed)
    (block : Block) (accepted : List String) (state : LaneState) : LaneState :=
  let text := compose lane block.group accepted
  match state.ledger.spend (estimate text) with
  | .error _ => { state with exhausted := true }
  | .ok charged =>
    { state with
      ledger := charged
      tokens := state.tokens + estimate text
      included := state.included + accepted.length
      inserts := state.inserts ++
        [(position block.targets placed, ⟨Message.of lane.role text, none⟩)] }

/-- The lane after a block. -/
def LaneState.add (estimate : Estimator) (lane : Blueprint.Lane) (placed : List Placed)
    (state : LaneState) (block : Block) : LaneState :=
  if state.exhausted then state
  else
    let fits (entries : List String) : Bool :=
      state.ledger.fits (estimate (compose lane block.group entries))
    let (accepted, exhausted) := accept fits [] block.entries
    let noted := { state with exhausted := exhausted }
    if accepted.isEmpty then noted
    else noted.insert estimate lane placed block accepted

/-- What injecting into a prompt did. -/
structure Injected where
  /-- The messages of the prompt. -/
  placed : List Placed
  /-- The ledger. -/
  ledger : Ledger
  /-- What each lane did. -/
  lanes : List LaneStats
  /-- What was dropped. -/
  drops : List Drop

/-- What a lane dropped, if anything. -/
def laneDrop (stats : LaneStats) (exhausted : Bool) : Option Drop :=
  if stats.included < stats.total then
    some ⟨laneFloor stats.id, stats.total - stats.included,
      if exhausted then .exhausted else .empty⟩
  else none

/-- Injects the requests of one lane. -/
def injectLane (estimate : Estimator) (requests : List Request) (before : Injected)
    (lane : Blueprint.Lane) : Injected :=
  let mine := served lane.id requests
  let state := (blocks lane mine).foldl (LaneState.add estimate lane before.placed)
    ⟨before.ledger.release (laneFloor lane.id), 0, 0, [], false⟩
  let stats : LaneStats :=
    ⟨lane.id, state.tokens, state.included, mine.length, state.inserts.length⟩
  ⟨weave before.placed state.inserts, state.ledger, before.lanes ++ [stats],
    before.drops ++ (laneDrop stats state.exhausted).toList⟩

/-- The lanes that are used, in their order; those of equal order by their names. -/
def lanesInOrder (lanes : List Blueprint.Lane) : List Blueprint.Lane :=
  (lanes.filter Blueprint.Lane.enabled).mergeSort fun a b =>
    a.order < b.order || (a.order == b.order && a.id ≤ b.id)

/-- Injects all requests. -/
def inject (estimate : Estimator) (lanes : List Blueprint.Lane) (requests : List Request)
    (placed : List Placed) (ledger : Ledger) : Injected :=
  (lanesInOrder lanes).foldl (injectLane estimate requests) ⟨placed, ledger, [], []⟩

end ChatPrompt.Injection
