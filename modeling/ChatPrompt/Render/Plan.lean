import ChatPrompt.Render.Environment

/-!
# Running a plan

A plan is run over a ledger and generates messages. A node with a budget of its own opens a
cap for what runs inside it. When a message does not fit, the refusal names the outermost
level that could not take it. A node contains the refusals of its own cap: a message is left
out, a loop ends or goes on with the next item. Those of other levels are passed outwards,
so that an exhausted slot ends every loop inside it, while an exhausted loop ends only
itself.

The items of a loop are taken whole: if a message of an item is refused and the item does not
contain the refusal, everything that the item spent is given back and its messages are
dropped. What was counted stays counted.
-/

namespace ChatPrompt.Render

/-- A generated message, with the key that it carries. -/
structure Entry where
  /-- The message. -/
  message : Message
  /-- Its key. -/
  anchor : Option String
  deriving DecidableEq, Repr

/-- What loops did, counted over all loops of a plan. -/
structure Tally where
  /-- Items that were kept. -/
  included : Nat
  /-- Items that there were. -/
  total : Nat
  /-- Items that were dropped or never reached. -/
  dropped : Nat
  /-- Whether anything was refused. -/
  truncated : Bool
  deriving DecidableEq, Repr

namespace Tally

/-- Nothing was counted. -/
def zero : Tally := ⟨0, 0, 0, false⟩

/-- Two counts together. -/
def add (a b : Tally) : Tally :=
  ⟨a.included + b.included, a.total + b.total, a.dropped + b.dropped,
    a.truncated || b.truncated⟩

end Tally

/-- The outer one of two levels, if any. -/
def outermost : Option Nat → Option Nat → Option Nat
  | some a, some b => some (min a b)
  | some a, none => some a
  | none, b => b

/-- How a run ended. -/
inductive Outcome where
  /-- It went through; the level is the outermost that refused something on the way and was
  not contained. -/
  | finished (signal : Option Nat)
  /-- It was given up because a level refused something. -/
  | refused (level : Nat)
  deriving DecidableEq, Repr

namespace Outcome

/-- Whether the run was given up. -/
def isRefused : Outcome → Bool
  | .finished _ => false
  | .refused _ => true

/-- The level that refused something, if any. -/
def level? : Outcome → Option Nat
  | .finished signal => signal
  | .refused level => some level

/-- How two runs ended, one after the other. -/
def followedBy (first : Outcome) : Outcome → Outcome
  | .finished signal => .finished (outermost first.level? signal)
  | .refused level => .refused level

end Outcome

/-- What a run did. -/
structure Step where
  /-- The ledger after it. -/
  ledger : Ledger
  /-- The messages it generated. -/
  entries : List Entry
  /-- What its loops did. -/
  tally : Tally
  /-- How it ended. -/
  outcome : Outcome

/-- A run that did nothing. -/
def Step.idle (ledger : Ledger) : Step := ⟨ledger, [], .zero, .finished none⟩

/-- A message of a plan: left out if it says nothing, and charged otherwise. -/
def say (env : Environment) (scope : Scope) (message : Blueprint.Message) (ledger : Ledger) :
    Step :=
  match Text.contentful? (env.text scope message.content) with
  | none => Step.idle ledger
  | some text =>
    let (own, opened) := ledger.openCap? message.budget
    match opened.spend (env.estimate text) with
    | .ok charged =>
      ⟨charged.closeCap? own,
        [⟨Message.of message.role text, anchorKey scope message.anchor⟩], .zero,
        .finished none⟩
    | .error refusal =>
      if own = some refusal.level then
        ⟨opened.closeCap? own, [], ⟨0, 0, 0, true⟩, .finished none⟩
      else ⟨opened.closeCap? own, [], .zero, .refused refusal.level⟩

/-- The items of a loop in the order in which they are taken. -/
def loopItems (env : Environment) (scope : Scope) (header : Blueprint.Loop) : List Json :=
  let found := env.items scope header.source
  let sorted := match header.sortBy with
    | none => found
    | some path => Value.sortBy (Segment.walk path.asSteps) found
  let directed := match header.order with
    | .ascending => sorted
    | .descending => sorted.reverse
  match header.limit with
  | none => directed
  | some limit => directed.take limit

/-- The scope of an item: the item and its number are bound under two names each. -/
def itemScope (scope : Scope) (index : Nat) (item : Json) : Scope :=
  scope.child [("item", item), ("$item", item), ("index", .ofNat index),
    ("$index", .ofNat index)]

/-- The messages of an item with the separator on the side of the items before it. -/
def withSeparator (filling : Template.Filling) (separator : Entry) (group : List Entry) :
    List Entry :=
  match filling with
  | .appending => separator :: group
  | .prepending => group ++ [separator]

/-- The separator of an item, where one is due and says something. -/
def separatorOf (header : Blueprint.Loop) (scope : Scope) (groups : List (List Entry))
    (group : List Entry) : Option Message :=
  if group.isEmpty || groups.isEmpty then none
  else header.separator.bind fun frame =>
    (Text.contentful? (frame.content.render scope)).map (Message.of frame.role)

/-- The run of an item, with the separator charged and put in place. If that is refused, so
is the item. -/
def separate (env : Environment) (header : Blueprint.Loop) (scope : Scope)
    (groups : List (List Entry)) (run : Step) : Step :=
  if run.outcome.isRefused then run
  else
    match separatorOf header scope groups run.entries with
    | none => run
    | some separator =>
      match run.ledger.spend (env.cost separator) with
      | .ok charged =>
        { run with
          ledger := charged
          entries := withSeparator header.filling ⟨separator, none⟩ run.entries }
      | .error refusal => { run with outcome := .refused refusal.level }

/-- A loop between two items. -/
structure LoopState where
  /-- The ledger. -/
  ledger : Ledger
  /-- The messages of each item that had any, in the order of the items. -/
  groups : List (List Entry)
  /-- What was counted so far. -/
  tally : Tally
  /-- The outermost level outside the loop that refused something. -/
  signal : Option Nat

namespace LoopState

/-- The loop after an item that is kept. -/
def keep (state : LoopState) (run : Step) : LoopState :=
  ⟨run.ledger, if run.entries.isEmpty then state.groups else state.groups ++ [run.entries],
    (state.tally.add run.tally).add ⟨1, 0, 0, false⟩, state.signal⟩

/-- The loop after an item that is dropped: the ledger goes back to what was spent before. -/
def drop (state : LoopState) (run : Step) : LoopState :=
  ⟨run.ledger.rollback state.ledger.checkpoint, state.groups,
    (state.tally.add run.tally).add ⟨0, 0, 1, false⟩, state.signal⟩

/-- The loop after an item. -/
def take (state : LoopState) (run : Step) : LoopState :=
  if run.outcome.isRefused then state.drop run else state.keep run

/-- The loop after it learnt that a level refused something. -/
def note (state : LoopState) (own : Option Nat) (level : Nat) : LoopState :=
  { state with
    tally := state.tally.add ⟨0, 0, 0, true⟩
    signal := if own = some level then state.signal else outermost state.signal (some level) }

/-- The loop after it gave up the items that are left. -/
def stop (state : LoopState) (left : Nat) : LoopState :=
  { state with tally := state.tally.add ⟨0, 0, left, false⟩ }

end LoopState

/-- Takes the items of a loop one after the other, given how an item is run. -/
def takeItems (env : Environment) (header : Blueprint.Loop) (own : Option Nat) (scope : Scope)
    (body : Scope → Ledger → Step) : List Json → Nat → LoopState → LoopState
  | [], _, state => state
  | item :: rest, index, state =>
    let inner := itemScope scope index item
    let run := separate env header inner state.groups (body inner state.ledger)
    let after := state.take run
    match run.outcome.level? with
    | none => takeItems env header own scope body rest (index + 1) after
    | some level =>
      let noted := after.note own level
      if header.stopsWhenFull then noted.stop rest.length
      else takeItems env header own scope body rest (index + 1) noted

/-- The messages of a loop in the order in which they are put. -/
def arranged (filling : Template.Filling) (groups : List (List Entry)) : List Entry :=
  match filling with
  | .appending => groups.flatten
  | .prepending => groups.reverse.flatten

/-- A loop, given how an item is run. -/
def runLoop (env : Environment) (header : Blueprint.Loop) (scope : Scope)
    (body : Scope → Ledger → Step) (ledger : Ledger) : Step :=
  let items := loopItems env scope header
  let (own, opened) := ledger.openCap? header.budget
  let state := takeItems env header own scope body items 0
    ⟨opened, [], ⟨0, items.length, 0, false⟩, none⟩
  ⟨state.ledger.closeCap? own, arranged header.filling state.groups, state.tally,
    .finished state.signal⟩

mutual

/-- A node of a plan. Where runs are atomic, the first refusal ends them. -/
def runNode (env : Environment) (scope : Scope) (atomic : Bool) :
    Blueprint.PlanNode → Ledger → Step
  | .message details, ledger => say env scope details ledger
  | .forEach header body, ledger =>
    runLoop env header scope (fun inner before => runNodes env inner true body before) ledger
  | .branch condition whenTrue whenFalse, ledger =>
    if env.holds scope condition then runNodes env scope atomic whenTrue ledger
    else runNodes env scope atomic whenFalse ledger

/-- Nodes of a plan one after the other. -/
def runNodes (env : Environment) (scope : Scope) (atomic : Bool) :
    List Blueprint.PlanNode → Ledger → Step
  | [], ledger => Step.idle ledger
  | node :: rest, ledger =>
    let first := runNode env scope atomic node ledger
    if atomic && first.outcome.isRefused then first
    else
      let others := runNodes env scope atomic rest first.ledger
      ⟨others.ledger, first.entries ++ others.entries, first.tally.add others.tally,
        first.outcome.followedBy others.outcome⟩

end

end ChatPrompt.Render
