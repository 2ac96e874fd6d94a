import ChatPrompt.Proofs.Charging

/-!
# Dropped items leave no trace

An item of a loop may be given up late, after messages of its own, after loops inside it and under
caps that were open then. What it charged is taken back at every level all the same: the ledger is
the one before the item, and none of its messages is kept. So the items after it run as they would
if it had charged nothing, and a whole loop charges and says what the items do that it keeps, one
after the other.
-/

namespace ChatPrompt.Render

namespace LoopState

/-- The loop after it has dealt with an item: it takes the run of the item, and notes what was
refused in it. -/
def afterItem (state : LoopState) (own : Option Nat) (run : Step) : LoopState :=
  match run.outcome.level? with
  | none => state.take run
  | some level => (state.take run).note own level

/-- What the items so far have charged and said: what is counted and passed on is left out. -/
def content (state : LoopState) : Ledger × List (List Entry) := (state.ledger, state.groups)

/-- What is noted about an item changes neither what it charged nor what it said. -/
theorem content_afterItem (state : LoopState) (own : Option Nat) (run : Step) :
    (state.afterItem own run).content = (state.take run).content := by
  rw [afterItem]
  cases run.outcome.level? <;> rfl

/-- An item that goes through is kept. -/
theorem take_of_not_isRefused (state : LoopState) {run : Step}
    (h : ¬run.outcome.isRefused = true) : state.take run = state.keep run := if_neg h

end LoopState

/-- A run that is given up names the level that refused something. -/
theorem isSome_level?_of_isRefused {outcome : Outcome} (h : outcome.isRefused = true) :
    outcome.level?.isSome = true := by
  cases outcome with
  | finished signal => cases h
  | refused level => rfl

variable (env : Environment)

/-- An item that is given up leaves the loop with what it had: all that its run charged, at any
level, is taken back. -/
theorem Step.Charges.content_afterItem {state : LoopState} {run : Step}
    (hrun : run.Charges env state.ledger) (own : Option Nat)
    (h : run.outcome.isRefused = true) : (state.afterItem own run).content = state.content := by
  rw [state.content_afterItem, LoopState.take, if_pos h]
  exact congrArg (·, state.groups) (hrun.rollback_eq env)

/-- What a loop does for an item: it runs its nodes until one of them is refused. -/
def bodyOf (nodes : List Blueprint.PlanNode) : Scope → Ledger → Step :=
  fun inner before => runNodes env inner true nodes before

section Loop

variable (header : Blueprint.Loop) (scope : Scope) (body : Scope → Ledger → Step)

/-- After an item a loop goes on with the others, unless something was refused and it stops then. -/
theorem takeItems_cons_eq (own : Option Nat) (item : Json) (rest : List Json) (index : Nat)
    (state : LoopState) :
    takeItems env header own scope body (item :: rest) index state =
      if header.stopsWhenFull &&
          (itemRun env header scope body index item state).outcome.level?.isSome then
        (state.afterItem own (itemRun env header scope body index item state)).stop rest.length
      else takeItems env header own scope body rest (index + 1)
        (state.afterItem own (itemRun env header scope body index item state)) := by
  rw [takeItems_cons, LoopState.afterItem]
  cases (itemRun env header scope body index item state).outcome.level? with
  | none =>
    dsimp only
    rw [Option.isSome_none, Bool.and_false]
    rfl
  | some level =>
    dsimp only
    rw [Option.isSome_some, Bool.and_true]

/-- The run of an item depends on what was charged and said before it, and on nothing else. -/
theorem itemRun_congr {state other : LoopState} (h : state.content = other.content) (index : Nat)
    (item : Json) :
    itemRun env header scope body index item state =
      itemRun env header scope body index item other := by
  have hledger : state.ledger = other.ledger := congrArg Prod.fst h
  have hgroups : state.groups = other.groups := congrArg Prod.snd h
  rw [itemRun, itemRun, hledger, hgroups]

/-- What an item leaves depends on what was charged and said before it. -/
theorem content_afterItem_congr {state other : LoopState} (h : state.content = other.content)
    (own : Option Nat) (run : Step) :
    (state.afterItem own run).content = (other.afterItem own run).content := by
  have hledger : state.ledger = other.ledger := congrArg Prod.fst h
  have hgroups : state.groups = other.groups := congrArg Prod.snd h
  rw [state.content_afterItem, other.content_afterItem, LoopState.take, LoopState.take]
  split
  · simp only [LoopState.content, LoopState.drop, hledger, hgroups]
  · simp only [LoopState.content, LoopState.keep, hgroups]

/-- What the items of a loop charge and say depends on what was charged and said before them. -/
theorem content_takeItems_congr (own : Option Nat) (items : List Json) (index : Nat)
    {state other : LoopState} (h : state.content = other.content) :
    (takeItems env header own scope body items index state).content =
      (takeItems env header own scope body items index other).content := by
  induction items generalizing index state other with
  | nil => exact h
  | cons item rest ih =>
    have hafter := content_afterItem_congr h own
      (itemRun env header scope body index item other)
    rw [takeItems_cons_eq, takeItems_cons_eq, itemRun_congr env header scope body h]
    split
    · exact hafter
    · exact ih (index + 1) hafter

/-- The items that a loop keeps, with their numbers, where it goes on from a dropped item with what
it had before it. -/
def keptItems : List Json → Nat → LoopState → List (Json × Nat)
  | [], _, _ => []
  | item :: rest, index, state =>
    let run := itemRun env header scope body index item state
    let ends := header.stopsWhenFull && run.outcome.level?.isSome
    if run.outcome.isRefused then if ends then [] else keptItems rest (index + 1) state
    else (item, index) :: if ends then [] else keptItems rest (index + 1) (state.keep run)

/-- A loop after some items, all of which it keeps. -/
def keepItems (items : List (Json × Nat)) (state : LoopState) : LoopState :=
  items.foldl (fun state numbered =>
    state.keep (itemRun env header scope body numbered.2 numbered.1 state)) state

/-- The items that a loop keeps are some of its items, in their order and with their numbers. -/
theorem keptItems_sublist (items : List Json) (index : Nat) (state : LoopState) :
    (keptItems env header scope body items index state).Sublist (items.zipIdx index) := by
  induction items generalizing index state with
  | nil => exact List.Sublist.refl _
  | cons item rest ih =>
    rw [keptItems, List.zipIdx_cons]
    split
    · split
      · exact List.nil_sublist _
      · exact (ih (index + 1) state).cons _
    · split
      · exact (List.nil_sublist _).cons_cons _
      · exact (ih (index + 1) _).cons_cons _

variable {body} (hbody : ∀ inner before, (body inner before).Charges env before)

include hbody

/-- The items of a loop charge and say what those do that it keeps, one after the other. -/
theorem content_takeItems (own : Option Nat) (items : List Json) (index : Nat)
    (state : LoopState) :
    (takeItems env header own scope body items index state).content =
      (keepItems env header scope body
        (keptItems env header scope body items index state) state).content := by
  induction items generalizing index state with
  | nil => rfl
  | cons item rest ih =>
    have hrun := itemRun_charges env header scope body hbody index item state
    rw [takeItems_cons_eq, keptItems]
    by_cases hrefused :
        (itemRun env header scope body index item state).outcome.isRefused = true
    · -- counts and signal have moved on, so only the contents of the two states agree
      have hafter := hrun.content_afterItem env own hrefused
      rw [if_pos hrefused]
      split
      · exact hafter
      · rw [content_takeItems_congr env header scope body own rest (index + 1) hafter]
        exact ih (index + 1) state
    · have hafter : (state.afterItem own
            (itemRun env header scope body index item state)).content =
          (state.keep (itemRun env header scope body index item state)).content := by
        rw [LoopState.content_afterItem, LoopState.take_of_not_isRefused _ hrefused]
      rw [if_neg hrefused]
      split
      · exact hafter
      · rw [content_takeItems_congr env header scope body own rest (index + 1) hafter]
        exact ih (index + 1) _

end Loop

/-- An item that is given up, wherever in its nodes or at its separator, leaves no trace. The
ledger after it is the one before it, in all its parts, and the messages that the loop keeps are
those before it; any item runs from there as it would have before, and so do all that are left, if
the loop does not stop. In all, the loop charges and says what the items do that it keeps, which
are some of its items in their order. -/
theorem dropped_items_leave_no_trace (header : Blueprint.Loop) (nodes : List Blueprint.PlanNode)
    (scope : Scope) :
    (∀ (own : Option Nat) (index : Nat) (item : Json) (state : LoopState),
      let run := itemRun env header scope (bodyOf env nodes) index item state
      run.outcome.isRefused = true →
        (state.afterItem own run).ledger = state.ledger ∧
        (state.afterItem own run).groups = state.groups ∧
        (∀ number next,
          itemRun env header scope (bodyOf env nodes) number next (state.afterItem own run) =
            itemRun env header scope (bodyOf env nodes) number next state) ∧
        ∀ rest,
          (takeItems env header own scope (bodyOf env nodes) (item :: rest) index state).content =
            if header.stopsWhenFull then state.content
            else (takeItems env header own scope (bodyOf env nodes) rest (index + 1)
              state).content) ∧
    ∀ (atomic : Bool) (ledger : Ledger),
      let start := LoopState.start env header scope ledger
      let kept := keptItems env header scope (bodyOf env nodes) (loopItems env scope header) 0 start
      let last := keepItems env header scope (bodyOf env nodes) kept start
      kept.Sublist (loopItems env scope header).zipIdx ∧
        (runNode env scope atomic (.forEach header nodes) ledger).ledger =
          last.ledger.closeCap? (ledger.openCap? header.budget).1 ∧
        (runNode env scope atomic (.forEach header nodes) ledger).entries =
          arranged header.filling last.groups := by
  have hbody : ∀ inner before, (bodyOf env nodes inner before).Charges env before :=
    fun inner before => runNodes_charges env inner true nodes before
  constructor
  · intro own index item state run hrefused
    have hafter : (state.afterItem own run).content = state.content :=
      (itemRun_charges env header scope _ hbody index item state).content_afterItem env own hrefused
    refine ⟨congrArg Prod.fst hafter, congrArg Prod.snd hafter,
      fun number next => itemRun_congr env header scope _ hafter number next, fun rest => ?_⟩
    rw [takeItems_cons_eq, isSome_level?_of_isRefused hrefused, Bool.and_true]
    split
    · exact hafter
    · exact content_takeItems_congr env header scope _ own rest (index + 1) hafter
  · intro atomic ledger start kept last
    have hitems := content_takeItems env header scope hbody (ledger.openCap? header.budget).1
      (loopItems env scope header) 0 start
    refine ⟨keptItems_sublist env header scope _ _ 0 start, ?_, ?_⟩
    · rw [runNode, runLoop_eq]
      exact congrArg (Ledger.closeCap? · _) (congrArg Prod.fst hitems)
    · rw [runNode, runLoop_eq]
      exact congrArg (arranged _) (congrArg Prod.snd hitems)

end ChatPrompt.Render

namespace ChatPrompt.Sample

open Render

/-- What is done for a tale: its parts are told by a loop of their own, a word follows that is too
long for its cap, and an end that is not optional for the tale. -/
def taleNodes : List Blueprint.PlanNode :=
  [.forEach ⟨⟨.scope ⟨"item", []⟩, .literal .null⟩, .ascending, none, none, .appending, none, none,
      true⟩
    [.message ⟨.user, .text ⟨"\x7b\x7bitem\x7d\x7d", [.value (.path ⟨"item", []⟩)]⟩, false, none,
      none⟩],
  .message ⟨.user, .text ⟨"so", [.text "so"]⟩, false, none, some 1⟩,
  .message ⟨.user, .text ⟨"end.", [.text "end."]⟩, false, none, none⟩]

/-- A loop over tales that goes on after one that does not fit. -/
def talesLoop : Blueprint.Loop :=
  ⟨⟨.scope ⟨"tales", []⟩, .literal .null⟩, .ascending, none, none, .appending, none, none, false⟩

/-- A tale of two parts and one of a single part, with a token for each character. -/
def talesEnvironment : Environment where
  sources := Registry.empty
  context := .object [("tales", .array [.array [.string "a", .string "b"], .array [.string "c"]])]
  estimate := Estimator.characters

/-- The loop over the tales before the first of them, with room for five tokens. -/
def talesStart : LoopState :=
  LoopState.start talesEnvironment talesLoop talesEnvironment.root (Ledger.ofCapacity 5)

/-- The run of a tale. -/
def taleRun (index : Nat) (tale : Json) (state : LoopState) : Step :=
  itemRun talesEnvironment talesLoop talesEnvironment.root (bodyOf talesEnvironment taleNodes) index
    tale state

/-- The run of the first tale. -/
def firstTale : Step := taleRun 0 (.array [.string "a", .string "b"]) talesStart

end ChatPrompt.Sample

namespace ChatPrompt.Render

open Sample in
/-- The first tale tells its two parts and has no room for its end. The second one has all the room
there was, and is told. -/
theorem dropped_items_leave_no_trace_tales :
    firstTale.outcome.isRefused = true ∧ firstTale.ledger.spent = 2 ∧
      (talesStart.afterItem none firstTale).ledger = Ledger.ofCapacity 5 ∧
      (taleRun 1 (.array [.string "c"]) (talesStart.afterItem none firstTale)).entries =
        [⟨Message.of .user "c", none⟩, ⟨Message.of .user "end.", none⟩] := by
  have hrefused : firstTale.outcome.isRefused = true := by decide +kernel
  obtain ⟨hledger, -, hnext, -⟩ := (dropped_items_leave_no_trace talesEnvironment talesLoop taleNodes
    talesEnvironment.root).1 none 0 (.array [.string "a", .string "b"]) talesStart hrefused
  have hsecond : taleRun 1 (.array [.string "c"]) (talesStart.afterItem none firstTale) =
      taleRun 1 (.array [.string "c"]) talesStart := hnext 1 _
  have hstart : talesStart.ledger = Ledger.ofCapacity 5 := rfl
  have hback : (talesStart.afterItem none firstTale).ledger = talesStart.ledger := hledger
  refine ⟨hrefused, by decide +kernel, hback.trans hstart, ?_⟩
  rw [hsecond]
  decide +kernel

end ChatPrompt.Render
