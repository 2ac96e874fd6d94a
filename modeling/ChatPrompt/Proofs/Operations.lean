import ChatPrompt.Proofs.Stages

/-!
# What a render asks of the ledger

The operations that a render asks of its ledger, in order, down to the checks that a lane makes
before it puts a message together and the caps inside the plans of slots. Each function of a render
has a list of them beside it, which goes through the same cases. Performing the operations one
after the other gives the ledger that the render ends with.
-/

namespace ChatPrompt

namespace Ledger

/-- Something that is asked of a ledger. -/
inductive Operation where
  /-- An amount is set aside under a key. -/
  | reserve (key : String) (tokens : Tokens)
  /-- What is set aside under a key is given up. -/
  | release (key : String)
  /-- An amount is charged, whether it fits or not. -/
  | charge (tokens : Tokens)
  /-- An amount is charged if it fits. -/
  | spend (tokens : Tokens)
  /-- It is asked whether an amount fits. -/
  | check (tokens : Tokens)
  /-- A cap is opened. -/
  | openCap (limit : Tokens)
  /-- The innermost cap is closed. -/
  | closeCap
  /-- What was spent since a checkpoint is given back. -/
  | rollback (checkpoint : Checkpoint)
  deriving DecidableEq, Repr

/-- The ledger after an operation. -/
def Operation.perform (operation : Operation) (ledger : Ledger) : Ledger :=
  match operation with
  | .reserve key tokens => ledger.reserve key tokens
  | .release key => ledger.release key
  | .charge tokens => ledger.charge tokens
  | .spend tokens => if ledger.fits tokens then ledger.charge tokens else ledger
  | .check _ => ledger
  | .openCap limit => ledger.openCap limit
  | .closeCap => ledger.closeCap
  | .rollback checkpoint => ledger.rollback checkpoint

/-- The ledger after some operations. -/
def replay (ledger : Ledger) (log : List Operation) : Ledger :=
  log.foldl (fun before operation => operation.perform before) ledger

@[simp]
theorem replay_nil (ledger : Ledger) : ledger.replay [] = ledger := rfl

@[simp]
theorem replay_cons (ledger : Ledger) (operation : Operation) (rest : List Operation) :
    ledger.replay (operation :: rest) = (operation.perform ledger).replay rest := rfl

@[simp]
theorem replay_append (ledger : Ledger) (log others : List Operation) :
    ledger.replay (log ++ others) = (ledger.replay log).replay others := List.foldl_append

/-- An amount that is accepted is charged. -/
theorem perform_spend_of_ok {ledger charged : Ledger} {tokens : Tokens}
    (h : ledger.spend tokens = .ok charged) :
    (Operation.spend tokens).perform ledger = charged := by
  obtain ⟨hnone, hcharged⟩ := (spend_eq_ok_iff ledger).1 h
  have hfits : ledger.fits tokens = true := by rw [fits, hnone, Option.isNone_none]
  rw [Operation.perform, if_pos hfits, hcharged]

/-- An amount that is refused leaves the ledger alone. -/
theorem perform_spend_of_error {ledger : Ledger} {tokens : Tokens} {refusal : Refusal}
    (h : ledger.spend tokens = .error refusal) :
    (Operation.spend tokens).perform ledger = ledger := by
  obtain ⟨hsome, -⟩ := (spend_eq_error_iff ledger).1 h
  have hfull : ¬ ledger.fits tokens = true := by
    rw [fits, hsome, Option.isNone_some]
    exact Bool.false_ne_true
  rw [Operation.perform, if_neg hfull]

/-- A cap is opened where a limit is given. -/
def openLog (limit : Option Tokens) : List Operation := limit.toList.map .openCap

/-- A cap is closed where one was opened. -/
def closeLog (limit : Option Tokens) : List Operation := limit.toList.map fun _ => .closeCap

/-- Opening a cap where a limit is given is an operation. -/
theorem replay_openLog (ledger : Ledger) (limit : Option Tokens) :
    ledger.replay (openLog limit) = (ledger.openCap? limit).2 := by
  cases limit with
  | none => rfl
  | some limit => rfl

/-- Closing a cap where one was opened is an operation. -/
theorem replay_closeLog (ledger opened : Ledger) (limit : Option Tokens) :
    ledger.replay (closeLog limit) = ledger.closeCap? (opened.openCap? limit).1 := by
  cases limit with
  | none => rfl
  | some limit => rfl

end Ledger

namespace Render

open Ledger

variable (env : Environment)

/-- A message is charged inside its own cap, if it says anything. -/
def sayLog (scope : Scope) (message : Blueprint.Message) : List Operation :=
  match Text.contentful? (env.text scope message.content) with
  | none => []
  | some text => openLog message.budget ++ (.spend (env.estimate text) :: closeLog message.budget)

theorem replay_sayLog (scope : Scope) (message : Blueprint.Message) (ledger : Ledger) :
    ledger.replay (sayLog env scope message) = (say env scope message ledger).ledger := by
  rw [sayLog, say]
  cases Text.contentful? (env.text scope message.content) with
  | none => rfl
  | some text =>
    dsimp only
    rw [replay_append, replay_openLog, replay_cons, replay_closeLog _ ledger]
    cases hspend : (ledger.openCap? message.budget).2.spend (env.estimate text) with
    | ok charged => rw [perform_spend_of_ok hspend]
    | error refusal =>
      rw [perform_spend_of_error hspend]
      dsimp only
      split
      · rfl
      · rfl

/-- A separator is charged, where one is due. -/
def separateLog (header : Blueprint.Loop) (scope : Scope) (groups : List (List Entry))
    (run : Step) : List Operation :=
  if run.outcome.isRefused then []
  else
    match separatorOf header scope groups run.entries with
    | none => []
    | some separator => [.spend (env.cost separator)]

theorem replay_separateLog (header : Blueprint.Loop) (scope : Scope)
    (groups : List (List Entry)) (run : Step) :
    run.ledger.replay (separateLog env header scope groups run) =
      (separate env header scope groups run).ledger := by
  rw [separateLog, separate]
  split
  · rfl
  · cases separatorOf header scope groups run.entries with
    | none => rfl
    | some separator =>
      dsimp only
      rw [replay_cons, replay_nil]
      cases hspend : run.ledger.spend (env.cost separator) with
      | ok charged => exact perform_spend_of_ok hspend
      | error refusal => exact perform_spend_of_error hspend

/-- An item does what the body of the loop does, then its separator; where it is dropped, what it
spent is given back. -/
def itemLog (header : Blueprint.Loop) (scope : Scope) (body : Scope → Ledger → Step)
    (bodyLog : Scope → Ledger → List Operation) (index : Nat) (item : Json) (state : LoopState) :
    List Operation :=
  let inner := itemScope scope index item
  bodyLog inner state.ledger ++
    (separateLog env header inner state.groups (body inner state.ledger) ++
      if (itemRun env header scope body index item state).outcome.isRefused then
        [.rollback state.ledger.checkpoint]
      else [])

/-- The items of a loop one after the other. -/
def takeItemsLog (header : Blueprint.Loop) (own : Option Nat) (scope : Scope)
    (body : Scope → Ledger → Step) (bodyLog : Scope → Ledger → List Operation) :
    List Json → Nat → LoopState → List Operation
  | [], _, _ => []
  | item :: rest, index, state =>
    let run := itemRun env header scope body index item state
    itemLog env header scope body bodyLog index item state ++
      match run.outcome.level? with
      | none => takeItemsLog header own scope body bodyLog rest (index + 1) (state.take run)
      | some level =>
        if header.stopsWhenFull then []
        else takeItemsLog header own scope body bodyLog rest (index + 1)
          ((state.take run).note own level)

section Loop

variable {header : Blueprint.Loop} {scope : Scope} {body : Scope → Ledger → Step}
  {bodyLog : Scope → Ledger → List Operation}
  (hbody : ∀ inner before, before.replay (bodyLog inner before) = (body inner before).ledger)

include hbody

theorem replay_itemLog (index : Nat) (item : Json) (state : LoopState) :
    state.ledger.replay (itemLog env header scope body bodyLog index item state) =
      (state.take (itemRun env header scope body index item state)).ledger := by
  rw [itemLog, replay_append, replay_append, hbody, replay_separateLog, LoopState.take]
  change ((itemRun env header scope body index item state).ledger).replay _ = _
  split
  · rfl
  · rfl

/-- The operations of the items give the ledger after them. -/
theorem replay_takeItemsLog (own : Option Nat) (items : List Json) (index : Nat)
    (state : LoopState) :
    state.ledger.replay (takeItemsLog env header own scope body bodyLog items index state) =
      (takeItems env header own scope body items index state).ledger := by
  induction items generalizing index state with
  | nil => rfl
  | cons item rest ih =>
    rw [takeItemsLog, replay_append, replay_itemLog env hbody, takeItems_cons]
    -- what is noted about a refusal does not touch the ledger
    cases (itemRun env header scope body index item state).outcome.level? with
    | none => exact ih (index + 1) _
    | some level =>
      dsimp only
      split
      · rfl
      · exact ih (index + 1)
          ((state.take (itemRun env header scope body index item state)).note own level)

end Loop

mutual

/-- A node of a plan. -/
def nodeLog (scope : Scope) (atomic : Bool) : Blueprint.PlanNode → Ledger → List Operation
  | .message details, _ => sayLog env scope details
  | .forEach header body, ledger =>
    openLog header.budget ++
      (takeItemsLog env header (ledger.openCap? header.budget).1 scope
        (fun inner before => runNodes env inner true body before)
        (fun inner before => nodesLog inner true body before)
        (loopItems env scope header) 0 (LoopState.start env header scope ledger) ++
      closeLog header.budget)
  | .branch condition whenTrue whenFalse, ledger =>
    if env.holds scope condition then nodesLog scope atomic whenTrue ledger
    else nodesLog scope atomic whenFalse ledger

/-- Nodes of a plan one after the other. -/
def nodesLog (scope : Scope) (atomic : Bool) :
    List Blueprint.PlanNode → Ledger → List Operation
  | [], _ => []
  | node :: rest, ledger =>
    nodeLog scope atomic node ledger ++
      if atomic && (runNode env scope atomic node ledger).outcome.isRefused then []
      else nodesLog scope atomic rest (runNode env scope atomic node ledger).ledger

end

mutual

theorem replay_nodeLog (scope : Scope) (atomic : Bool) (node : Blueprint.PlanNode)
    (ledger : Ledger) :
    ledger.replay (nodeLog env scope atomic node ledger) =
      (runNode env scope atomic node ledger).ledger := by
  match node with
  | .message details =>
    rw [nodeLog, runNode]
    exact replay_sayLog env scope details ledger
  | .forEach header body =>
    rw [nodeLog, runNode, runLoop_eq, replay_append, replay_append, replay_openLog,
      replay_closeLog _ ledger]
    refine congrArg (Ledger.closeCap? · _) ?_
    exact replay_takeItemsLog env (fun inner before => replay_nodesLog inner true body before)
      (ledger.openCap? header.budget).1 (loopItems env scope header) 0
      (LoopState.start env header scope ledger)
  | .branch condition whenTrue whenFalse =>
    rw [nodeLog, runNode]
    split
    · exact replay_nodesLog scope atomic whenTrue ledger
    · exact replay_nodesLog scope atomic whenFalse ledger

theorem replay_nodesLog (scope : Scope) (atomic : Bool) (nodes : List Blueprint.PlanNode)
    (ledger : Ledger) :
    ledger.replay (nodesLog env scope atomic nodes ledger) =
      (runNodes env scope atomic nodes ledger).ledger := by
  match nodes with
  | [] =>
    rw [nodesLog, runNodes]
    rfl
  | node :: rest =>
    rw [nodesLog, replay_append, replay_nodeLog scope atomic node, runNodes_cons]
    split
    · rfl
    · exact replay_nodesLog scope atomic rest _

end

/-- A slot runs its plan inside its own cap, if it is to be filled. -/
def slotLog (slot : Blueprint.Slot) (ledger : Ledger) : List Operation :=
  if isWanted env slot then
    openLog slot.budget ++
      (nodesLog env env.root false slot.plan (ledger.openCap? slot.budget).2 ++
        closeLog slot.budget)
  else []

theorem replay_slotLog (slot : Blueprint.Slot) (ledger : Ledger) :
    ledger.replay (slotLog env slot ledger) = (fillSlot env slot ledger).2 := by
  rw [slotLog, fillSlot]
  split
  · rw [replay_append, replay_append, replay_openLog, replay_nodesLog, replay_closeLog _ ledger]
  · rfl

/-- What is set aside for texts is given up. -/
def releaseLog (texts : List HeldText) : List Operation :=
  texts.map fun held => .release held.floor

/-- Giving up texts is giving up their keys. -/
theorem replay_releaseLog (texts : List HeldText) (ledger : Ledger) :
    ledger.replay (releaseLog texts) = texts.foldl releaseText ledger := by
  induction texts generalizing ledger with
  | nil => rfl
  | cons held rest ih => exact ih (releaseText ledger held)

/-- Slots one after the other; the frames that go where a slot is empty are given up then. -/
def slotsLog (blueprint : Blueprint) (prepared : PreparedLayout) :
    List Nat → Ledger → List Operation
  | [], _ => []
  | number :: rest, ledger =>
    match blueprint.slots[number]? with
    | none => slotsLog blueprint prepared rest ledger
    | some slot =>
      slotLog env slot ledger ++
        ((if (fillSlot env slot ledger).1.entries.isEmpty then
            releaseLog (omittedTexts number prepared.nodes)
          else []) ++
        slotsLog blueprint prepared rest (afterSlot env prepared number slot ledger))

theorem replay_slotsLog (blueprint : Blueprint) (prepared : PreparedLayout) (order : List Nat)
    (ledger : Ledger) :
    ledger.replay (slotsLog env blueprint prepared order ledger) =
      (fillSlots env blueprint prepared order ledger).2 := by
  induction order generalizing ledger with
  | nil => rfl
  | cons number rest ih =>
    rw [slotsLog]
    cases hslot : blueprint.slots[number]? with
    | none =>
      rw [fillSlots_cons_of_none env hslot]
      exact ih ledger
    | some slot =>
      have hafter : (fillSlot env slot ledger).2.replay
          (if (fillSlot env slot ledger).1.entries.isEmpty then
            releaseLog (omittedTexts number prepared.nodes)
          else []) = afterSlot env prepared number slot ledger := by
        rw [afterSlot]
        split
        · exact replay_releaseLog _ _
        · rfl
      rw [fillSlots_cons env hslot]
      dsimp only
      rw [replay_append, replay_slotLog, replay_append, hafter, ih]

/-- The cost of texts is set aside. -/
def reserveTextsLog (texts : List HeldText) : List Operation :=
  texts.map fun held => .reserve held.floor (env.estimate held.text)

theorem replay_reserveTextsLog (texts : List HeldText) (ledger : Ledger) :
    ledger.replay (reserveTextsLog env texts) = texts.foldl (reserveText env) ledger := by
  induction texts generalizing ledger with
  | nil => rfl
  | cons held rest ih => exact ih (reserveText env ledger held)

/-- The reserve of a lane is set aside, unless it is nothing. -/
def reserveLaneLog (lane : Blueprint.Lane) : List Operation :=
  match lane.reserve with
  | none => []
  | some amount => if amount = 0 then [] else [.reserve (Injection.laneFloor lane.id) amount]

theorem replay_reserveLanesLog (lanes : List Blueprint.Lane) (ledger : Ledger) :
    ledger.replay (lanes.flatMap reserveLaneLog) = lanes.foldl reserveLane ledger := by
  induction lanes generalizing ledger with
  | nil => rfl
  | cons lane rest ih =>
    have hlane : ledger.replay (reserveLaneLog lane) = reserveLane ledger lane := by
      rw [reserveLaneLog, reserveLane]
      cases lane.reserve with
      | none => rfl
      | some amount =>
        dsimp only
        split
        · rfl
        · rfl
    rw [List.flatMap_cons, replay_append, hlane, ih, List.foldl_cons]

/-- What was set aside for texts is given up, and their cost is charged. -/
def settleTextsLog (texts : List HeldText) : List Operation :=
  texts.flatMap fun held => [.release held.floor, .charge (env.estimate held.text)]

theorem replay_settleTextsLog (texts : List HeldText) (ledger : Ledger) :
    ledger.replay (settleTextsLog env texts) = texts.foldl (settleText env) ledger := by
  induction texts generalizing ledger with
  | nil => rfl
  | cons held rest ih => exact ih (settleText env ledger held)

end Render

namespace Injection

open Ledger Render

variable (estimate : Estimator) (lane : Blueprint.Lane)

/-- Each entry of a block is checked together with those before it, up to the first that does not
fit. -/
def acceptLog (ledger : Ledger) (block : Block) :
    List String → List String → List Operation
  | _, [] => []
  | accepted, entry :: rest =>
    let cost := estimate (compose lane block.group (accepted ++ [entry]))
    .check cost ::
      if ledger.fits cost then acceptLog ledger block (accepted ++ [entry]) rest else []

/-- A block is checked and charged, unless the lane ran out before. -/
def blockLog (state : LaneState) (block : Block) : List Operation :=
  if state.exhausted then []
  else
    let fits (entries : List String) : Bool :=
      state.ledger.fits (estimate (compose lane block.group entries))
    let (accepted, _) := accept fits [] block.entries
    acceptLog estimate lane state.ledger block [] block.entries ++
      if accepted.isEmpty then []
      else [.spend (estimate (compose lane block.group accepted))]

/-- The blocks of a lane one after the other. -/
def blocksLog (placed : List Placed) : List Block → LaneState → List Operation
  | [], _ => []
  | block :: rest, state =>
    blockLog estimate lane state block ++
      blocksLog placed rest (state.add estimate lane placed block)

/-- Checks leave the ledger alone. -/
theorem replay_acceptLog (ledger : Ledger) (block : Block) (accepted entries : List String) :
    ledger.replay (acceptLog estimate lane ledger block accepted entries) = ledger := by
  induction entries generalizing accepted with
  | nil => rfl
  | cons entry rest ih =>
    rw [acceptLog, replay_cons]
    change ledger.replay _ = ledger
    split
    · exact ih _
    · rfl

theorem replay_blockLog (placed : List Placed) (state : LaneState) (block : Block) :
    state.ledger.replay (blockLog estimate lane state block) =
      (state.add estimate lane placed block).ledger := by
  rw [blockLog, LaneState.add]
  split
  · rfl
  · dsimp only
    rw [replay_append, replay_acceptLog]
    split
    · rfl
    · rw [replay_cons, replay_nil, LaneState.insert]
      dsimp only
      cases hspend : state.ledger.spend (estimate (compose lane block.group
        (accept (fun entries => state.ledger.fits (estimate (compose lane block.group entries)))
          [] block.entries).1)) with
      | ok charged => exact perform_spend_of_ok hspend
      | error refusal => exact perform_spend_of_error hspend

theorem replay_blocksLog (placed : List Placed) (blocks : List Block) (state : LaneState) :
    state.ledger.replay (blocksLog estimate lane placed blocks state) =
      (blocks.foldl (LaneState.add estimate lane placed) state).ledger := by
  induction blocks generalizing state with
  | nil => rfl
  | cons block rest ih => rw [blocksLog, replay_append, replay_blockLog estimate lane placed, ih,
      List.foldl_cons]

/-- A lane gives up its reserve and takes its blocks. -/
def laneLog (requests : List Request) (before : Injected) : List Operation :=
  .release (laneFloor lane.id) ::
    blocksLog estimate lane before.placed (blocks lane (served lane.id requests))
      ⟨before.ledger.release (laneFloor lane.id), 0, 0, [], false⟩

/-- Lanes one after the other. -/
def lanesLog (requests : List Request) : List Blueprint.Lane → Injected → List Operation
  | [], _ => []
  | lane :: rest, before =>
    laneLog estimate lane requests before ++
      lanesLog requests rest (injectLane estimate requests before lane)

theorem replay_lanesLog (requests : List Request) (lanes : List Blueprint.Lane)
    (before : Injected) :
    before.ledger.replay (lanesLog estimate requests lanes before) =
      (lanes.foldl (injectLane estimate requests) before).ledger := by
  induction lanes generalizing before with
  | nil => rfl
  | cons lane rest ih =>
    have hlane : before.ledger.replay (laneLog estimate lane requests before) =
        (injectLane estimate requests before lane).ledger :=
      replay_blocksLog estimate lane before.placed (blocks lane (served lane.id requests))
        ⟨before.ledger.release (laneFloor lane.id), 0, 0, [], false⟩
    rw [lanesLog, replay_append, hlane, ih, List.foldl_cons]

end Injection

namespace Render

open Ledger Injection

namespace Setup

variable (setup : Setup)

/-- The costs of the texts of the layout and the reserves of the lanes are set aside. -/
def reserveLog : List Operation :=
  reserveTextsLog setup.env setup.texts ++
    (setup.lanes.filter Blueprint.Lane.enabled).flatMap reserveLaneLog

/-- All slots are filled. -/
def fillLog : List Operation :=
  slotsLog setup.env setup.blueprint setup.prepared setup.blueprint.order setup.reserved

/-- The texts of the layout that go into the prompt are spent. -/
def settleLog : List Operation := settleTextsLog setup.env (setup.shownBy setup.nodes)

/-- All lanes are injected. -/
def injectLog : List Operation :=
  lanesLog setup.env.estimate setup.options.injections (lanesInOrder setup.lanes)
    (setup.injectedUpTo [])

/-- All that the render asks of its ledger. -/
def log : List Operation :=
  setup.reserveLog ++ (setup.fillLog ++ (setup.settleLog ++ setup.injectLog))

/-- Setting aside gives the ledger before the slots. -/
theorem replay_reserveLog :
    (Ledger.ofCapacity setup.capacity).replay setup.reserveLog = setup.reserved := by
  rw [reserveLog, replay_append, replay_reserveTextsLog, replay_reserveLanesLog, reserved]

theorem replay_fillLog : setup.reserved.replay setup.fillLog = setup.filled.2 :=
  replay_slotsLog setup.env setup.blueprint setup.prepared setup.blueprint.order setup.reserved

theorem replay_settleLog :
    setup.filled.2.replay setup.settleLog = (setup.injectedUpTo []).ledger :=
  replay_settleTextsLog setup.env (setup.shownBy setup.nodes) setup.filled.2

/-- The operations of a render give the ledger that it ends with. -/
theorem replay_log :
    (Ledger.ofCapacity setup.capacity).replay setup.log = setup.injected.ledger := by
  rw [log, replay_append, replay_append, replay_append, replay_reserveLog, replay_fillLog,
    replay_settleLog]
  exact replay_lanesLog setup.env.estimate setup.options.injections (lanesInOrder setup.lanes)
    (setup.injectedUpTo [])

end Setup

end Render

end ChatPrompt
