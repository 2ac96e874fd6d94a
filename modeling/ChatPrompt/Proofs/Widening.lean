import ChatPrompt.Proofs.Stages

/-!
# The same run over a larger capacity

A ledger is widened by raising its capacity and leaving all else. A charge has the same fate over
a widened ledger, since the caps are the same, unless the smaller capacity refuses it and the larger
one does not. So the operations of a run commute with widening, as long as the two runs do not part
in this way.
-/

namespace ChatPrompt

/-- Differences that stop at zero keep the order of what is taken from. -/
theorem Tokens.minus_le_minus {a b : Tokens} (h : a ≤ b) (c : Tokens) : a.minus c ≤ b.minus c := by
  rw [UInt64.le_iff_toNat_le] at h ⊢
  rw [Tokens.toNat_minus, Tokens.toNat_minus]
  omega

namespace Ledger

variable (ledger : Ledger) (capacity : Tokens)

/-- A ledger with another capacity. -/
def widen : Ledger := { ledger with capacity := capacity }

@[simp]
theorem widen_release (key : String) :
    (ledger.release key).widen capacity = (ledger.widen capacity).release key := rfl

/-- Opening a cap and widening commute. -/
theorem openCap?_widen (limit : Option Tokens) :
    (ledger.widen capacity).openCap? limit =
      ((ledger.openCap? limit).1, (ledger.openCap? limit).2.widen capacity) := by
  cases limit <;> rfl

@[simp]
theorem widen_closeCap? (opened : Option Nat) :
    (ledger.closeCap? opened).widen capacity = (ledger.widen capacity).closeCap? opened := by
  unfold closeCap?
  split <;> rfl

/-- No cap that is opened has the level of the whole render. -/
theorem openCap?_ne_zero (limit : Option Tokens) : (ledger.openCap? limit).1 ≠ some 0 := by
  cases limit <;> simp [openCap?]

variable {ledger capacity} (hle : ledger.capacity ≤ capacity) {amount : Tokens}

include hle

/-- Opening a cap leaves the capacity alone. -/
theorem capacity_openCap?_le (limit : Option Tokens) :
    (ledger.openCap? limit).2.capacity ≤ capacity := by
  cases limit with
  | none => exact hle
  | some limit => exact hle

/-- An amount has the same fate over a larger capacity, unless only the smaller one refuses it. -/
theorem refusalLevel?_widen (h : ledger.refusalLevel? amount = some 0 →
    (ledger.widen capacity).refusalLevel? amount = some 0) :
    (ledger.widen capacity).refusalLevel? amount = ledger.refusalLevel? amount := by
  by_cases hzero : ledger.refusalLevel? amount = some 0
  · rw [h hzero, hzero]
  · have hroom : ledger.available ≤ (ledger.widen capacity).available :=
      Tokens.minus_le_minus (Tokens.minus_le_minus hle _) _
    unfold refusalLevel? at hzero ⊢
    by_cases hlt : ledger.available < amount
    · simp [hlt] at hzero
    · have hwide : ¬(ledger.widen capacity).available < amount :=
        fun hwide => hlt (UInt64.lt_of_le_of_lt hroom hwide)
      rw [if_neg hlt, if_neg hwide]
      rfl

/-- A charge has the same fate over a larger capacity, unless only the smaller one refuses it. -/
theorem spend_widen (h : ledger.refusalLevel? amount = some 0 →
    (ledger.widen capacity).refusalLevel? amount = some 0) :
    (ledger.widen capacity).spend amount =
      (ledger.spend amount).map fun charged => charged.widen capacity := by
  rw [spend, spend, refusalLevel?_widen hle h]
  cases ledger.refusalLevel? amount with
  | none => rfl
  | some level => rfl

/-- What is spent is spent over a larger capacity as well. -/
theorem spend_widen_of_ok {charged : Ledger} (h : ledger.spend amount = .ok charged) :
    (ledger.widen capacity).spend amount = .ok (charged.widen capacity) := by
  obtain ⟨hnone, -⟩ := (spend_eq_ok_iff ledger).1 h
  rw [spend_widen hle (by simp [hnone]), h]
  rfl

end Ledger

namespace Render

variable (env : Environment)

/-- A run with its ledger widened. -/
def Step.widen (step : Step) (capacity : Tokens) : Step :=
  { step with ledger := step.ledger.widen capacity }

/-- A loop with its ledger widened. -/
def LoopState.widen (state : LoopState) (capacity : Tokens) : LoopState :=
  { state with ledger := state.ledger.widen capacity }

/-- Widening leaves the outcome of a run alone. -/
@[simp]
theorem Step.outcome_widen (step : Step) (capacity : Tokens) :
    (step.widen capacity).outcome = step.outcome := rfl

@[simp]
theorem Step.entries_widen (step : Step) (capacity : Tokens) :
    (step.widen capacity).entries = step.entries := rfl

@[simp]
theorem Step.ledger_widen (step : Step) (capacity : Tokens) :
    (step.widen capacity).ledger = step.ledger.widen capacity := rfl

/-- A loop over a widened ledger starts widened. -/
theorem start_widen (header : Blueprint.Loop) (scope : Scope) (ledger : Ledger)
    (capacity : Tokens) :
    LoopState.start env header scope (ledger.widen capacity) =
      (LoopState.start env header scope ledger).widen capacity := by
  rw [LoopState.start, ledger.openCap?_widen]
  rfl

/-- A run over a smaller and one over a larger capacity part where the whole render gives up the
first and not the second. -/
def Step.parts (small large : Step) : Bool :=
  small.outcome == .refused 0 && large.outcome != .refused 0

/-- Where two runs do not part, the whole render gives up the second if it does the first. -/
theorem outcome_eq_of_parts_eq_false {small large : Step} (h : small.parts large = false)
    (hsmall : small.outcome = .refused 0) : large.outcome = .refused 0 := by
  simpa [Step.parts, hsmall] using h

/-- The whole render gives up a message if it refuses its cost. -/
theorem outcome_say_eq_iff {scope : Scope} {message : Blueprint.Message} {text : String}
    (htext : Text.contentful? (env.text scope message.content) = some text) (ledger : Ledger) :
    (say env scope message ledger).outcome = .refused 0 ↔
      (ledger.openCap? message.budget).2.refusalLevel? (env.estimate text) = some 0 := by
  rw [say, htext]
  dsimp only
  rw [Ledger.spend]
  cases (ledger.openCap? message.budget).2.refusalLevel? (env.estimate text) with
  | none => simp
  | some level =>
    dsimp only
    split
    · next hown =>
      -- a refusal of the whole render is not contained by the message
      have hlevel : level ≠ 0 := by
        rintro rfl
        exact ledger.openCap?_ne_zero message.budget hown
      simpa using hlevel
    · simp

/-- A message has the same fate over a larger capacity, unless the two runs part there. -/
theorem say_widen (scope : Scope) (message : Blueprint.Message) {ledger : Ledger}
    {capacity : Tokens} (hle : ledger.capacity ≤ capacity)
    (h : (say env scope message ledger).parts
      (say env scope message (ledger.widen capacity)) = false) :
    say env scope message (ledger.widen capacity) =
      (say env scope message ledger).widen capacity := by
  cases htext : Text.contentful? (env.text scope message.content) with
  | none =>
    rw [say, say, htext]
    rfl
  | some text =>
    have hparts := outcome_eq_of_parts_eq_false h
    rw [outcome_say_eq_iff env htext, outcome_say_eq_iff env htext, ledger.openCap?_widen] at hparts
    have hopened := Ledger.capacity_openCap?_le hle message.budget
    rw [say, say, htext, ledger.openCap?_widen]
    dsimp only
    rw [Ledger.spend_widen hopened hparts]
    cases (ledger.openCap? message.budget).2.spend (env.estimate text) with
    | ok charged => simp [Except.map, Step.widen]
    | error refusal =>
      dsimp only [Except.map]
      split
      · simp [Step.widen]
      · simp [Step.widen]

/-- The whole render gives up an item that went through if it refuses the cost of its separator. -/
theorem outcome_separate_eq_iff {header : Blueprint.Loop} {scope : Scope}
    {groups : List (List Entry)} {run : Step} (hrun : run.outcome.isRefused = false)
    {separator : Message}
    (hseparator : separatorOf header scope groups run.entries = some separator) :
    (separate env header scope groups run).outcome = .refused 0 ↔
      run.ledger.refusalLevel? (env.cost separator) = some 0 := by
  have hgoes : run.outcome ≠ .refused 0 := by
    intro hrefused
    rw [hrefused] at hrun
    cases hrun
  rw [separate, hrun, if_neg Bool.false_ne_true, hseparator]
  dsimp only
  rw [Ledger.spend]
  cases run.ledger.refusalLevel? (env.cost separator) with
  | none => simpa using hgoes
  | some level => simp

/-- A separator has the same fate over a larger capacity, unless the two runs part there. -/
theorem separate_widen (header : Blueprint.Loop) (scope : Scope) (groups : List (List Entry))
    {run : Step} {capacity : Tokens} (hle : run.ledger.capacity ≤ capacity)
    (h : (separate env header scope groups run).parts
      (separate env header scope groups (run.widen capacity)) = false) :
    separate env header scope groups (run.widen capacity) =
      (separate env header scope groups run).widen capacity := by
  cases hrun : run.outcome.isRefused with
  | true =>
    rw [separate, separate, run.outcome_widen, hrun]
    rfl
  | false =>
    cases hseparator : separatorOf header scope groups run.entries with
    | none =>
      rw [separate, separate, run.outcome_widen, run.entries_widen, hrun, hseparator]
      rfl
    | some separator =>
      have hparts := outcome_eq_of_parts_eq_false h
      have hwide := @outcome_separate_eq_iff env header scope groups (run.widen capacity) hrun
        separator hseparator
      rw [outcome_separate_eq_iff env hrun hseparator, hwide] at hparts
      rw [separate, separate, run.outcome_widen, run.entries_widen, run.ledger_widen, hrun,
        hseparator]
      dsimp only
      rw [Ledger.spend_widen hle hparts]
      cases run.ledger.spend (env.cost separator) with
      | ok charged => rfl
      | error refusal => rfl

/-- Taking an item and widening commute. -/
theorem take_widen (state : LoopState) (run : Step) (capacity : Tokens) :
    (state.widen capacity).take (run.widen capacity) = (state.take run).widen capacity := by
  unfold LoopState.take
  rw [run.outcome_widen]
  split <;> rfl

/-- Nodes run in the same way over a larger capacity, if the first does, and the others do
where it is their turn. -/
theorem runNodes_cons_widen {scope : Scope} {atomic : Bool} {node : Blueprint.PlanNode}
    {rest : List Blueprint.PlanNode} {ledger : Ledger} {capacity : Tokens}
    (hfirst : runNode env scope atomic node (ledger.widen capacity) =
      (runNode env scope atomic node ledger).widen capacity)
    (hothers : ¬(atomic && (runNode env scope atomic node ledger).outcome.isRefused) = true →
      runNodes env scope atomic rest
          ((runNode env scope atomic node ledger).ledger.widen capacity) =
        (runNodes env scope atomic rest
          (runNode env scope atomic node ledger).ledger).widen capacity) :
    runNodes env scope atomic (node :: rest) (ledger.widen capacity) =
      (runNodes env scope atomic (node :: rest) ledger).widen capacity := by
  rw [runNodes_cons, runNodes_cons, hfirst, Step.outcome_widen, Step.ledger_widen]
  by_cases hends : (atomic && (runNode env scope atomic node ledger).outcome.isRefused) = true
  · rw [if_pos hends, if_pos hends]
  · rw [if_neg hends, if_neg hends, hothers hends]
    rfl

/-- A loop runs in the same way over a larger capacity, if its items are taken in the same
way. -/
theorem runLoop_widen (header : Blueprint.Loop) (scope : Scope) (body : Scope → Ledger → Step)
    {ledger : Ledger} {capacity : Tokens}
    (h : takeItems env header (ledger.openCap? header.budget).1 scope body
        (loopItems env scope header) 0
        ((LoopState.start env header scope ledger).widen capacity) =
      (takeItems env header (ledger.openCap? header.budget).1 scope body
        (loopItems env scope header) 0
        (LoopState.start env header scope ledger)).widen capacity) :
    runLoop env header scope body (ledger.widen capacity) =
      (runLoop env header scope body ledger).widen capacity := by
  rw [runLoop_eq, runLoop_eq, start_widen, ledger.openCap?_widen]
  dsimp only
  rw [h]
  simp [Step.widen, LoopState.widen]

theorem foldl_releaseText_widen (texts : List HeldText) (ledger : Ledger) (capacity : Tokens) :
    texts.foldl releaseText (ledger.widen capacity) =
      (texts.foldl releaseText ledger).widen capacity :=
  List.foldl_hom (fun ledger : Ledger => ledger.widen capacity) fun _ _ => rfl

theorem foldl_settleText_widen (texts : List HeldText) (ledger : Ledger) (capacity : Tokens) :
    texts.foldl (settleText env) (ledger.widen capacity) =
      (texts.foldl (settleText env) ledger).widen capacity :=
  List.foldl_hom (fun ledger : Ledger => ledger.widen capacity) fun _ _ => rfl

namespace Setup

variable (setup : Setup) (capacity : Tokens)

/-- The same render with another capacity. -/
def widen : Setup := { setup with capacity := capacity }

/-- What is set aside does not depend on the capacity. -/
theorem reserved_widen : (setup.widen capacity).reserved = setup.reserved.widen capacity := by
  have htexts : setup.texts.foldl (reserveText setup.env)
      ((Ledger.ofCapacity setup.capacity).widen capacity) =
        (setup.texts.foldl (reserveText setup.env)
          (Ledger.ofCapacity setup.capacity)).widen capacity :=
    List.foldl_hom (fun ledger : Ledger => ledger.widen capacity) fun _ _ => rfl
  have hlane : ∀ ledger lane,
      reserveLane (Ledger.widen ledger capacity) lane = (reserveLane ledger lane).widen capacity := by
    intro ledger lane
    unfold reserveLane
    cases lane.reserve with
    | none => rfl
    | some amount =>
      dsimp only
      split <;> rfl
  rw [reserved]
  change (setup.lanes.filter _).foldl reserveLane (setup.texts.foldl (reserveText setup.env)
    ((Ledger.ofCapacity setup.capacity).widen capacity)) = _
  rw [htexts]
  exact List.foldl_hom (fun ledger : Ledger => ledger.widen capacity) hlane

end Setup

end Render

end ChatPrompt
