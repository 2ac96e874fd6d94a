import ChatPrompt.Proofs.Counting
import ChatPrompt.Proofs.Expansion
import ChatPrompt.Proofs.Room
import Mathlib.Order.Bounds.Basic

/-!
# A loop that stops keeps the longest prefix that fits

The items of a plain loop say their messages without caps or loops of their own. Such an item is all
or nothing: it is charged message by message, but since no message can be left out alone, it goes
through just if all of it fits together with its separator. A loop that stops at the first item that
does not fit thus keeps the items from the first on, as many as fit together; and no longer prefix
would fit, since the costs only add up.
-/

namespace ChatPrompt

namespace Blueprint

mutual

/-- Whether a node is plain: a message without a budget, or a branch between such nodes. -/
def PlanNode.isPlain : PlanNode → Bool
  | .message details => details.budget.isNone
  | .forEach _ _ => false
  | .branch _ whenTrue whenFalse => PlanNode.arePlain whenTrue && PlanNode.arePlain whenFalse

/-- Whether some nodes are plain. -/
def PlanNode.arePlain : List PlanNode → Bool
  | [] => true
  | node :: rest => node.isPlain && PlanNode.arePlain rest

end

end Blueprint

/-! ### Prefixes that fit -/

/-- The numbers of amounts, from the first on, that fit into some room together. -/
def fittingCounts (room : Nat) (amounts : List Nat) : Set Nat :=
  {count | count ≤ amounts.length ∧ (amounts.take count).sum ≤ room}

/-- Where the first amount does not fit, none does. -/
theorem isGreatest_fittingCounts_of_lt {room amount : Nat} (h : room < amount)
    (rest : List Nat) : IsGreatest (fittingCounts room (amount :: rest)) 0 := by
  refine ⟨⟨Nat.zero_le _, Nat.zero_le _⟩, fun count hcount => ?_⟩
  cases count with
  | zero => exact Nat.le_refl 0
  | succ count =>
    have hsum := hcount.2
    rw [List.take_succ_cons, List.sum_cons] at hsum
    omega

/-- Where the first amount fits, one more fits than of the others into the room that is left. -/
theorem isGreatest_fittingCounts_succ {room amount : Nat} (h : amount ≤ room) {rest : List Nat}
    {kept : Nat} (hkept : IsGreatest (fittingCounts (room - amount) rest) kept) :
    IsGreatest (fittingCounts room (amount :: rest)) (kept + 1) := by
  obtain ⟨⟨hlength, hsum⟩, hmost⟩ := hkept
  refine ⟨⟨Nat.succ_le_succ hlength, ?_⟩, fun count hcount => ?_⟩
  · rw [List.take_succ_cons, List.sum_cons]
    omega
  · cases count with
    | zero => exact Nat.zero_le _
    | succ count =>
      obtain ⟨hcountLength, hcountSum⟩ := hcount
      rw [List.take_succ_cons, List.sum_cons] at hcountSum
      exact Nat.succ_le_succ (hmost ⟨Nat.le_of_succ_le_succ hcountLength, by omega⟩)

namespace Render

open Blueprint

variable (env : Environment)

/-! ### Full groups -/

/-- The full groups of some items, given what an item says in its scope. There is one for each item,
and the first one that is not empty has no separator. -/
def fullGroups (header : Blueprint.Loop) (scope : Scope) (expand : Scope → List Entry) :
    List Json → Nat → Bool → List (List Entry)
  | [], _, _ => []
  | item :: rest, index, isFirst =>
    let inner := itemScope scope index item
    fullGroup header inner isFirst (expand inner) ::
      fullGroups header scope expand rest (index + 1) (isFirst && (expand inner).isEmpty)

/-- What the separator of an item costs, if one is due. -/
def dueToll (header : Blueprint.Loop) (inner : Scope) (isFirst : Bool) (said : List Entry) : Nat :=
  if said.isEmpty || isFirst then 0 else env.toll (separatorEntry header inner).toList

/-- A separator is paid on top of what an item says. -/
theorem toll_fullGroup (header : Blueprint.Loop) (inner : Scope) (isFirst : Bool)
    (said : List Entry) :
    env.toll (fullGroup header inner isFirst said) =
      env.toll said + dueToll env header inner isFirst said := by
  rw [fullGroup, dueToll]
  split
  · rfl
  · rw [Group.joined]
    cases separatorEntry header inner with
    | none => rfl
    | some separator =>
      dsimp only
      rw [toll_withSeparator]
      simp

/-- Empty groups make no difference to the messages of a loop. -/
theorem arranged_filter_isEmpty (filling : Template.Filling) (groups : List (List Entry)) :
    arranged filling (groups.filter fun group => !group.isEmpty) = arranged filling groups := by
  cases filling with
  | appending => exact List.flatten_filter_not_isEmpty
  | prepending =>
    simp only [arranged]
    rw [← List.filter_reverse]
    exact List.flatten_filter_not_isEmpty

/-! ### Items that are all or nothing -/

/-- A run is all or nothing: it says what there is to say if that fits into what is left before it,
and else it is given up. -/
inductive Step.AllOrNothing (before : Ledger) (said : List Entry) (step : Step) : Prop where
  /-- Everything fits and is said. -/
  | all (hfits : env.toll said ≤ before.remaining.toNat) (hsaid : step.entries = said)
    (htally : step.tally = .zero) (hends : step.outcome = .finished none)
  /-- Something does not fit. -/
  | nothing (hexceeds : before.remaining.toNat < env.toll said) (htally : step.tally = .zero)
    (hends : step.outcome.isRefused = true)

/-- A message without a budget is all or nothing. -/
theorem say_allOrNothing (scope : Scope) {message : Blueprint.Message}
    (h : message.budget.isNone = true) (ledger : Ledger) :
    (say env scope message ledger).AllOrNothing env ledger (messageEntries env scope message) := by
  have hbudget := Option.isNone_iff_eq_none.1 h
  rw [say, messageEntries]
  cases Text.contentful? (env.text scope message.content) with
  | none => exact .all (Nat.zero_le _) rfl rfl rfl
  | some text =>
    have htoll := toll_singleton env message.role text (anchorKey scope message.anchor)
    simp only [hbudget, Ledger.openCap?, Option.toList_some, List.map_cons, List.map_nil]
    cases hspend : ledger.spend (env.estimate text) with
    | ok charged =>
      have hfits := Ledger.le_toNat_remaining_of_spend hspend
      exact .all (htoll ▸ hfits) rfl rfl rfl
    | error refusal =>
      have hexceeds := Ledger.toNat_remaining_lt_of_spend hspend
      exact .nothing (htoll ▸ hexceeds) rfl rfl

/-- Two runs that are all or nothing are so together, if the first one's refusal ends both. -/
theorem join_allOrNothing {before : Ledger} {said others : List Entry} {first second : Step}
    (hcharges : first.Fits env before) (hfirst : first.AllOrNothing env before said)
    (hsecond : second.AllOrNothing env first.ledger others) :
    (if first.outcome.isRefused then first else first.join second).AllOrNothing env before
      (said ++ others) := by
  cases hfirst with
  | nothing hexceeds htally hends =>
    rw [if_pos hends]
    refine .nothing ?_ htally hends
    rw [toll_append]
    omega
  | all hfits hsaid htally hends =>
    have hremaining := hcharges.remaining_eq env
    rw [hsaid] at hremaining
    rw [hends, Outcome.isRefused, if_neg Bool.false_ne_true, Step.join]
    cases hsecond with
    | all hfitsToo hsaidToo htallyToo hendsToo =>
      refine .all ?_ ?_ ?_ ?_
      · rw [toll_append]
        omega
      · dsimp only
        rw [hsaid, hsaidToo]
      · dsimp only
        rw [htally, htallyToo]
        rfl
      · dsimp only
        rw [hends, hendsToo]
        rfl
    | nothing hexceeds htallyToo hendsToo =>
      refine .nothing ?_ ?_ ?_
      · rw [toll_append]
        omega
      · dsimp only
        rw [htally, htallyToo]
        rfl
      · cases houtcome : second.outcome with
        | finished signal =>
          rw [houtcome] at hendsToo
          cases hendsToo
        | refused level => rfl

mutual

/-- A plain node is all or nothing. -/
theorem runNode_allOrNothing (scope : Scope) {node : PlanNode} (h : node.isPlain = true)
    (ledger : Ledger) :
    (runNode env scope true node ledger).AllOrNothing env ledger (expandNode env scope node) := by
  match node with
  | .message details =>
    rw [runNode, expandNode]
    exact say_allOrNothing env scope h ledger
  | .forEach header body => cases h
  | .branch condition whenTrue whenFalse =>
    obtain ⟨htrue, hfalse⟩ := Bool.and_eq_true_iff.1 h
    rw [runNode, expandNode]
    split
    · exact runNodes_allOrNothing scope htrue ledger
    · exact runNodes_allOrNothing scope hfalse ledger

/-- Plain nodes are all or nothing. -/
theorem runNodes_allOrNothing (scope : Scope) {nodes : List PlanNode}
    (h : PlanNode.arePlain nodes = true) (ledger : Ledger) :
    (runNodes env scope true nodes ledger).AllOrNothing env ledger
      (expandNodes env scope nodes) := by
  match nodes with
  | [] => exact .all (Nat.zero_le _) rfl rfl rfl
  | node :: rest =>
    obtain ⟨hnode, hrest⟩ := Bool.and_eq_true_iff.1 h
    rw [runNodes_cons, expandNodes, Bool.true_and]
    exact join_allOrNothing env (runNode_fits env scope true node ledger)
      (runNode_allOrNothing scope hnode ledger) (runNodes_allOrNothing scope hrest _)

end

/-- An item whose separator fits ends as its nodes do. -/
theorem outcome_separate_of_le {header : Blueprint.Loop} {inner : Scope}
    {groups : List (List Entry)} {run : Step}
    (h : dueToll env header inner groups.isEmpty run.entries ≤ run.ledger.remaining.toNat) :
    (separate env header inner groups run).outcome = run.outcome := by
  rw [separate]
  split
  · rfl
  · cases hsilent : run.entries.isEmpty || groups.isEmpty with
    | true => simp [separatorOf, hsilent]
    | false =>
      have hdue := separatorOf_eq header inner hsilent
      cases hseparator : separatorOf header inner groups run.entries with
      | none => rfl
      | some separator =>
        rw [dueToll, hsilent, if_neg Bool.false_ne_true, ← hdue, hseparator] at h
        have hfits : (env.cost separator).toNat ≤ run.ledger.remaining.toNat := by simpa using h
        dsimp only
        cases hspend : run.ledger.spend (env.cost separator) with
        | error refusal => exact absurd hfits (Ledger.toNat_remaining_lt_of_spend hspend).not_ge
        | ok charged => rfl

/-- An item whose separator does not fit is given up. -/
theorem isRefused_separate_of_lt {header : Blueprint.Loop} {inner : Scope}
    {groups : List (List Entry)} {run : Step}
    (h : run.ledger.remaining.toNat < dueToll env header inner groups.isEmpty run.entries) :
    (separate env header inner groups run).outcome.isRefused = true := by
  rw [separate]
  split
  · assumption
  · cases hsilent : run.entries.isEmpty || groups.isEmpty with
    | true =>
      rw [dueToll, hsilent, if_pos rfl] at h
      cases h
    | false =>
      have hdue := separatorOf_eq header inner hsilent
      rw [dueToll, hsilent, if_neg Bool.false_ne_true, ← hdue] at h
      cases hseparator : separatorOf header inner groups run.entries with
      | none =>
        rw [hseparator] at h
        cases h
      | some separator =>
        rw [hseparator] at h
        have hexceeds : run.ledger.remaining.toNat < (env.cost separator).toNat := by
          simpa using h
        dsimp only
        cases hspend : run.ledger.spend (env.cost separator) with
        | error refusal => rfl
        | ok charged => exact absurd (Ledger.le_toNat_remaining_of_spend hspend) hexceeds.not_ge

/-- An item is all or nothing together with its separator. -/
theorem separate_allOrNothing (header : Blueprint.Loop) (inner : Scope)
    (groups : List (List Entry)) {before : Ledger} {said : List Entry} {run : Step}
    (hfits : run.Fits env before) (h : run.AllOrNothing env before said) :
    (separate env header inner groups run).AllOrNothing env before
      (fullGroup header inner groups.isEmpty said) := by
  have htoll := toll_fullGroup env header inner groups.isEmpty said
  have hcounts := tally_separate env header inner groups run
  cases h with
  | nothing hexceeds htally hends =>
    rw [separate, if_pos hends]
    exact .nothing (by omega) htally hends
  | all hall hsaid htally hends =>
    have hremaining := hfits.remaining_eq env
    subst hsaid
    rcases Nat.lt_or_ge run.ledger.remaining.toNat
      (dueToll env header inner groups.isEmpty run.entries) with hexceeds | hdue
    · exact .nothing (by omega) (hcounts.trans htally) (isRefused_separate_of_lt env hexceeds)
    · have houtcome := (outcome_separate_of_le env hdue).trans hends
      have hkept : (separate env header inner groups run).outcome.isRefused = false :=
        houtcome ▸ rfl
      exact .all (by omega) (entries_separate hkept) (hcounts.trans htally) houtcome

/-! ### Loops that stop -/

/-- A loop that stops keeps the full groups of its items from the first on, as many as fit together
into what is left. It counts these items as included and the others as dropped. -/
theorem takeItems_packs {header : Blueprint.Loop} (hstops : header.stopsWhenFull = true)
    (own : Option Nat) (scope : Scope) {body : Scope → Ledger → Step}
    {expand : Scope → List Entry} (hfits : ∀ inner before, (body inner before).Fits env before)
    (hbody : ∀ inner before, (body inner before).AllOrNothing env before (expand inner))
    (items : List Json) (index : Nat) (state : LoopState) :
    let groups := fullGroups header scope expand items index state.groups.isEmpty
    let last := takeItems env header own scope body items index state
    ∃ kept, IsGreatest (fittingCounts state.ledger.remaining.toNat (groups.map env.toll)) kept ∧
      last.groups = state.groups ++ (groups.take kept).filter (fun group => !group.isEmpty) ∧
      last.tally = state.tally.add
        ⟨kept, 0, items.length - kept, decide (kept < items.length)⟩ := by
  induction items generalizing index state with
  | nil =>
    refine ⟨0, ⟨⟨Nat.le_refl 0, Nat.zero_le _⟩, fun count hcount => hcount.1⟩, ?_, ?_⟩
    · simp [takeItems, fullGroups]
    · simp [takeItems, Tally.add]
  | cons item rest ih =>
    have hrun : (itemRun env header scope body index item state).Fits env state.ledger :=
      separate_fits env header _ _ (hfits _ _)
    have hitem : (itemRun env header scope body index item state).AllOrNothing env state.ledger
        (fullGroup header (itemScope scope index item) state.groups.isEmpty
          (expand (itemScope scope index item))) :=
      separate_allOrNothing env header _ state.groups (hfits _ _) (hbody _ _)
    have htallyAfter := tally_afterItem state own (itemRun env header scope body index item state)
    rw [takeItems_cons_eq, hstops, Bool.true_and]
    cases hitem with
    | nothing hexceeds htally hends =>
      have hlevel := isSome_level?_of_isRefused hends
      have hcontent := hrun.content_afterItem env own hends
      rw [if_pos hlevel]
      refine ⟨0, isGreatest_fittingCounts_of_lt hexceeds _, ?_, ?_⟩
      · rw [List.take_zero, List.filter_nil, List.append_nil]
        exact congrArg Prod.snd hcontent
      · rw [LoopState.stop, htallyAfter, htally, hends, hlevel]
        simp [Tally.add, Tally.zero, Nat.add_comm, Nat.add_left_comm]
    | all hall hsaid htally hends =>
      have hlevel : (itemRun env header scope body index item state).outcome.level?.isSome =
          false := hends ▸ rfl
      have hafter : state.afterItem own (itemRun env header scope body index item state) =
          state.keep (itemRun env header scope body index item state) := by
        rw [LoopState.afterItem, LoopState.take, hends]
        rfl
      have hgroups := groups_keep state (itemRun env header scope body index item state)
      have hfirst : (state.keep (itemRun env header scope body index item state)).groups.isEmpty =
          (state.groups.isEmpty && (expand (itemScope scope index item)).isEmpty) := by
        rw [isEmpty_groups_keep, hsaid, isEmpty_fullGroup]
      have hremaining : (state.keep (itemRun env header scope body index item
          state)).ledger.remaining.toNat = _ := hrun.remaining_eq env
      rw [hsaid] at hgroups hremaining
      rw [hlevel, if_neg Bool.false_ne_true, hafter]
      rw [hafter, htally, hends] at htallyAfter
      obtain ⟨kept, hkept, hlast, hcount⟩ := ih (index + 1)
        (state.keep (itemRun env header scope body index item state))
      rw [hfirst] at hkept hlast
      rw [hremaining] at hkept
      refine ⟨kept + 1, isGreatest_fittingCounts_succ hall hkept, ?_, ?_⟩
      · rw [hlast, hgroups, fullGroups, List.take_succ_cons, List.append_assoc,
          ← List.filter_append]
        rfl
      · rw [hcount, htallyAfter]
        simp [Tally.add, Tally.zero, Outcome.isRefused, Outcome.level?, Nat.add_comm,
          Nat.add_left_comm]

/-- The groups of a loop cost what they cost together. -/
theorem toll_flatten (groups : List (List Entry)) :
    env.toll groups.flatten = (groups.map env.toll).sum := by
  induction groups with
  | nil => rfl
  | cons group rest ih => rw [List.flatten_cons, toll_append, ih, List.map_cons, List.sum_cons]

/-- A loop that stops, over plain nodes, keeps the longest prefix of its items that fits. What its
items cost is said without a ledger: each costs what its nodes say, with the separator to the items
before if both say something. The loop generates the full groups of the items from the first on, as
many as fit together into the lesser of its own budget and of what is left when it starts; it spends
just what these cost, and counts these items as included and all others as dropped. -/
theorem keeps_longest_fitting {header : Blueprint.Loop} {body : List PlanNode}
    (hstops : header.stopsWhenFull = true) (hplain : PlanNode.arePlain body = true)
    (scope : Scope) (atomic : Bool) (ledger : Ledger) :
    let items := loopItems env scope header
    let groups := fullGroups header scope (fun inner => expandNodes env inner body) items 0 true
    let room := header.budget.elim ledger.remaining.toNat fun limit =>
      min limit.toNat ledger.remaining.toNat
    let run := runNode env scope atomic (.forEach header body) ledger
    ∃ kept, IsGreatest (fittingCounts room (groups.map env.toll)) kept ∧
      run.entries = arranged header.filling (groups.take kept) ∧
      run.ledger = ledger.charge (.ofNat ((groups.take kept).map env.toll).sum) ∧
      run.ledger.spent.toNat = ledger.spent.toNat + ((groups.take kept).map env.toll).sum ∧
      run.tally =
        ⟨kept, items.length, items.length - kept, decide (kept < items.length)⟩ := by
  intro items groups room run
  obtain ⟨kept, hkept, hgroups, htally⟩ := takeItems_packs env hstops
    (ledger.openCap? header.budget).1 scope
    (fun inner before => runNodes_fits env inner true body before)
    (fun inner before => runNodes_allOrNothing env inner hplain before) items 0
    (LoopState.start env header scope ledger)
  have hroom : (LoopState.start env header scope ledger).ledger.remaining.toNat = room :=
    ledger.toNat_remaining_openCap? header.budget
  have hentries : run.entries = arranged header.filling (groups.take kept) := by
    rw [← arranged_filter_isEmpty]
    exact congrArg (arranged header.filling) hgroups
  have htoll : env.toll run.entries = ((groups.take kept).map env.toll).sum := by
    rw [hentries, toll_arranged, toll_flatten]
  have hrun : run.Fits env ledger := runNode_fits env scope atomic (.forEach header body) ledger
  have hrange := ledger.remaining.toNat_lt
  have hfits := hrun.toll_le
  have hprice : (env.price run.entries).toNat = env.toll run.entries :=
    toNat_price env (by omega)
  have hamount : env.price run.entries = .ofNat ((groups.take kept).map env.toll).sum := by
    rw [← htoll, ← hprice, UInt64.ofNat_toNat]
  refine ⟨kept, hroom ▸ hkept, hentries, hamount ▸ hrun.ledger_eq, ?_, ?_⟩
  · rw [hrun.ledger_eq, ledger.toNat_spent_charge (hprice.symm ▸ hfits), hprice, htoll]
  · have hcount : run.tally = _ := htally
    rw [hcount]
    simp [LoopState.start, Tally.add, items]

end Render

namespace Sample

open Render Blueprint

/-- A loop over the turns from the last message on, with room for four tokens. -/
def talkLoop : Blueprint.Loop :=
  ⟨⟨.scope ⟨"turns", []⟩, .literal .null⟩, .ascending, none, none, .prepending,
    some ⟨.system, ⟨"-", [.text "-"]⟩⟩, some 4, true⟩

/-- What is done for a turn: it is told if there is something to tell. -/
def talkNodes : List PlanNode :=
  [.branch (.expression (.path ⟨"item", []⟩))
    [.message ⟨.user, .text ⟨"\x7b\x7bitem\x7d\x7d", [.value (.path ⟨"item", []⟩)]⟩, false, none,
      none⟩] []]

end Sample

namespace Render

open Sample Blueprint in
/-- Of three turns with two separators there is room for two turns and one separator. -/
theorem keeps_longest_fitting_talk :
    talkLoop.stopsWhenFull = true ∧ PlanNode.arePlain talkNodes = true ∧
      IsGreatest (fittingCounts 4 [1, 2, 2]) 2 ∧
      (runNode environment environment.root false (.forEach talkLoop talkNodes)
          (Ledger.ofCapacity 20)).entries =
        [⟨Message.of .user "b", none⟩, ⟨Message.of .system "-", none⟩,
          ⟨Message.of .user "a", none⟩] ∧
      (runNode environment environment.root false (.forEach talkLoop talkNodes)
        (Ledger.ofCapacity 20)).ledger.spent.toNat = 3 ∧
      (runNode environment environment.root false (.forEach talkLoop talkNodes)
        (Ledger.ofCapacity 20)).tally = ⟨2, 3, 1, true⟩ := by
  have hstops : talkLoop.stopsWhenFull = true := rfl
  have hplain : PlanNode.arePlain talkNodes = true := rfl
  obtain ⟨kept, hkept, hentries, -, hspent, htally⟩ := keeps_longest_fitting environment hstops
    hplain environment.root false (Ledger.ofCapacity 20)
  have hincluded : (runNode environment environment.root false (.forEach talkLoop talkNodes)
      (Ledger.ofCapacity 20)).tally.included = 2 := by decide +kernel
  have htwo : kept = 2 := (congrArg Tally.included htally).symm.trans hincluded
  subst htwo
  refine ⟨hstops, hplain, ?_, hentries.trans ?_, hspent.trans ?_, htally.trans ?_⟩
  · exact hkept
  · decide +kernel
  · decide +kernel
  · decide +kernel

end Render

end ChatPrompt
