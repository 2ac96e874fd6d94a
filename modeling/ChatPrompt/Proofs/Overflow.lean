import ChatPrompt.Proofs.Exactness
import ChatPrompt.Render.Checked

/-!
# Sums that leave the range

With checked sums something is set aside exactly if it is in the range of amounts together with all
that is spent and set aside. So a render with checked sums stops exactly if all that is set aside at
first is not in the range together, which is if some sum of the render is not. Otherwise it gives
the prompt that a render with wrapping sums gives. Nothing in a template or in the options ensures
that it does not stop.
-/

namespace ChatPrompt

namespace Tokens

/-- The sum of two amounts is checked as that of two natural numbers. -/
theorem plus?_eq (a b : Tokens) :
    a.plus? b = if a.toNat + b.toNat < 2 ^ 64 then some (a + b) else none := rfl

/-- Amounts are added up with checks if what natural numbers add up to is in the range. -/
theorem total?_eq (amounts : List Tokens) : total? amounts =
    if (amounts.map UInt64.toNat).sum < 2 ^ 64 then some (total amounts) else none := by
  induction amounts with
  | nil => rfl
  | cons amount rest ih =>
    rw [total?, ih, List.map_cons, List.sum_cons]
    by_cases hrest : (rest.map UInt64.toNat).sum < 2 ^ 64
    · have hsum : (total rest).toNat = (rest.map UInt64.toNat).sum := toNat_sum rest hrest
      rw [if_pos hrest, ← hsum]
      rfl
    · rw [if_neg hrest, if_neg (by omega)]
      rfl

end Tokens

namespace Ledger

variable {key : String} {tokens : Tokens}

/-- What stands under a key is added to with a check if that is in the range together with all
that is set aside. -/
theorem addFloor?_of_lt {floors : List (String × Tokens)}
    (h : (floors.map fun floor => floor.2.toNat).sum + tokens.toNat < 2 ^ 64) :
    addFloor? key tokens floors = some (addFloor key tokens floors) := by
  induction floors with
  | nil => rfl
  | cons floor rest ih =>
    rw [List.map_cons, List.sum_cons] at h
    rw [addFloor?, addFloor]
    split
    · rw [Tokens.plus?_eq, if_pos (by omega)]
      rfl
    · rw [ih (by omega)]
      rfl

/-- Where the check succeeds, as much more is set aside. -/
theorem of_addFloor?_eq_some {floors after : List (String × Tokens)}
    (h : addFloor? key tokens floors = some after) :
    after = addFloor key tokens floors ∧
      (after.map fun floor => floor.2.toNat).sum =
        (floors.map fun floor => floor.2.toNat).sum + tokens.toNat := by
  induction floors generalizing after with
  | nil =>
    cases h
    exact ⟨rfl, Nat.add_comm _ _⟩
  | cons floor rest ih =>
    rw [addFloor?] at h
    rw [addFloor]
    split at h
    · next hkey =>
      rw [if_pos hkey]
      rw [Tokens.plus?_eq] at h
      split at h
      · next hlt =>
        cases h
        refine ⟨rfl, ?_⟩
        rw [List.map_cons, List.map_cons, List.sum_cons, List.sum_cons, UInt64.toNat_add,
          Nat.mod_eq_of_lt hlt]
        omega
      · cases h
    · next hkey =>
      rw [if_neg hkey]
      obtain ⟨others, hothers, hafter⟩ := Option.bind_eq_some_iff.1 h
      cases hafter
      obtain ⟨rfl, hsum⟩ := ih hothers
      refine ⟨rfl, ?_⟩
      rw [List.map_cons, List.map_cons, List.sum_cons, List.sum_cons, hsum, Nat.add_assoc]

/-- Something is set aside with checks if it is in the range together with all that is spent and
set aside. -/
theorem reserve?_eq (ledger : Ledger) (key : String) (tokens : Tokens) :
    ledger.reserve? key tokens =
      if ledger.spent.toNat + (ledger.heldInAll + tokens.toNat) < 2 ^ 64 then
        some (ledger.reserve key tokens) else none := by
  have htotal : ∀ floors : List (String × Tokens),
      Tokens.total? (floors.map Prod.snd) =
        if (floors.map fun floor => floor.2.toNat).sum < 2 ^ 64 then
          some (Tokens.total (floors.map Prod.snd)) else none := by
    intro floors
    rw [Tokens.total?_eq, List.map_map]
    rfl
  have hheld : ledger.heldInAll = (ledger.floors.map fun floor => floor.2.toNat).sum := rfl
  rw [reserve?]
  cases hfloors : addFloor? key tokens ledger.floors with
  | none =>
    refine (if_neg fun hlt => ?_).symm
    rw [addFloor?_of_lt (by omega)] at hfloors
    cases hfloors
  | some floors =>
    obtain ⟨rfl, hsum⟩ := of_addFloor?_eq_some hfloors
    rw [← hheld] at hsum
    rw [Option.bind_eq_bind, Option.bind_some, htotal, hsum]
    by_cases hlt : ledger.heldInAll + tokens.toNat < 2 ^ 64
    · have hall : (Tokens.total ((addFloor key tokens ledger.floors).map Prod.snd)).toNat =
          ledger.heldInAll + tokens.toNat :=
        (toNat_floorTotal (ledger.reserve key tokens) (hsum.trans_lt hlt)).trans hsum
      rw [if_pos hlt, Option.bind_eq_bind, Option.bind_some, Tokens.plus?_eq, hall]
      split
      · rfl
      · rfl
    · rw [if_neg hlt, if_neg (by omega)]
      rfl

/-- Where nothing is spent, floors are set aside with checks if all of them are in the range
together with what is there. -/
theorem foldlM_reserve?_eq {ledger : Ledger} (hspent : ledger.spent = 0)
    (hheld : ledger.heldInAll < 2 ^ 64) (floors : List (String × Tokens)) :
    floors.foldlM (fun ledger floor => ledger.reserve? floor.1 floor.2) ledger =
      if ledger.heldInAll + (floors.map fun floor => floor.2.toNat).sum < 2 ^ 64 then
        some (ledger.replay (reserveAll floors)) else none := by
  induction floors generalizing ledger with
  | nil => exact (if_pos hheld).symm
  | cons floor rest ih =>
    have hzero : ledger.spent.toNat = 0 := by
      rw [hspent]
      rfl
    rw [List.foldlM_cons, reserve?_eq, hzero, Nat.zero_add, List.map_cons, List.sum_cons]
    by_cases hlt : ledger.heldInAll + floor.2.toNat < 2 ^ 64
    · have hkey := ledger.held_le_heldInAll (· == floor.1)
      have hall : (ledger.reserve floor.1 floor.2).heldInAll =
          ledger.heldInAll + floor.2.toNat :=
        ledger.held_reserve (fun _ => true) _ _ (by omega)
      have hunspent : (ledger.reserve floor.1 floor.2).spent = 0 := hspent
      rw [if_pos hlt, Option.bind_eq_bind, Option.bind_some, ih hunspent (hall.trans_lt hlt), hall,
        Nat.add_assoc]
      rfl
    · rw [if_neg hlt, if_neg (by omega)]
      rfl

end Ledger

namespace Render

open Ledger Injection

/-- The cost of a text is set aside as its floor is. -/
theorem foldlM_reserveText? (env : Environment) (texts : List HeldText) (ledger : Ledger) :
    texts.foldlM (reserveText? env) ledger = (texts.map (floorOf env)).foldlM
      (fun ledger floor => ledger.reserve? floor.1 floor.2) ledger := by
  rw [List.foldlM_map]
  rfl

/-- The reserve of a lane is set aside as its floors are. -/
theorem foldlM_reserveLane? (lanes : List Blueprint.Lane) (ledger : Ledger) :
    lanes.foldlM reserveLane? ledger = (lanes.flatMap floorsOf).foldlM
      (fun ledger floor => ledger.reserve? floor.1 floor.2) ledger := by
  have hlane : ∀ (lane : Blueprint.Lane) (ledger : Ledger), reserveLane? ledger lane =
      (floorsOf lane).foldlM (fun ledger floor => ledger.reserve? floor.1 floor.2) ledger := by
    intro lane ledger
    rw [reserveLane?, floorsOf]
    cases lane.reserve with
    | none => rfl
    | some amount =>
      dsimp only
      split
      · rfl
      · exact (bind_pure _).symm
  induction lanes generalizing ledger with
  | nil => rfl
  | cons lane rest ih =>
    rw [List.foldlM_cons, List.flatMap_cons, List.foldlM_append, hlane]
    exact congrArg _ (funext ih)

namespace Setup

variable (setup : Setup)

/-- The texts are set aside, what they cost is added up, and the lanes are set aside. -/
theorem reserved?_eq_bind :
    reserved? setup.env setup.blueprint setup.options (Ledger.ofCapacity setup.capacity) =
      (setup.texts.foldlM (reserveText? setup.env) (Ledger.ofCapacity setup.capacity)).bind
        fun held => (Tokens.total? (setup.texts.map fun text => setup.env.estimate text.text)).bind
          fun _ => (setup.lanes.filter Blueprint.Lane.enabled).foldlM reserveLane? held := by
  have hprepare : prepare? setup.env setup.blueprint (Ledger.ofCapacity setup.capacity) =
      (setup.texts.foldlM (reserveText? setup.env) (Ledger.ofCapacity setup.capacity)).bind
        fun held => (Tokens.total? (setup.texts.map fun text => setup.env.estimate text.text)).bind
          fun floorTokens => some (⟨setup.nodes, floorTokens⟩, held) := rfl
  rw [reserved?, hprepare, Option.bind_eq_bind, Option.bind_assoc]
  refine congrArg _ (funext fun held => ?_)
  rw [Option.bind_assoc]
  rfl

/-- Everything is set aside with checks if all of it is in the range together. -/
theorem reserved?_eq :
    reserved? setup.env setup.blueprint setup.options (Ledger.ofCapacity setup.capacity) =
      if setup.setAside < 2 ^ 64 then some setup.reserved else none := by
  have hnothing : (Ledger.ofCapacity setup.capacity).heldInAll = 0 := rfl
  have hfloors := @foldlM_reserve?_eq (Ledger.ofCapacity setup.capacity) rfl (Nat.two_pow_pos 64)
    setup.floorsAtFirst
  rw [hnothing, Nat.zero_add, sum_floorsAtFirst, ← reserveLog_eq, replay_reserveLog, floorsAtFirst,
    List.foldlM_append, ← foldlM_reserveText?] at hfloors
  have htotal : Tokens.total? (setup.texts.map fun held => setup.env.estimate held.text) =
      if setup.textsAside < 2 ^ 64 then
        some (Tokens.total (setup.texts.map fun held => setup.env.estimate held.text))
      else none := by
    rw [Tokens.total?_eq, List.map_map]
    rfl
  rw [reserved?_eq_bind, htotal]
  cases hheld : setup.texts.foldlM (reserveText? setup.env) (Ledger.ofCapacity setup.capacity) with
  | none =>
    rw [hheld] at hfloors
    exact hfloors
  | some held =>
    rw [hheld] at hfloors
    rw [Option.bind_some]
    split
    · rw [Option.bind_some, foldlM_reserveLane?]
      exact hfloors
    · next hrange =>
      rw [setAside, if_neg (by omega)]
      rfl

/-- With checked sums, a render gives the same prompt if everything that is set aside is in the
range together, and stops otherwise. -/
theorem renderChecked_eq (h : setup.blueprint.IsLaidOut) :
    renderChecked setup.env setup.blueprint setup.options setup.capacity =
      if setup.setAside < 2 ^ 64 then .ok setup.prompt else .error .overflow := by
  rw [renderChecked, setup.reserved?_eq, setup.render_eq h]
  by_cases hrange : setup.setAside < 2 ^ 64
  · rw [if_pos hrange, if_pos hrange]
    rfl
  · rw [if_neg hrange, if_neg hrange]

end Setup

/-- When the arithmetic of the ledger is exact. The operations of a render give the ledger that it
ends with. Every sum that one of them computes, and the sum of the texts of the layout, is in the
range of amounts if and only if all that is set aside at first is, for the texts and for the lanes
together. Then at every moment what is set aside altogether and what is left are the true sum and
the true difference, and checked sums change nothing; otherwise a render with checked sums stops. -/
theorem sums_lt_iff {setup : Setup} (h : setup.blueprint.IsCompiled) :
    (∃ prompt,
      renderOver setup.env setup.blueprint setup.options (Ledger.ofCapacity setup.capacity) =
        .ok (prompt, (Ledger.ofCapacity setup.capacity).replay setup.log) ∧
      renderChecked setup.env setup.blueprint setup.options setup.capacity =
        if setup.setAside < 2 ^ 64 then .ok prompt else .error .overflow) ∧
    ((setup.textsAside < 2 ^ 64 ∧
        ∀ before operation after, setup.log = before ++ operation :: after →
          ∀ sum ∈ operation.sums ((Ledger.ofCapacity setup.capacity).replay before),
            sum < 2 ^ 64) ↔
      setup.setAside < 2 ^ 64) ∧
    (setup.setAside < 2 ^ 64 → ∀ before ledger, before <+: setup.log →
      ledger = (Ledger.ofCapacity setup.capacity).replay before →
        ledger.floorTotal.toNat = ledger.heldInAll ∧
        ledger.available.toNat =
          setup.capacity.toNat - ledger.spent.toNat - ledger.heldInAll) := by
  have hlaid := h.isLaidOut
  have hexact := setup.isExact_log_iff hlaid
  refine ⟨⟨setup.prompt, ?_, setup.renderChecked_eq hlaid⟩, ?_, ?_⟩
  · rw [setup.replay_log]
    exact setup.renderOver_eq hlaid
  · rw [← hexact, isExact_iff]
    refine and_iff_right_of_imp fun hall => ?_
    have hrange := hexact.1 (isExact_iff.2 hall)
    rw [Setup.setAside] at hrange
    omega
  · rintro hrange before ledger ⟨after, hlog⟩ rfl
    have hlog := hlog ▸ hexact.2 hrange
    have hbefore := (isExact_append_iff.1 hlog).1
    have hheld := hbefore.heldInAll_lt (Nat.two_pow_pos 64)
    have htotal := Ledger.toNat_floorTotal _ hheld
    refine ⟨htotal, ?_⟩
    rw [Ledger.available, Tokens.toNat_minus, Tokens.toNat_minus, htotal, capacity_replay]
    rfl

/-- In the sample three tokens are set aside, all sums are exact, and checked sums give the same
prompt. -/
theorem sums_lt_iff_sample :
    (Setup.mk Sample.environment Sample.blueprint Sample.options 5).setAside = 3 ∧
      (∀ before operation after,
        (Setup.mk Sample.environment Sample.blueprint Sample.options 5).log =
          before ++ operation :: after →
        ∀ sum ∈ operation.sums ((Ledger.ofCapacity 5).replay before), sum < 2 ^ 64) ∧
      ∃ prompt ledger,
        renderOver Sample.environment Sample.blueprint Sample.options (Ledger.ofCapacity 5) =
          .ok (prompt, ledger) ∧
        renderChecked Sample.environment Sample.blueprint Sample.options 5 = .ok prompt := by
  have haside : (Setup.mk Sample.environment Sample.blueprint Sample.options 5).setAside = 3 := by
    cbv
  have hrange : (Setup.mk Sample.environment Sample.blueprint Sample.options 5).setAside <
      2 ^ 64 := by
    rw [haside]
    decide
  obtain ⟨⟨prompt, hrender, hchecked⟩, hexact, -⟩ :=
    @sums_lt_iff ⟨Sample.environment, Sample.blueprint, Sample.options, 5⟩ Sample.isCompiled
  exact ⟨haside, (hexact.2 hrange).2, prompt, _, hrender, hchecked.trans (if_pos hrange)⟩

end Render

namespace Sample

open Render

/-- A template with two lanes of which each has half of the range of amounts in reserve. -/
def vastTemplate : Template where
  id := "vast"
  task := "chat"
  name := "Vast"
  version := 1
  layout := [.slot ⟨"turn", none, none, none⟩]
  slots := [("turn", ⟨0, none, none, [.message ⟨.user, some "x", none, none, none⟩], .null⟩)]
  attachments := [⟨"first", true, .system, "y", 0, [], some (2 ^ 63)⟩,
    ⟨"second", true, .system, "y", 0, [], some (2 ^ 63)⟩]

/-- The blueprint with two lanes of which each has half of the range of amounts in reserve. -/
def vastBlueprint : Blueprint where
  id := "vast"
  task := "chat"
  name := "Vast"
  version := 1
  layout := [.slot ⟨"turn", 0, none, none, true⟩]
  slots := [⟨"turn", 0, none, none, [.message ⟨.user, .text ⟨"x", [.text "x"]⟩, false, none, none⟩],
    .null, 0⟩]
  order := [0]
  lanes := [⟨"first", true, .system, ⟨"y", [.text "y"]⟩, 0, [], some (2 ^ 63)⟩,
    ⟨"second", true, .system, ⟨"y", [.text "y"]⟩, 0, [], some (2 ^ 63)⟩]

/-- A render of it with room for one token, which costs one for each character. -/
def vastSetup : Setup :=
  ⟨⟨Registry.empty, .object [], Estimator.characters⟩, vastBlueprint, .none, 1⟩

/-- Two reserves of half the range pass it together, and a render with checked sums stops. One with
wrapping sums goes on: the ledger sees nothing set aside then, and the turn is let in, although far
more is set aside than may be spent. The document of the template satisfies the schema and is
compiled. -/
theorem exists_sum_ge :
    ((Compiler.fresh none).compileDocument vastTemplate.toJson).1 = .ok vastBlueprint ∧
      (vastSetup.lanes.map Blueprint.Lane.id).Nodup ∧
      (∃ before operation after, vastSetup.log = before ++ operation :: after ∧
        ∃ sum ∈ operation.sums ((Ledger.ofCapacity 1).replay before), 2 ^ 64 ≤ sum) ∧
      vastSetup.reserved.heldInAll = 2 ^ 64 ∧ vastSetup.reserved.floorTotal = 0 ∧
      vastSetup.reserved.available = 1 ∧
      (render vastSetup.env vastSetup.blueprint vastSetup.options vastSetup.capacity).map
        Prompt.messages = .ok [⟨.user, "x", false⟩] ∧
      renderChecked vastSetup.env vastSetup.blueprint vastSetup.options vastSetup.capacity =
        .error .overflow := by
  have hreserve : vastSetup.reserveLog =
      [.reserve "lane:first" (2 ^ 63)] ++ [.reserve "lane:second" (2 ^ 63)] := by cbv
  have hfloors : vastSetup.reserved.floors =
      [("lane:first", 2 ^ 63), ("lane:second", 2 ^ 63)] := by cbv
  refine ⟨by cbv, by decide, ?_, ?_, by cbv, by cbv, by cbv, by cbv⟩
  · refine ⟨[.reserve "lane:first" (2 ^ 63)], .reserve "lane:second" (2 ^ 63),
      vastSetup.fillLog ++ (vastSetup.settleLog ++ vastSetup.injectLog), ?_, 2 ^ 64, ?_,
      Nat.le_refl _⟩
    · rw [Setup.log, hreserve, List.append_assoc]
      rfl
    · decide +kernel
  · rw [Ledger.heldInAll, Ledger.held, hfloors]
    decide +kernel

end Sample

end ChatPrompt
