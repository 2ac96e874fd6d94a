import ChatPrompt.Proofs.Secured
import Mathlib.Data.List.Basic

/-!
# What a larger capacity keeps

A larger capacity does not keep every message of a smaller one: what was too large for the
smaller one may fit now, and take the room of what came after it. It keeps what came before. The two
renders make the same choices until the whole render refuses a charge in the smaller one and not in
the larger one, and so everything that is generated until then is in both, with all messages of the
layout. Only an item of a loop that is under way then may be lost as a whole.
-/

namespace ChatPrompt.Render

variable (env : Environment) (capacity : Tokens)

/-- The messages that slots one after the other generate before the runs over a ledger and over one
with a larger capacity part, each under its number. -/
def securedSlots (blueprint : Blueprint) (prepared : PreparedLayout) :
    List Nat → Ledger → List (Nat × List Entry)
  | [], _ => []
  | number :: rest, ledger =>
    match blueprint.slots[number]? with
    | none => securedSlots blueprint prepared rest ledger
    | some slot =>
      if partsSlot env capacity slot ledger then [(number, securedSlot env capacity slot ledger)]
      else (number, (fillSlot env slot ledger).1.entries) ::
        securedSlots blueprint prepared rest (afterSlot env prepared number slot ledger)

variable {capacity}

/-- The first buffer counts for its number, and the others for theirs. -/
theorem fill_cons (number : Nat) (buffer : SlotBuffer) (rest : Buffers) (other : Nat) :
    Buffers.fill ((number, buffer) :: rest) other =
      if other = number then buffer.entries else Buffers.fill rest other := by
  unfold Buffers.fill
  by_cases h : other = number
  · rw [if_pos h, h, List.lookup_cons_self]
    rfl
  · have hne : (other == number) = false := by simpa using h
    rw [if_neg h, List.lookup_cons, hne]

/-- What is under the first number is found first. -/
theorem lookup_cons_getD (number : Nat) (entries : List Entry) (rest : List (Nat × List Entry))
    (other : Nat) : (((number, entries) :: rest).lookup other).getD [] =
      if other = number then entries else (rest.lookup other).getD [] := by
  by_cases h : other = number
  · rw [if_pos h, h, List.lookup_cons_self]
    rfl
  · have hne : (other == number) = false := by simpa using h
    rw [if_neg h, List.lookup_cons, hne]

/-- What slots generate before two runs part is in both. -/
theorem securedSlots_sublist (blueprint : Blueprint) (prepared : PreparedLayout)
    (order : List Nat) {ledger : Ledger} (hle : ledger.capacity ≤ capacity) (number : Nat) :
    (((securedSlots env capacity blueprint prepared order ledger).lookup number).getD []).Sublist
        (Buffers.fill (fillSlots env blueprint prepared order ledger).1 number) ∧
      (((securedSlots env capacity blueprint prepared order ledger).lookup number).getD []).Sublist
        (Buffers.fill (fillSlots env blueprint prepared order (ledger.widen capacity)).1
          number) := by
  induction order generalizing ledger with
  | nil => exact ⟨List.nil_sublist _, List.nil_sublist _⟩
  | cons first rest ih =>
    rw [securedSlots]
    cases hslot : blueprint.slots[first]? with
    | none =>
      rw [fillSlots_cons_of_none env hslot, fillSlots_cons_of_none env hslot]
      exact ih hle
    | some slot =>
      dsimp only
      rw [fillSlots_cons env hslot, fillSlots_cons env hslot, fill_cons, fill_cons]
      by_cases hparts : partsSlot env capacity slot ledger = true
      · -- nothing counts of the slots after the one in which the runs part
        rw [if_pos hparts, lookup_cons_getD]
        by_cases hnumber : number = first
        · rw [if_pos hnumber, if_pos hnumber, if_pos hnumber]
          exact securedSlot_sublist env slot hle
        · rw [if_neg hnumber, if_neg hnumber, if_neg hnumber]
          exact ⟨List.nil_sublist _, List.nil_sublist _⟩
      · have hsame : partsSlot env capacity slot ledger = false := Bool.eq_false_iff.2 hparts
        have hafter : (afterSlot env prepared first slot ledger).capacity ≤ capacity := by
          rw [kept_afterSlot _ isKept_capacity]
          exact hle
        rw [if_neg hparts, lookup_cons_getD, fillSlot_widen env slot hle hsame,
          afterSlot_widen env prepared first slot hle hsame]
        by_cases hnumber : number = first
        · rw [if_pos hnumber, if_pos hnumber, if_pos hnumber]
          exact ⟨List.Sublist.refl _, List.Sublist.refl _⟩
        · rw [if_neg hnumber, if_neg hnumber, if_neg hnumber]
          exact ih hafter

/-- An element of the layout says no less where its slot is filled with no less. -/
theorem said_spliced_sublist {fill more : Nat → List Entry}
    (h : ∀ number, (fill number).Sublist (more number)) (node : PreparedNode) :
    ((node.spliced fill).map fun entry => entry.message.said).Sublist
      ((node.spliced more).map fun entry => entry.message.said) := by
  cases node with
  | message held openEnded anchor => exact List.Sublist.refl _
  | omitted => exact List.Sublist.refl _
  | slot name number omitIfEmpty header footer =>
    have hfill := h number
    simp only [PreparedNode.spliced]
    by_cases hempty : ((fill number).isEmpty && omitIfEmpty) = true
    · rw [if_pos hempty]
      exact List.nil_sublist _
    · have hmore : ¬((more number).isEmpty && omitIfEmpty) = true := by
        intro hmore
        obtain ⟨hnil, homit⟩ := Bool.and_eq_true_iff.1 hmore
        rw [List.isEmpty_iff.1 hnil, List.sublist_nil] at hfill
        exact hempty (by rw [hfill, homit]; rfl)
      rw [if_neg hempty, if_neg hmore]
      exact (((List.Sublist.refl _).append (hfill.map _)).append (List.Sublist.refl _)).map _

end ChatPrompt.Render

namespace ChatPrompt.Injection

open Render

theorem weave_nil (placed : List Placed) : weave placed [] = placed := by
  have hfrom : ∀ index, weaveFrom index placed [] = placed := by
    induction placed with
    | nil => exact fun _ => rfl
    | cons entry rest ih =>
      intro index
      rw [weaveFrom]
      rw [List.dropWhile_nil, ih]
      rfl
  rw [weave]
  rw [List.mergeSort_nil]
  exact hfrom 0

/-- Without requests the lanes leave the messages alone. -/
theorem placed_foldl_injectLane (estimate : Estimator) (lanes : List Blueprint.Lane)
    (before : Injected) : (lanes.foldl (injectLane estimate []) before).placed =
      before.placed := by
  induction lanes generalizing before with
  | nil => rfl
  | cons lane rest ih =>
    have hserved : served lane.id [] = [] := List.mergeSort_nil
    rw [List.foldl_cons, ih]
    rw [injectLane]
    rw [hserved]
    exact weave_nil before.placed

end ChatPrompt.Injection

namespace ChatPrompt.Render

namespace Setup

variable (setup : Setup) (capacity : Tokens)

/-- What the slot of a number generates before a render and one with a larger capacity part. -/
def securedFill (number : Nat) : List Entry :=
  ((securedSlots setup.env capacity setup.blueprint setup.prepared setup.blueprint.order
    setup.reserved).lookup number).getD []

/-- What a prompt says if its slots are filled in some way, before anything is injected. -/
def saidWith (fill : Nat → List Entry) : List (Role × String) :=
  (setup.nodes.flatMap (PreparedNode.spliced fill)).map fun entry => entry.message.said

/-- What a prompt says with what its slots generate before the render and one with a larger capacity
part. -/
def secured : List (Role × String) := setup.saidWith (setup.securedFill capacity)

variable {capacity}

/-- Slots that are filled with more say more. -/
theorem saidWith_sublist {fill more : Nat → List Entry}
    (h : ∀ number, (fill number).Sublist (more number)) :
    (setup.saidWith fill).Sublist (setup.saidWith more) := by
  rw [saidWith, saidWith, List.map_flatMap, List.map_flatMap]
  exact List.Sublist.flatMap_right setup.nodes fun node _ => said_spliced_sublist h node

/-- Without requests a prompt says what was placed. -/
theorem said_messages_of_injections_eq_nil (h : setup.options.injections = []) :
    setup.prompt.messages.map Message.said =
      setup.saidWith setup.fill := by
  have hplaced : setup.injected.placed = setup.placed := by
    rw [injected, injectedUpTo]
    rw [h, Injection.placed_foldl_injectLane]
  rw [setup.said_messages, hplaced, List.map_map]
  rfl

/-- What is generated before two renders part is said in both. -/
theorem secured_sublist (hle : setup.capacity ≤ capacity) :
    (setup.secured capacity).Sublist (setup.saidWith setup.fill) ∧
      (setup.secured capacity).Sublist (setup.saidWith (setup.widen capacity).fill) := by
  have hreserved : setup.reserved.capacity ≤ capacity := by
    rw [setup.capacity_reserved]
    exact hle
  have hslots := securedSlots_sublist setup.env setup.blueprint setup.prepared
    setup.blueprint.order hreserved
  rw [← setup.reserved_widen capacity] at hslots
  exact ⟨setup.saidWith_sublist fun number => (hslots number).1,
    setup.saidWith_sublist fun number => (hslots number).2⟩

end Setup

/-- Where nothing is injected, everything that is generated before a render and one with a larger
capacity part is said in both prompts, in the same order, and with it all that the layout says
around empty slots. If the renders do not part, the prompts say the same. -/
theorem secured_sublist_of_le {setup : Setup} (h : setup.blueprint.IsCompiled)
    (hinjections : setup.options.injections = []) {capacity : Tokens}
    (hle : setup.capacity ≤ capacity) :
    ∃ prompt larger,
      render setup.env setup.blueprint setup.options setup.capacity = .ok prompt ∧
      render setup.env setup.blueprint setup.options capacity = .ok larger ∧
      (setup.saidWith fun _ => []).Sublist (setup.secured capacity) ∧
      (setup.secured capacity).Sublist (prompt.messages.map Message.said) ∧
      (setup.secured capacity).Sublist (larger.messages.map Message.said) ∧
      (setup.parts capacity = false →
        larger.messages.map Message.said = prompt.messages.map Message.said) := by
  have hlaid := h.isLaidOut
  obtain ⟨hsmall, hlarge⟩ := setup.secured_sublist hle
  refine ⟨setup.prompt, (setup.widen capacity).prompt, setup.render_eq hlaid,
    (setup.widen capacity).render_eq hlaid, ?_⟩
  rw [setup.said_messages_of_injections_eq_nil hinjections,
    (setup.widen capacity).said_messages_of_injections_eq_nil hinjections]
  refine ⟨setup.saidWith_sublist fun _ => List.nil_sublist _, hsmall, hlarge, fun hsame => ?_⟩
  have hfill : (setup.widen capacity).fill = setup.fill := by
    funext number
    rw [Setup.fill, Setup.fill, setup.filled_widen hle hsame]
  rw [hfill]
  rfl

/-- With seven tokens the sample has room for a turn and its separator that do not fit into five.
There the two renders part, and all that the smaller one says was generated before. -/
theorem secured_sublist_of_le_sample :
    (Setup.mk Sample.environment Sample.blueprint RenderOptions.none 5).parts 7 = true ∧
      ∃ prompt larger,
        render Sample.environment Sample.blueprint RenderOptions.none 5 = .ok prompt ∧
        render Sample.environment Sample.blueprint RenderOptions.none 7 = .ok larger ∧
        prompt.messages.map Message.said = [(.system, "H"), (.system, "T"), (.user, "a")] ∧
        [(.system, "H"), (.system, "T"), (.user, "a")].Sublist
          (larger.messages.map Message.said) := by
  obtain ⟨prompt, larger, hsmall, hlarge, -, -, hsecured, -⟩ :=
    @secured_sublist_of_le ⟨Sample.environment, Sample.blueprint, RenderOptions.none, 5⟩
      Sample.isCompiled rfl 7 (by decide)
  have hsaid : (render Sample.environment Sample.blueprint RenderOptions.none 5).map
      (fun prompt => prompt.messages.map Message.said) =
        .ok [(.system, "H"), (.system, "T"), (.user, "a")] := by decide +kernel
  have hall : (Setup.mk Sample.environment Sample.blueprint RenderOptions.none 5).secured 7 =
      [(.system, "H"), (.system, "T"), (.user, "a")] := by decide +kernel
  dsimp only at hsmall
  rw [hsmall] at hsaid
  rw [hall] at hsecured
  exact ⟨by decide +kernel, prompt, larger, hsmall, hlarge, Except.ok.inj hsaid, hsecured⟩

end ChatPrompt.Render

namespace ChatPrompt.Sample

open Render

/-- A template with two messages of different length in one slot. -/
def rivalsTemplate : Template where
  id := "rivals"
  task := "chat"
  name := "Rivals"
  version := 1
  layout := [.slot ⟨"rivals", none, none, none⟩]
  slots := [("rivals", ⟨0, none, none, [.message ⟨.user, some "aa", none, none, none⟩,
    .message ⟨.user, some "b", none, none, none⟩], .null⟩)]
  attachments := []

/-- The blueprint with the two messages. -/
def rivals : Blueprint where
  id := "rivals"
  task := "chat"
  name := "Rivals"
  version := 1
  layout := [.slot ⟨"rivals", 0, none, none, true⟩]
  slots := [⟨"rivals", 0, none, none,
    [.message ⟨.user, .text ⟨"aa", [.text "aa"]⟩, false, none, none⟩,
      .message ⟨.user, .text ⟨"b", [.text "b"]⟩, false, none, none⟩], .null, 0⟩]
  order := [0]
  lanes := []

/-- The blueprint is what the template is compiled to. -/
theorem isCompiled_rivals : rivals.IsCompiled :=
  ⟨Compiler.fresh none, none, rivalsTemplate, by cbv⟩

/-- A tale of two parts, with a token for each character. -/
def taleEnvironment : Environment where
  sources := Registry.empty
  context := .object [("tales", .array [.array [.string "p", .string "qq"]])]
  estimate := Estimator.characters

/-- A template that tells the parts of each tale, and behind them a message. -/
def endingTemplate : Template where
  id := "ending"
  task := "chat"
  name := "Ending"
  version := 1
  layout := [.slot ⟨"ending", none, none, none⟩]
  slots := [("ending", ⟨0, none, none,
    [.forEach ⟨⟨none, .null, some "tales"⟩, .ascending, none, none, .appending, none, none, true⟩
      [.forEach ⟨⟨none, .null, some "item"⟩, .ascending, none, none, .appending, none, none, true⟩
        [.message ⟨.user, some "\x7b\x7bitem\x7d\x7d", none, none, none⟩],
      .message ⟨.user, some "s", none, none, none⟩]], .null⟩)]
  attachments := []

/-- The blueprint that tells the parts of each tale, and behind them a message. -/
def ending : Blueprint where
  id := "ending"
  task := "chat"
  name := "Ending"
  version := 1
  layout := [.slot ⟨"ending", 0, none, none, true⟩]
  slots := [⟨"ending", 0, none, none,
    [.forEach ⟨⟨.scope ⟨"tales", []⟩, .literal .null⟩, .ascending, none, none, .appending, none,
        none, true⟩
      [.forEach ⟨⟨.scope ⟨"item", []⟩, .literal .null⟩, .ascending, none, none, .appending, none,
          none, true⟩
        [.message ⟨.user, .text ⟨"\x7b\x7bitem\x7d\x7d", [.value (.path ⟨"item", []⟩)]⟩, false,
          none, none⟩],
      .message ⟨.user, .text ⟨"s", [.text "s"]⟩, false, none, none⟩]], .null, 0⟩]
  order := [0]
  lanes := []

theorem isCompiled_ending : ending.IsCompiled :=
  ⟨Compiler.fresh none, none, endingTemplate, by cbv⟩

/-- A larger capacity does not keep what a smaller one kept, since what comes after a refusal still
runs: with one token the second message fits, and with two the first takes its place. Nor does it
keep what came before the refusal inside an item that it gives up as a whole: with two tokens the
first part of the tale is told and the message behind it, and with three both parts, so that the
message does not fit and the item is dropped. -/
theorem exists_dropped_of_le :
    (¬∀ (env : Environment) (blueprint : Blueprint), blueprint.IsCompiled →
      ∀ options : RenderOptions, options.injections = [] →
      ∀ small large : Tokens, small ≤ large →
      ∀ prompt larger, render env blueprint options small = .ok prompt →
        render env blueprint options large = .ok larger →
        ∀ said, (prompt.messages.map Message.said).count said ≤
          (larger.messages.map Message.said).count said) ∧
    ending.IsCompiled ∧
    (render taleEnvironment ending .none 2).map (fun prompt => prompt.messages.map Message.said) =
      .ok [(.user, "p"), (.user, "s")] ∧
    (render taleEnvironment ending .none 3).map (fun prompt => prompt.messages.map Message.said) =
      .ok [] := by
  refine ⟨fun hall => ?_, isCompiled_ending, by decide +kernel, by decide +kernel⟩
  have hlaid := isCompiled_rivals.isLaidOut
  have hsmall := Setup.render_eq ⟨environment, rivals, RenderOptions.none, 1⟩ hlaid
  have hlarge := Setup.render_eq ⟨environment, rivals, RenderOptions.none, 2⟩ hlaid
  have hkept : (render environment rivals RenderOptions.none 1).map
      (fun prompt => prompt.messages.map Message.said) = .ok [(.user, "b")] := by cbv
  have hdropped : (render environment rivals RenderOptions.none 2).map
      (fun prompt => prompt.messages.map Message.said) = .ok [(.user, "aa")] := by cbv
  have hcount := hall environment rivals isCompiled_rivals RenderOptions.none rfl 1 2
    (by decide) _ _ hsmall hlarge (.user, "b")
  dsimp only at hsmall hlarge
  rw [hsmall] at hkept
  rw [hlarge] at hdropped
  have hone := Except.ok.inj hkept
  have htwo := Except.ok.inj hdropped
  dsimp only at hone htwo
  rw [hone, htwo] at hcount
  exact absurd hcount (by decide)

end ChatPrompt.Sample
