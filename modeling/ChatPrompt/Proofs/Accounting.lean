import ChatPrompt.Proofs.Lanes
import ChatPrompt.Proofs.Stages
import Mathlib.Data.List.Induction

/-!
# The account of a prompt is exact

What a render reports as spent is what its messages cost, each charged once: the texts of the
layout that went in, the messages of the slots, and the messages of the lanes. Nothing that
was refused, given back or left out stays in the account.
-/

namespace ChatPrompt.Render

variable (env : Environment)

/-- A text of the layout as a message. -/
def HeldText.message (held : HeldText) : Message := Message.of held.role held.text

/-- The messages of some buffers, in the order of the buffers. -/
def Buffers.messages (buffers : Buffers) : List Message :=
  buffers.flatMap fun buffer => buffer.2.entries.map Entry.message

/-- Whether a report says that the slot of a number came out empty. The slots of the report
stand in the order of filling. -/
def Report.saysEmpty (report : Report) (order : List Nat) (number : Nat) : Bool :=
  ((order.zip report.slots).lookup number).any fun stats => stats.messages == 0

/-- What the layout messages, headers and footers in a prompt cost, given its report. -/
def layoutBill (blueprint : Blueprint) (report : Report) : Nat :=
  env.bill
    (((blueprint.layout.mapIdx fun index node => prepareNode env index node).flatMap
      (PreparedNode.shown (report.saysEmpty blueprint.order))).map HeldText.message)

@[simp]
theorem bill_nil : env.bill [] = 0 := rfl

@[simp]
theorem bill_cons (message : Message) (rest : List Message) :
    env.bill (message :: rest) = (env.cost message).toNat + env.bill rest := by
  simp [Environment.bill]

@[simp]
theorem bill_append (before after : List Message) :
    env.bill (before ++ after) = env.bill before + env.bill after := by
  simp [Environment.bill]

/-- The order of the messages makes no difference to the bill. -/
theorem bill_perm {messages others : List Message} (h : messages.Perm others) :
    env.bill messages = env.bill others :=
  (h.map fun message => (env.cost message).toNat).sum_nat

/-- Only what is said by the messages makes a difference to the bill. -/
theorem bill_eq_of_said {messages others : List Message}
    (h : messages.map Message.said = others.map Message.said) :
    env.bill messages = env.bill others := by
  have hbill : ∀ list : List Message, env.bill list =
      ((list.map Message.said).map fun said => (env.estimate said.2).toNat).sum := by
    intro list
    rw [List.map_map]
    rfl
  rw [hbill, hbill, h]

/-- A slot reports as many messages as it has. -/
theorem messages_fillSlot (slot : Blueprint.Slot) (ledger : Ledger) :
    (fillSlot env slot ledger).1.stats.messages = (fillSlot env slot ledger).1.entries.length := by
  rw [fillSlot]
  split <;> rfl

/-- A slot reports what was spent on it. -/
theorem tokens_fillSlot (slot : Blueprint.Slot) (ledger : Ledger) :
    (fillSlot env slot ledger).1.stats.tokens =
      Tokens.minus (fillSlot env slot ledger).2.spent ledger.spent := by
  rw [fillSlot]
  split
  · rfl
  · simp [Tokens.minus]

/-- Giving up what is set aside after a slot spends nothing. -/
theorem spent_afterSlot (prepared : PreparedLayout) (number : Nat) (slot : Blueprint.Slot)
    (ledger : Ledger) :
    (afterSlot env prepared number slot ledger).spent = (fillSlot env slot ledger).2.spent := by
  rw [afterSlot]
  split
  · obtain ⟨floors, hfloors⟩ :=
      foldl_releaseText (omittedTexts number prepared.nodes) (fillSlot env slot ledger).2
    rw [hfloors]
  · rfl

/-- Filling slots spends what their messages cost. -/
theorem spent_fillSlots (blueprint : Blueprint) (prepared : PreparedLayout)
    (order : List Nat) (ledger : Ledger) :
    (fillSlots env blueprint prepared order ledger).2.spent =
      ledger.spent + env.costs (fillSlots env blueprint prepared order ledger).1.messages := by
  induction order generalizing ledger with
  | nil => simp [fillSlots, Buffers.messages]
  | cons number rest ih =>
    cases hslot : blueprint.slots[number]? with
    | none => rw [fillSlots_cons_of_none env hslot, ih]
    | some slot =>
      have hcharged := (fillSlot_charges env slot ledger).1
      rw [fillSlots_cons env hslot]
      dsimp only
      rw [ih, spent_afterSlot, hcharged]
      simp [Buffers.messages, Ledger.charge, Environment.price, UInt64.add_assoc]

/-- What slots report adds up to the bill for their messages, where the account stays in the
range of amounts. -/
theorem tokens_fillSlots (blueprint : Blueprint) (prepared : PreparedLayout)
    (order : List Nat) (ledger : Ledger)
    (h : ledger.spent.toNat +
      env.bill (fillSlots env blueprint prepared order ledger).1.messages < 2 ^ 64) :
    ((fillSlots env blueprint prepared order ledger).1.map fun buffer =>
        buffer.2.stats.tokens.toNat).sum =
      env.bill (fillSlots env blueprint prepared order ledger).1.messages := by
  induction order generalizing ledger with
  | nil => rfl
  | cons number rest ih =>
    cases hslot : blueprint.slots[number]? with
    | none =>
      rw [fillSlots_cons_of_none env hslot] at h ⊢
      exact ih ledger h
    | some slot =>
      rw [fillSlots_cons env hslot] at h ⊢
      simp only [Buffers.messages, List.flatMap_cons, bill_append, List.map_cons,
        List.sum_cons] at h ⊢
      have hprice := toNat_costs env
        ((fillSlot env slot ledger).1.entries.map Entry.message) (by omega)
      have hspent : (fillSlot env slot ledger).2.spent.toNat = ledger.spent.toNat +
          env.bill ((fillSlot env slot ledger).1.entries.map Entry.message) := by
        rw [(fillSlot_charges env slot ledger).1]
        change (ledger.spent + env.price _).toNat = _
        rw [UInt64.toNat_add, Environment.price, hprice, Nat.mod_eq_of_lt (by omega)]
      rw [tokens_fillSlot, Tokens.toNat_minus, hspent]
      have hrest := ih (afterSlot env prepared number slot ledger) (by
        rw [spent_afterSlot, hspent]
        simp only [Buffers.messages]
        omega)
      simp only [Buffers.messages] at hrest
      omega

/-- Putting texts of the layout into the prompt spends what they cost. -/
theorem spent_foldl_settleText (texts : List HeldText) (ledger : Ledger) :
    (texts.foldl (settleText env) ledger).spent =
      ledger.spent + env.costs (texts.map HeldText.message) := by
  induction texts generalizing ledger with
  | nil => simp
  | cons held rest ih =>
    rw [List.foldl_cons, ih, List.map_cons, costs_cons, ← UInt64.add_assoc]
    rfl

/-- The messages of an element cost what its texts and the messages of its slot cost. -/
theorem bill_spliced (fill : Nat → List Entry) (node : PreparedNode) :
    env.bill ((node.spliced fill).map Placed.message) =
      env.bill ((node.shown fun number => (fill number).isEmpty).map HeldText.message) +
        (node.number?.toList.map fun number =>
          env.bill ((fill number).map Entry.message)).sum := by
  have htexts : ∀ texts : List HeldText,
      (texts.map HeldText.placed).map Placed.message = texts.map HeldText.message := by
    intro texts
    rw [List.map_map]
    rfl
  cases node with
  | message held openEnded anchor =>
    simp [PreparedNode.spliced, PreparedNode.shown, PreparedNode.number?, HeldText.message,
      Environment.cost, Message.of]
  | omitted => rfl
  | slot name number omitIfEmpty header footer =>
    have hentries : ((fill number).map (Entry.placed name)).map Placed.message =
        (fill number).map Entry.message := by
      rw [List.map_map]
      rfl
    simp only [PreparedNode.spliced, PreparedNode.shown]
    by_cases hempty : ((fill number).isEmpty && omitIfEmpty) = true
    · have hnil : fill number = [] := List.isEmpty_iff.1 (Bool.and_eq_true_iff.1 hempty).1
      rw [if_pos hempty, if_pos hempty]
      simp [hnil, PreparedNode.number?]
    · simp only [hempty, Bool.false_eq_true, if_false, List.map_append, bill_append, htexts,
        hentries, PreparedNode.number?, Option.toList_some, List.map_cons, List.map_nil,
        List.sum_cons, List.sum_nil]
      omega

/-- The messages of a layout cost what its texts and the messages of its slots cost. -/
theorem bill_flatMap_spliced (fill : Nat → List Entry) (nodes : List PreparedNode) :
    env.bill ((nodes.flatMap (PreparedNode.spliced fill)).map Placed.message) =
      env.bill ((nodes.flatMap
          (PreparedNode.shown fun number => (fill number).isEmpty)).map HeldText.message) +
        ((nodes.filterMap PreparedNode.number?).map fun number =>
          env.bill ((fill number).map Entry.message)).sum := by
  induction nodes with
  | nil => rfl
  | cons node rest ih =>
    have hnode := bill_spliced env fill node
    rw [List.flatMap_cons, List.map_append, bill_append, List.flatMap_cons, List.map_append,
      bill_append, ih, hnode]
    cases hnumber : node.number? with
    | none =>
      rw [List.filterMap_cons_none hnumber]
      simp only [Option.toList_none, List.map_nil, List.sum_nil]
      omega
    | some number =>
      rw [List.filterMap_cons_some hnumber]
      simp only [Option.toList_some, List.map_cons, List.map_nil, List.sum_cons, List.sum_nil]
      omega

/-- What is made of the things under some numbers is found under the same numbers. -/
theorem lookup_map {α β : Type} (f : α → β) (entries : List (Nat × α)) (number : Nat) :
    (entries.map (Prod.map id f)).lookup number = (entries.lookup number).map f := by
  induction entries with
  | nil => rfl
  | cons first rest ih =>
    rw [List.map_cons, List.lookup_cons, List.lookup_cons, ih]
    cases hfirst : number == first.1 with
    | true => simp [hfirst]
    | false => simp [hfirst]

/-- What slots report is found under their numbers. -/
theorem lookup_stats (buffers : Buffers) (number : Nat) :
    (buffers.map fun entry => (entry.1, entry.2.stats)).lookup number =
      (buffers.lookup number).map SlotBuffer.stats := lookup_map SlotBuffer.stats buffers number

/-- Every buffer that slots are filled with reports as many messages as it has. -/
theorem messages_fillSlots (blueprint : Blueprint) (prepared : PreparedLayout)
    (order : List Nat) (ledger : Ledger) :
    ∀ entry ∈ (fillSlots env blueprint prepared order ledger).1,
      entry.2.stats.messages = entry.2.entries.length := by
  induction order generalizing ledger with
  | nil => exact fun _ hentry => nomatch hentry
  | cons number rest ih =>
    cases hslot : blueprint.slots[number]? with
    | none =>
      rw [fillSlots_cons_of_none env hslot]
      exact ih ledger
    | some slot =>
      rw [fillSlots_cons env hslot]
      intro entry hentry
      rcases List.mem_cons.1 hentry with rfl | hin
      · exact messages_fillSlot env slot ledger
      · exact ih _ entry hin

namespace Setup

variable (setup : Setup)

/-- Putting the layout together comes after spending on the slots, and both spend what their
messages cost. -/
theorem spent_assembled :
    (setup.assembledUpTo setup.nodes).spent = setup.env.costs (setup.filled.1.messages ++
      (setup.shownBy setup.nodes).map HeldText.message) := by
  have hslots := spent_fillSlots setup.env setup.blueprint setup.prepared
    setup.blueprint.order setup.reserved
  rw [setup.spent_reserved, UInt64.zero_add] at hslots
  rw [assembledUpTo, spent_foldl_settleText, costs_append]
  exact congrArg (· + _) hslots

/-- The lanes make some messages join, and report what these cost. -/
theorem exists_inserted (lanes : List Blueprint.Lane) :
    ∃ inserted : List Message,
      ((setup.injectedUpTo lanes).placed.map Placed.message).Perm
        (setup.placed.map Placed.message ++ inserted) ∧
      (setup.injectedUpTo lanes).ledger.spent =
        (setup.assembledUpTo setup.nodes).spent + setup.env.costs inserted ∧
      (setup.env.bill inserted < 2 ^ 64 →
        ((setup.injectedUpTo lanes).lanes.map fun stats => stats.tokens.toNat).sum =
          setup.env.bill inserted) := by
  induction lanes using List.reverseRecOn with
  | nil => exact ⟨[], by simp [injectedUpTo], by simp [injectedUpTo], fun _ => rfl⟩
  | append_singleton before lane ih =>
    obtain ⟨inserted, hperm, hspent, htokens⟩ := ih
    obtain ⟨joined, hjoins⟩ := Injection.injectLane_joins setup.env setup.options.injections
      (setup.injectedUpTo before) lane
    obtain ⟨stats, hlanes, hstats⟩ := hjoins.lanes_eq
    have hstep : setup.injectedUpTo (before ++ [lane]) =
        Injection.injectLane setup.env.estimate setup.options.injections
          (setup.injectedUpTo before) lane := by
      simp [injectedUpTo]
    rw [hstep]
    refine ⟨inserted ++ joined.map Placed.message, ?_, ?_, ?_⟩
    · have hall := hjoins.placed_perm.map Placed.message
      rw [List.map_append] at hall
      rw [← List.append_assoc]
      exact hall.trans (hperm.append_right _)
    · rw [hjoins.ledger_eq, costs_append, ← UInt64.add_assoc, ← hspent]
      rfl
    · intro hbound
      rw [bill_append] at hbound ⊢
      rw [hlanes, List.map_append, List.sum_append, htokens (by omega)]
      simp [hstats, toNat_costs setup.env (joined.map Placed.message) (by omega)]

/-- What the slots report adds up to the bill for their messages, where that is in the range
of amounts. -/
theorem tokens_stats (hbound : setup.env.bill setup.filled.1.messages < 2 ^ 64) :
    (setup.stats.map fun stats => stats.tokens.toNat).sum =
      setup.env.bill setup.filled.1.messages := by
  have hslots := tokens_fillSlots setup.env setup.blueprint setup.prepared
    setup.blueprint.order setup.reserved
  rw [setup.spent_reserved] at hslots
  rw [stats, List.map_map]
  exact hslots (by rwa [UInt64.toNat_zero, Nat.zero_add])

variable (h : setup.blueprint.IsLaidOut)

include h

/-- What the places of the layout are filled with is what the slots were filled with. -/
theorem sum_fill : ((setup.nodes.filterMap PreparedNode.number?).map fun number =>
    setup.env.bill ((setup.fill number).map Entry.message)).sum =
      setup.env.bill setup.filled.1.messages := by
  rw [setup.numbers_nodes h, ← (h.order_perm.map _).sum_nat, ← setup.numbers_filled h,
    List.map_map]
  have hmap : setup.filled.1.map ((fun number =>
      setup.env.bill ((setup.fill number).map Entry.message)) ∘ Prod.fst) =
        setup.filled.1.map fun entry => setup.env.bill (entry.2.entries.map Entry.message) := by
    apply List.map_congr_left
    intro entry hentry
    rw [Function.comp_apply, setup.fill_of_mem h hentry]
  rw [hmap]
  rw [Buffers.messages]
  induction setup.filled.1 with
  | nil => rfl
  | cons entry rest ih => rw [List.map_cons, List.sum_cons, ih, List.flatMap_cons, bill_append]

/-- The report says which slots came out empty. -/
theorem saysEmpty_eq : ∀ number ∈ setup.nodes.filterMap PreparedNode.number?,
    setup.report.saysEmpty setup.blueprint.order number = (setup.fill number).isEmpty := by
  intro number hnumber
  obtain ⟨buffer, hlookup, hfill⟩ := setup.lookup_filled h number hnumber
  have hzip : setup.blueprint.order.zip setup.report.slots =
      setup.filled.1.map fun entry => (entry.1, entry.2.stats) := by
    rw [← setup.numbers_filled h]
    exact List.zip_map' ..
  have hmessages := messages_fillSlots setup.env setup.blueprint setup.prepared
    setup.blueprint.order setup.reserved (number, buffer) (Keyed.mem_of_lookup hlookup)
  dsimp only at hmessages
  rw [Report.saysEmpty, hzip, lookup_stats, hlookup, ← hfill]
  simp only [Option.map_some, Option.any_some, hmessages]
  cases buffer.entries <;> rfl

/-- The texts that went in, as the report has them, are those that were put in. -/
theorem layoutBill_eq : layoutBill setup.env setup.blueprint setup.report =
    setup.env.bill ((setup.shownBy setup.nodes).map HeldText.message) := by
  have hshown : ∀ node ∈ setup.nodes,
      node.shown (setup.report.saysEmpty setup.blueprint.order) =
        node.shown fun number => (setup.fill number).isEmpty := by
    intro node hnode
    cases node with
    | message held openEnded anchor => rfl
    | omitted => rfl
    | slot name number omitIfEmpty header footer =>
      have hnumber := setup.saysEmpty_eq h number
        (List.mem_filterMap.2 ⟨_, hnode, rfl⟩)
      simp only [PreparedNode.shown, hnumber]
  rw [layoutBill, shownBy]
  change setup.env.bill ((setup.nodes.flatMap _).map HeldText.message) = _
  rw [List.flatMap_def, List.map_congr_left hshown, ← List.flatMap_def]

/-- The messages of the layout and of the slots are billed apart. -/
theorem bill_placed : setup.env.bill (setup.placed.map Placed.message) =
    setup.env.bill ((setup.shownBy setup.nodes).map HeldText.message) +
      setup.env.bill setup.filled.1.messages := by
  have hspliced := bill_flatMap_spliced setup.env setup.fill setup.nodes
  rw [setup.sum_fill h] at hspliced
  exact hspliced

/-- The account of a prompt is exact, in all and part by part. -/
theorem prompt_accounts (hbound : setup.env.bill setup.prompt.messages < 2 ^ 64) :
    setup.report.spent.toNat = setup.env.bill setup.prompt.messages ∧
      setup.report.spent.toNat = layoutBill setup.env setup.blueprint setup.report +
        (setup.stats.map fun stats => stats.tokens.toNat).sum +
        (setup.injected.lanes.map fun stats => stats.tokens.toNat).sum := by
  obtain ⟨inserted, hperm, hspent, htokens⟩ :
      ∃ inserted : List Message,
        (setup.injected.placed.map Placed.message).Perm
          (setup.placed.map Placed.message ++ inserted) ∧
        setup.report.spent =
          (setup.assembledUpTo setup.nodes).spent + setup.env.costs inserted ∧
        (setup.env.bill inserted < 2 ^ 64 →
          (setup.injected.lanes.map fun stats => stats.tokens.toNat).sum =
            setup.env.bill inserted) :=
    setup.exists_inserted (Injection.lanesInOrder setup.lanes)
  have hbill : setup.env.bill setup.prompt.messages =
      setup.env.bill ((setup.shownBy setup.nodes).map HeldText.message) +
        setup.env.bill setup.filled.1.messages + setup.env.bill inserted := by
    rw [bill_eq_of_said setup.env setup.said_messages, bill_perm setup.env hperm, bill_append,
      setup.bill_placed h]
  have htotal : setup.report.spent = setup.env.costs ((setup.filled.1.messages ++
      (setup.shownBy setup.nodes).map HeldText.message) ++ inserted) := by
    rw [hspent, setup.spent_assembled, ← costs_append]
  have hexact : setup.report.spent.toNat = setup.env.bill setup.prompt.messages := by
    rw [htotal, toNat_costs setup.env, bill_append, bill_append, hbill]
    · omega
    · rw [bill_append, bill_append]
      omega
  have hslots : setup.env.bill setup.filled.1.messages < 2 ^ 64 := by omega
  have hjoined : setup.env.bill inserted < 2 ^ 64 := by omega
  refine ⟨hexact, ?_⟩
  rw [hexact, hbill, setup.layoutBill_eq h, setup.tokens_stats hslots, htokens hjoined]

end Setup

/-- The account of every render of a compiled blueprint is exact: what is reported as spent
is the bill for the messages, and it is what the layout, the slots and the lanes report
together. -/
theorem spent_eq_bill {blueprint : Blueprint} (h : blueprint.IsCompiled)
    (options : RenderOptions) (capacity : Tokens) :
    ∃ prompt, render env blueprint options capacity = .ok prompt ∧
      (env.bill prompt.messages < 2 ^ 64 →
        prompt.report.spent.toNat = env.bill prompt.messages ∧
        prompt.report.spent.toNat = layoutBill env blueprint prompt.report +
          (prompt.report.slots.map fun stats => stats.tokens.toNat).sum +
          (prompt.report.lanes.map fun stats => stats.tokens.toNat).sum) := by
  have hlaid := h.isLaidOut
  let setup : Setup := ⟨env, blueprint, options, capacity⟩
  exact ⟨setup.prompt, setup.render_eq hlaid, setup.prompt_accounts hlaid⟩

/-- The account of the sample, where a turn is given back and a lane has a reserve. -/
theorem spent_eq_bill_sample :
    ∃ prompt, render Sample.environment Sample.blueprint Sample.options 5 = .ok prompt ∧
      Sample.environment.bill prompt.messages = 4 ∧ prompt.report.spent.toNat = 4 ∧
      layoutBill Sample.environment Sample.blueprint prompt.report +
        (prompt.report.slots.map fun stats => stats.tokens.toNat).sum +
        (prompt.report.lanes.map fun stats => stats.tokens.toNat).sum = 4 := by
  obtain ⟨prompt, hrender, haccount⟩ :=
    spent_eq_bill Sample.environment Sample.isCompiled Sample.options 5
  have hmessages := Sample.messages_render
  rw [hrender] at hmessages
  have hbill : Sample.environment.bill prompt.messages = 4 := by
    rw [Except.ok.inj hmessages]
    rfl
  obtain ⟨hspent, hparts⟩ := haccount (by omega)
  exact ⟨prompt, hrender, hbill, by omega, by omega⟩

end ChatPrompt.Render
