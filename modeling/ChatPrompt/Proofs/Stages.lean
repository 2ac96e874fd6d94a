import ChatPrompt.Proofs.Charging
import ChatPrompt.Proofs.Placement
import ChatPrompt.Render.Prompt

/-!
# The stages of a render

A render is taken apart into what stands between its stages: the prepared layout, the ledger
with everything set aside, the slots as they are filled, the messages in the order of the
layout, and the prompt with the lanes injected. For a blueprint that is laid out every stage
succeeds, and the messages of the layout have a closed form, element by element.
-/

namespace ChatPrompt

/-- What a message says and who says it. -/
def Message.said (message : Message) : Role × String := (message.role, message.content)

namespace Render

/-- The number of the slot that an element is a place for. -/
def PreparedNode.number? : PreparedNode → Option Nat
  | .message _ _ _ => none
  | .omitted => none
  | .slot _ number _ _ _ => some number

/-- The texts of an element that go into the prompt, given which slots are empty. -/
def PreparedNode.shown (isEmpty : Nat → Bool) : PreparedNode → List HeldText
  | .message held _ _ => [held]
  | .omitted => []
  | .slot _ number omitIfEmpty header footer =>
    if isEmpty number && omitIfEmpty then [] else header.toList ++ footer.toList

/-- The messages of an element, given what the slots are filled with. -/
def PreparedNode.spliced (fill : Nat → List Entry) : PreparedNode → List Placed
  | .message held openEnded anchor =>
    [⟨⟨held.role, held.text, openEnded⟩, anchor.map fun key => ⟨key, .layout⟩⟩]
  | .omitted => []
  | .slot name number omitIfEmpty header footer =>
    if (fill number).isEmpty && omitIfEmpty then []
    else header.toList.map HeldText.placed ++ (fill number).map (Entry.placed name) ++
      footer.toList.map HeldText.placed

/-- What the slot of a number is filled with, nothing where there is no such slot. -/
def Buffers.fill (buffers : Buffers) (number : Nat) : List Entry :=
  ((buffers.lookup number).map SlotBuffer.entries).getD []

/-- What a render is given. -/
structure Setup where
  /-- What it reads. -/
  env : Environment
  /-- What it renders. -/
  blueprint : Blueprint
  /-- Lanes and requests of the caller. -/
  options : RenderOptions
  /-- What may be spent. -/
  capacity : Tokens

namespace Setup

variable (setup : Setup)

/-- The lanes of the render. -/
def lanes : List Blueprint.Lane := mergedLanes setup.blueprint setup.options

/-- The layout with its texts rendered. -/
def nodes : List PreparedNode :=
  setup.blueprint.layout.mapIdx fun index node => prepareNode setup.env index node

/-- The texts of the layout for which something is set aside. -/
def texts : List HeldText := setup.nodes.flatMap PreparedNode.texts

/-- The prepared layout. -/
def prepared : PreparedLayout :=
  ⟨setup.nodes, (setup.texts.map fun held => setup.env.estimate held.text).sum⟩

/-- The ledger when everything is set aside and nothing is spent. -/
def reserved : Ledger :=
  (setup.lanes.filter Blueprint.Lane.enabled).foldl reserveLane
    (setup.texts.foldl (reserveText setup.env) (Ledger.ofCapacity setup.capacity))

/-- The slots of some numbers and the ledger after them. -/
def filledUpTo (order : List Nat) : Buffers × Ledger :=
  fillSlots setup.env setup.blueprint setup.prepared order setup.reserved

/-- All slots and the ledger after them. -/
def filled : Buffers × Ledger := setup.filledUpTo setup.blueprint.order

/-- What the slot of a number is filled with. -/
def fill (number : Nat) : List Entry := Buffers.fill setup.filled.1 number

/-- The texts that some elements of the layout put into the prompt. -/
def shownBy (nodes : List PreparedNode) : List HeldText :=
  nodes.flatMap (PreparedNode.shown fun number => (setup.fill number).isEmpty)

/-- The ledger after some elements of the layout. -/
def assembledUpTo (nodes : List PreparedNode) : Ledger :=
  (setup.shownBy nodes).foldl (settleText setup.env) setup.filled.2

/-- The messages of the layout with those of the slots. -/
def placed : List Placed := setup.nodes.flatMap (PreparedNode.spliced setup.fill)

/-- The prompt and the ledger after some lanes. -/
def injectedUpTo (lanes : List Blueprint.Lane) : Injection.Injected :=
  lanes.foldl (Injection.injectLane setup.env.estimate setup.options.injections)
    ⟨setup.placed, setup.assembledUpTo setup.nodes, [], []⟩

/-- The prompt and the ledger after all lanes. -/
def injected : Injection.Injected :=
  setup.injectedUpTo (Injection.lanesInOrder setup.lanes)

/-- What the slots did, in the order in which they were filled. -/
def stats : List SlotStats := setup.filled.1.map fun buffer => buffer.2.stats

/-- The report. -/
def report : Report :=
  ⟨setup.capacity, setup.injected.ledger.spent, setup.prepared.floorTokens, setup.stats,
    setup.injected.lanes, setup.stats.filterMap slotDrop ++ setup.injected.drops⟩

/-- The same render of another blueprint. -/
def withBlueprint (blueprint : Blueprint) : Setup := { setup with blueprint := blueprint }

/-- The finished prompt. -/
def prompt : Prompt :=
  ⟨(closeEarly setup.injected.placed).map Placed.message,
    anchorsFrom 0 [] (closeEarly setup.injected.placed), setup.report⟩

end Setup

variable (env : Environment)

/-- Each prepared place for a slot has the number of the place in the layout. -/
theorem number?_prepareNode (index : Nat) (node : Blueprint.LayoutNode) :
    (prepareNode env index node).number? =
      node.placeholder?.map Blueprint.Placeholder.slot := by
  cases node with
  | message details =>
    simp only [prepareNode]
    split <;> rfl
  | slot place => rfl

/-- Elements of a layout that are read without their place are read one after the other. -/
theorem flatMap_mapIdx_prepareNode {α : Type} {layout : List Blueprint.LayoutNode}
    {read : PreparedNode → List α} {content : Blueprint.LayoutNode → List α}
    (h : ∀ index node, read (prepareNode env index node) = content node) :
    (layout.mapIdx fun index node => prepareNode env index node).flatMap read =
      layout.flatMap content := by
  have hread : (fun entry : Blueprint.LayoutNode × Nat =>
      read (prepareNode env entry.2 entry.1)) = content ∘ Prod.fst :=
    funext fun entry => h entry.2 entry.1
  rw [List.mapIdx_eq_zipIdx_map, List.flatMap_map, hread]
  change layout.zipIdx.flatMap (fun entry => content entry.1) = _
  rw [← List.flatMap_map Prod.fst content, List.zipIdx_map_fst]

/-- The ledger after a slot: what was set aside around it is given up if it is empty. -/
def afterSlot (prepared : PreparedLayout) (number : Nat) (slot : Blueprint.Slot)
    (ledger : Ledger) : Ledger :=
  if (fillSlot env slot ledger).1.entries.isEmpty then
    (omittedTexts number prepared.nodes).foldl releaseText (fillSlot env slot ledger).2
  else (fillSlot env slot ledger).2

/-- A slot that exists is filled before those after it. -/
theorem fillSlots_cons {blueprint : Blueprint} {number : Nat} {slot : Blueprint.Slot}
    (h : blueprint.slots[number]? = some slot) (prepared : PreparedLayout) (rest : List Nat)
    (ledger : Ledger) :
    fillSlots env blueprint prepared (number :: rest) ledger =
      ((number, (fillSlot env slot ledger).1) ::
          (fillSlots env blueprint prepared rest (afterSlot env prepared number slot ledger)).1,
        (fillSlots env blueprint prepared rest
          (afterSlot env prepared number slot ledger)).2) := by
  rw [fillSlots, h]
  rfl

/-- The number of no slot is passed over. -/
theorem fillSlots_cons_of_none {blueprint : Blueprint} {number : Nat}
    (h : blueprint.slots[number]? = none) (prepared : PreparedLayout) (rest : List Nat)
    (ledger : Ledger) :
    fillSlots env blueprint prepared (number :: rest) ledger =
      fillSlots env blueprint prepared rest ledger := by
  rw [fillSlots, h]

/-- The slots that are filled are those of the order, where there are such slots. -/
theorem numbers_fillSlots (blueprint : Blueprint) (prepared : PreparedLayout)
    (order : List Nat) (ledger : Ledger) (h : ∀ number ∈ order, number < blueprint.slots.length) :
    (fillSlots env blueprint prepared order ledger).1.map Prod.fst = order := by
  induction order generalizing ledger with
  | nil => rfl
  | cons number rest ih =>
    rw [fillSlots_cons env (List.getElem?_eq_getElem (h number List.mem_cons_self)),
      List.map_cons, ih _ fun other hother => h other (List.mem_cons_of_mem _ hother)]

/-- What lies under other numbers stays when one number is taken away. -/
theorem lookup_filter_ne (buffers : Buffers) {other number : Nat} (h : other ≠ number) :
    (buffers.filter fun entry => entry.1 != number).lookup other = buffers.lookup other := by
  induction buffers with
  | nil => rfl
  | cons entry rest ih =>
    obtain ⟨found, buffer⟩ := entry
    by_cases hfound : found = number
    · subst hfound
      have hne : (other == found) = false := by simpa using h
      simpa [List.lookup_cons, hne] using ih
    · simp [hfound, List.lookup_cons, ih]

/-- Where the places of a layout have different numbers and each of them has a buffer, the
layout is put together, element by element. -/
theorem assemble_eq (fill : Nat → List Entry) (nodes : List PreparedNode) (buffers : Buffers)
    (ledger : Ledger) (hnodup : (nodes.filterMap PreparedNode.number?).Nodup)
    (hfound : ∀ number ∈ nodes.filterMap PreparedNode.number?,
      ∃ buffer, buffers.lookup number = some buffer ∧ buffer.entries = fill number) :
    assemble env nodes buffers ledger =
      .ok (nodes.flatMap (PreparedNode.spliced fill),
        (nodes.flatMap (PreparedNode.shown fun number => (fill number).isEmpty)).foldl
          (settleText env) ledger) := by
  induction nodes generalizing buffers ledger with
  | nil => rfl
  | cons node rest ih =>
    cases node with
    | omitted =>
      rw [assemble]
      rw [ih buffers ledger hnodup hfound]
      rfl
    | message held openEnded anchor =>
      rw [assemble]
      rw [ih buffers _ hnodup hfound]
      rfl
    | slot name number omitIfEmpty header footer =>
      have hnumbers : (PreparedNode.slot name number omitIfEmpty header footer :: rest).filterMap
          PreparedNode.number? = number :: rest.filterMap PreparedNode.number? := rfl
      rw [hnumbers] at hnodup hfound
      obtain ⟨hfresh, hnodup⟩ := List.nodup_cons.1 hnodup
      obtain ⟨buffer, hbuffer, hentries⟩ := hfound number List.mem_cons_self
      -- taking the buffer away leaves those of the other places, since no number repeats
      have hleft : ∀ other ∈ rest.filterMap PreparedNode.number?, ∃ found,
          (buffers.filter fun entry => entry.1 != number).lookup other = some found ∧
            found.entries = fill other := by
        intro other hother
        obtain ⟨found, hlookup, hfill⟩ := hfound other (List.mem_cons_of_mem _ hother)
        have hne : other ≠ number := fun heq => hfresh (heq ▸ hother)
        exact ⟨found, by rw [lookup_filter_ne buffers hne, hlookup], hfill⟩
      rw [assemble]
      rw [hbuffer]
      dsimp only
      by_cases hempty : (buffer.entries.isEmpty && omitIfEmpty) = true
      · rw [if_pos hempty, ih _ ledger hnodup hleft]
        rw [hentries] at hempty
        simp [PreparedNode.spliced, PreparedNode.shown, hempty]
      · rw [if_neg hempty, ih _ _ hnodup hleft]
        rw [hentries] at hempty ⊢
        simp [PreparedNode.spliced, PreparedNode.shown, hempty, bind, Except.bind, pure,
          Except.pure]

/-- Giving up what is set aside for texts leaves everything else alone. -/
theorem foldl_releaseText (texts : List HeldText) (ledger : Ledger) :
    ∃ floors, texts.foldl releaseText ledger = { ledger with floors := floors } := by
  induction texts generalizing ledger with
  | nil => exact ⟨ledger.floors, rfl⟩
  | cons held rest ih => exact ih (releaseText ledger held)

/-- What neither a charge nor what is set aside changes. -/
structure IsKept {α : Type} (kept : Ledger → α) : Prop where
  /-- A charge leaves it alone. -/
  charge : ∀ ledger tokens, kept (ledger.charge tokens) = kept ledger
  /-- Setting something aside or giving it up leaves it alone. -/
  floors : ∀ ledger floors, kept { ledger with floors := floors } = kept ledger

theorem isKept_capacity : IsKept Ledger.capacity := ⟨fun _ _ => rfl, fun _ _ => rfl⟩

section IsKept

variable {α : Type} {kept : Ledger → α} (h : IsKept kept)

include h

/-- A slot leaves alone what is kept. -/
theorem kept_afterSlot (prepared : PreparedLayout) (number : Nat) (slot : Blueprint.Slot)
    (ledger : Ledger) : kept (afterSlot env prepared number slot ledger) = kept ledger := by
  have hcharged := (fillSlot_charges env slot ledger).1
  rw [afterSlot]
  split
  · obtain ⟨floors, hfloors⟩ :=
      foldl_releaseText (omittedTexts number prepared.nodes) (fillSlot env slot ledger).2
    rw [hfloors, h.floors, hcharged, h.charge]
  · rw [hcharged, h.charge]

theorem kept_fillSlots (blueprint : Blueprint) (prepared : PreparedLayout)
    (order : List Nat) (ledger : Ledger) :
    kept (fillSlots env blueprint prepared order ledger).2 = kept ledger := by
  induction order generalizing ledger with
  | nil => rfl
  | cons number rest ih =>
    cases hslot : blueprint.slots[number]? with
    | none => rw [fillSlots_cons_of_none env hslot, ih]
    | some slot => rw [fillSlots_cons env hslot, ih, kept_afterSlot env h]

/-- Spending what is set aside for texts leaves alone what is kept. -/
theorem kept_foldl_settleText (texts : List HeldText) (ledger : Ledger) :
    kept (texts.foldl (settleText env) ledger) = kept ledger := by
  induction texts generalizing ledger with
  | nil => rfl
  | cons held rest ih =>
    have hheld : kept (settleText env ledger held) = kept ledger :=
      (h.charge _ _).trans (h.floors _ _)
    rw [List.foldl_cons, ih, hheld]

end IsKept

/-- Setting something aside for texts leaves the capacity and what is spent alone. -/
theorem foldl_reserveText (texts : List HeldText) (ledger : Ledger) :
    ∃ floors, texts.foldl (reserveText env) ledger = { ledger with floors := floors } := by
  induction texts generalizing ledger with
  | nil => exact ⟨ledger.floors, rfl⟩
  | cons held rest ih => exact ih (reserveText env ledger held)

/-- Setting the reserves of lanes aside leaves the capacity and what is spent alone. -/
theorem foldl_reserveLane (lanes : List Blueprint.Lane) (ledger : Ledger) :
    ∃ floors, lanes.foldl reserveLane ledger = { ledger with floors := floors } := by
  induction lanes generalizing ledger with
  | nil => exact ⟨ledger.floors, rfl⟩
  | cons lane rest ih =>
    have hlane : ∃ floors, reserveLane ledger lane = { ledger with floors := floors } := by
      rw [reserveLane]
      cases lane.reserve with
      | none => exact ⟨ledger.floors, rfl⟩
      | some amount =>
        dsimp only
        split
        · exact ⟨ledger.floors, rfl⟩
        · exact ⟨_, rfl⟩
    obtain ⟨floors, hfloors⟩ := hlane
    rw [List.foldl_cons, hfloors]
    exact ih _

/-- Closing early messages keeps what is said. -/
theorem said_closeEarly (placed : List Placed) :
    (closeEarly placed).map (fun entry => entry.message.said) =
      placed.map fun entry => entry.message.said := by
  induction placed with
  | nil => rfl
  | cons entry rest ih =>
    cases rest with
    | nil => rfl
    | cons next rest =>
      have hstep : closeEarly (entry :: next :: rest) =
          { entry with message := { entry.message with openEnded := false } } ::
            closeEarly (next :: rest) := rfl
      rw [hstep, List.map_cons, ih, List.map_cons]
      rfl

namespace Setup

variable (setup : Setup)

/-- The finished prompt says what was placed and injected. -/
theorem said_messages : setup.prompt.messages.map Message.said =
    (setup.injected.placed.map Placed.message).map Message.said := by
  rw [prompt, List.map_map, List.map_map]
  exact said_closeEarly setup.injected.placed

/-- What the prepared elements take over from the elements of the layout stands in their
order. -/
theorem filterMap_nodes {α : Type} {f : PreparedNode → Option α}
    {g : Blueprint.LayoutNode → Option α}
    (h : ∀ index node, f (prepareNode setup.env index node) = g node) :
    setup.nodes.filterMap f = setup.blueprint.layout.filterMap g := by
  have hnode : (f ∘ fun entry : Blueprint.LayoutNode × Nat =>
      prepareNode setup.env entry.2 entry.1) = g ∘ Prod.fst :=
    funext fun entry => h entry.2 entry.1
  rw [nodes, List.mapIdx_eq_zipIdx_map, List.filterMap_map, hnode, ← List.filterMap_map,
    List.zipIdx_map_fst]

/-- The numbers of the prepared places are those of the layout. -/
theorem numbers_eq : setup.nodes.filterMap PreparedNode.number? =
    setup.blueprint.places.map Blueprint.Placeholder.slot := by
  rw [setup.filterMap_nodes (number?_prepareNode setup.env), Blueprint.places, List.map_filterMap]

/-- When everything is set aside, nothing is spent. -/
theorem reserved_eq : ∃ floors, setup.reserved =
    { Ledger.ofCapacity setup.capacity with floors := floors } := by
  obtain ⟨held, hheld⟩ :=
    foldl_reserveText setup.env setup.texts (Ledger.ofCapacity setup.capacity)
  obtain ⟨floors, hfloors⟩ := foldl_reserveLane (setup.lanes.filter Blueprint.Lane.enabled)
    (setup.texts.foldl (reserveText setup.env) (Ledger.ofCapacity setup.capacity))
  exact ⟨floors, by rw [reserved, hfloors, hheld]⟩

theorem spent_reserved : setup.reserved.spent = 0 := by
  obtain ⟨floors, hreserved⟩ := setup.reserved_eq
  rw [hreserved]
  rfl

theorem capacity_reserved : setup.reserved.capacity = setup.capacity := by
  obtain ⟨floors, hreserved⟩ := setup.reserved_eq
  rw [hreserved]
  rfl

/-- The capacity when the layout is put together is that of the render. -/
theorem capacity_assembledUpTo (nodes : List PreparedNode) :
    (setup.assembledUpTo nodes).capacity = setup.capacity := by
  rw [assembledUpTo, kept_foldl_settleText _ isKept_capacity, filled, filledUpTo,
    kept_fillSlots _ isKept_capacity, capacity_reserved]

variable (h : setup.blueprint.IsLaidOut)

include h

/-- The numbers of the prepared layout are those of the slots, in order. -/
theorem numbers_nodes :
    setup.nodes.filterMap PreparedNode.number? = List.range setup.blueprint.slots.length := by
  rw [setup.numbers_eq, h.numbers_places]

/-- The order of filling goes through the numbers of slots. -/
theorem lt_of_mem_order : ∀ number ∈ setup.blueprint.order,
    number < setup.blueprint.slots.length :=
  fun _ hnumber => List.mem_range.1 (h.order_perm.mem_iff.1 hnumber)

/-- The slot of each prepared place is filled. -/
theorem mem_order_of_mem_nodes {number : Nat}
    (hnumber : number ∈ setup.nodes.filterMap PreparedNode.number?) :
    number ∈ setup.blueprint.order := by
  rw [setup.numbers_nodes h] at hnumber
  exact h.order_perm.mem_iff.2 hnumber

/-- The first buffers stand in the order of filling. -/
theorem numbers_filledUpTo {before after : List Nat}
    (horder : setup.blueprint.order = before ++ after) :
    (setup.filledUpTo before).1.map Prod.fst = before :=
  numbers_fillSlots setup.env setup.blueprint setup.prepared _ _ fun number hnumber =>
    setup.lt_of_mem_order h number (horder ▸ List.mem_append_left after hnumber)

/-- The buffers stand in the order of filling. -/
theorem numbers_filled : setup.filled.1.map Prod.fst = setup.blueprint.order :=
  setup.numbers_filledUpTo h (List.append_nil _).symm

/-- No slot has two buffers. -/
theorem nodup_filled : (setup.filled.1.map Prod.fst).Nodup :=
  setup.numbers_filled h ▸ h.nodup_order

/-- What the slot of a buffer is filled with is in the buffer. -/
theorem fill_of_mem {entry : Nat × SlotBuffer} (hentry : entry ∈ setup.filled.1) :
    setup.fill entry.1 = entry.2.entries := by
  rw [fill, Buffers.fill, Keyed.lookup_of_mem (setup.nodup_filled h) hentry]
  rfl

/-- Each place of the layout has a buffer. -/
theorem lookup_filled : ∀ number ∈ setup.nodes.filterMap PreparedNode.number?,
    ∃ buffer, setup.filled.1.lookup number = some buffer ∧
      buffer.entries = setup.fill number := by
  intro number hnumber
  have hin := setup.mem_order_of_mem_nodes h hnumber
  rw [← setup.numbers_filled h] at hin
  obtain ⟨entry, hentry, rfl⟩ := List.mem_map.1 hin
  cases hlookup : setup.filled.1.lookup entry.1 with
  | none =>
    have hne := List.lookup_eq_none_iff.1 hlookup entry hentry
    simp at hne
  | some buffer => exact ⟨buffer, rfl, by rw [fill, Buffers.fill, hlookup]; rfl⟩

/-- Any first elements of the layout can be put together. -/
theorem assemble_eq (walked rest : List PreparedNode) (hnodes : setup.nodes = walked ++ rest) :
    assemble setup.env walked setup.filled.1 setup.filled.2 =
      .ok (walked.flatMap (PreparedNode.spliced setup.fill), setup.assembledUpTo walked) := by
  have hnodup := setup.numbers_nodes h ▸ List.nodup_range (n := setup.blueprint.slots.length)
  have hfound := setup.lookup_filled h
  rw [hnodes, List.filterMap_append] at hnodup hfound
  exact Render.assemble_eq setup.env setup.fill walked _ _ (List.nodup_append.1 hnodup).1
    fun _ hnumber => hfound _ (List.mem_append_left _ hnumber)

/-- A render of a blueprint that is laid out gives a prompt, made in these stages, and the
ledger after the lanes. -/
theorem renderOver_eq : renderOver setup.env setup.blueprint setup.options
    (Ledger.ofCapacity setup.capacity) = .ok (setup.prompt, setup.injected.ledger) := by
  have hassemble := setup.assemble_eq h setup.nodes [] (List.append_nil _).symm
  have hcapacity := setup.capacity_assembledUpTo setup.nodes
  rw [renderOver]
  change Except.bind (assemble setup.env setup.nodes setup.filled.1 setup.filled.2) _ = _
  rw [hassemble]
  change Except.ok _ = Except.ok _
  dsimp only
  rw [hcapacity]
  rfl

/-- The prompt is what a render gives. -/
theorem render_eq :
    render setup.env setup.blueprint setup.options setup.capacity = .ok setup.prompt := by
  rw [render, setup.renderOver_eq h]
  rfl

end Setup

end Render

namespace Sample

open Render

/-- A conversation of three turns, with a token for each character. -/
def environment : Environment where
  sources := Registry.empty
  context := .object [("turns", .array [.string "a", .string "b", .string "c"])]
  estimate := Estimator.characters

/-- A request for the lane. -/
def options : RenderOptions := ⟨[], [⟨"lore", [], .string "z", 0, none⟩]⟩

/-- With five tokens there is no room for a second turn and its separator, so what the turn
spent is given back. -/
theorem messages_render : (render environment blueprint options 5).map Prompt.messages =
    .ok [⟨.system, "H", false⟩, ⟨.system, "T", false⟩, ⟨.user, "a", false⟩,
      ⟨.system, "z", false⟩] := by decide +kernel

end Sample

end ChatPrompt
