import ChatPrompt.Proofs.Accounting
import ChatPrompt.Proofs.Attribution
import ChatPrompt.Proofs.Translation

/-!
# Fixed keys are unique in a prompt

The messages that the layout and the slots put into a prompt are attributed to the messages of the
blueprint, through the slots in the order in which they are filled and then through the elements of
the layout. Each element puts in its own messages, and each slot has one place, so a message that
declares a fixed key is put in at most once. Its key is the one that it declares, unless that is
blank. Since a compiled blueprint declares no fixed key twice, no two of these messages carry one
key.
-/

namespace ChatPrompt.Render

open Blueprint (messagesOf VaryInLoops)
open Attributed

variable (env : Environment)

/-- What a slot says. -/
def attributeSlot (slot : Blueprint.Slot) (ledger : Ledger) : List (Attributed Entry) :=
  if isWanted env slot then
    attributeNodes env env.root false slot.plan (ledger.openCap? slot.budget).2
  else []

/-- What is attributed in a slot is what the slot is filled with. -/
theorem map_value_attributeSlot (slot : Blueprint.Slot) (ledger : Ledger) :
    (attributeSlot env slot ledger).map value = (fillSlot env slot ledger).1.entries := by
  rw [attributeSlot, fillSlot]
  split
  · exact map_value_attributeNodes env env.root false slot.plan _
  · rfl

/-- What the slots of some numbers say, each over the ledger that those before it leave. -/
def attributeSlots (blueprint : Blueprint) (prepared : PreparedLayout) :
    List Nat → Ledger → List (Nat × List (Attributed Entry))
  | [], _ => []
  | number :: rest, ledger =>
    match blueprint.slots[number]? with
    | none => attributeSlots blueprint prepared rest ledger
    | some slot => (number, attributeSlot env slot ledger) ::
        attributeSlots blueprint prepared rest (afterSlot env prepared number slot ledger)

/-- What is attributed in some slots is what they are filled with. -/
theorem map_value_attributeSlots (blueprint : Blueprint) (prepared : PreparedLayout)
    (order : List Nat) (ledger : Ledger) :
    (attributeSlots env blueprint prepared order ledger).map (Prod.map id (List.map value)) =
      (fillSlots env blueprint prepared order ledger).1.map
        (Prod.map id SlotBuffer.entries) := by
  induction order generalizing ledger with
  | nil => rfl
  | cons number rest ih =>
    rw [attributeSlots]
    cases hslot : blueprint.slots[number]? with
    | none =>
      rw [fillSlots_cons_of_none env hslot]
      exact ih ledger
    | some slot =>
      rw [fillSlots_cons env hslot, List.map_cons, List.map_cons, ← ih, Prod.map_apply,
        Prod.map_apply, map_value_attributeSlot]

/-- What is attributed under a number is what a slot of that number says over some ledger. -/
theorem exists_of_mem_attributeSlots (blueprint : Blueprint) (prepared : PreparedLayout)
    (order : List Nat) (ledger : Ledger) :
    ∀ filled ∈ attributeSlots env blueprint prepared order ledger,
      ∃ slot before, blueprint.slots[filled.1]? = some slot ∧
        filled.2 = attributeSlot env slot before := by
  induction order generalizing ledger with
  | nil => exact List.forall_mem_nil _
  | cons number rest ih =>
    rw [attributeSlots]
    cases hslot : blueprint.slots[number]? with
    | none => exact ih ledger
    | some slot => exact List.forall_mem_cons.2 ⟨⟨slot, ledger, hslot, rfl⟩, ih _⟩

/-- What an element of the layout puts into the prompt, given what the slots say. -/
def attributeElement (fill : Nat → List (Attributed Entry)) :
    Blueprint.LayoutNode → List (Attributed Placed)
  | .message details => allFrom details (emits env (fun _ => []) (.message details))
  | .slot place =>
    if (fill place.slot).isEmpty && place.omitIfEmpty then []
    else allFree (frameMessages env.root place.header) ++
      (fill place.slot).map (Attributed.map (Entry.placed place.name)) ++
        allFree (frameMessages env.root place.footer)

/-- What is attributed in an element of the layout is what the element puts in. -/
theorem map_value_attributeElement (fill : Nat → List (Attributed Entry))
    (node : Blueprint.LayoutNode) :
    (attributeElement env fill node).map value =
      emits env (fun number => (fill number).map value) node := by
  cases node with
  | message details => exact map_value_allFrom details _
  | slot place =>
    have hentries : ((fill place.slot).map (Attributed.map (Entry.placed place.name))).map value =
        ((fill place.slot).map value).map (Entry.placed place.name) := by
      rw [List.map_map, List.map_map]
      rfl
    rw [attributeElement, emits, List.isEmpty_map]
    split
    · rfl
    · rw [List.map_append, List.map_append, map_value_allFree, map_value_allFree, hentries]

/-- A message in the prompt comes from one of some messages and carries its key in some scope, or it
comes from none and carries no key. -/
def Attributed.IsPlacedOf (messages : List Blueprint.Message) (attributed : Attributed Placed) :
    Prop :=
  attributed.source = none ∧ attributed.value.mark = none ∨
    ∃ message ∈ messages, attributed.source = some message ∧
      ∃ scope, attributed.value.mark.map Mark.key = anchorKey scope message.anchor

/-- Headers and footers come from no message. -/
theorem isPlacedOf_frameMessages (messages : List Blueprint.Message) (scope : Scope)
    (frame : Option Blueprint.Frame) :
    ∀ attributed ∈ allFree (frameMessages scope frame), attributed.IsPlacedOf messages := by
  intro attributed hattributed
  obtain ⟨placed, hplaced, rfl⟩ := List.mem_map.1 hattributed
  obtain ⟨role, text, rfl⟩ := mem_frameMessages hplaced
  exact .inl ⟨rfl, rfl⟩

/-- What is generated for a slot comes from the same message when it is put into the prompt. -/
theorem Attributed.IsOf.placed {messages : List Blueprint.Message} {attributed : Attributed Entry}
    (h : attributed.IsOf messages) (name : String) :
    (attributed.map (Entry.placed name)).IsPlacedOf messages := by
  have hkey : (attributed.map (Entry.placed name)).value.mark.map Mark.key =
      attributed.value.anchor := by
    change (attributed.value.anchor.map fun key => Mark.mk key (.slot name)).map Mark.key = _
    rw [Option.map_map]
    exact Option.map_id'
  rcases h with ⟨hnone, hfree⟩ | ⟨message, hmessage, hsource, scope, hscope⟩
  · refine .inl ⟨hnone, ?_⟩
    rw [hfree, Option.map_eq_none_iff] at hkey
    exact hkey
  · exact .inr ⟨message, hmessage, hsource, scope, hkey.trans hscope⟩

/-- What an element of the layout puts in comes from its messages, if it is so with the slots. -/
theorem isPlacedOf_attributeElement {blueprint : Blueprint}
    {fill : Nat → List (Attributed Entry)}
    (h : ∀ number, ∀ attributed ∈ fill number, attributed.IsOf (blueprint.slotMessages number))
    (node : Blueprint.LayoutNode) : ∀ attributed ∈ attributeElement env fill node,
      attributed.IsPlacedOf (blueprint.nodeMessages node) := by
  cases node with
  | message details =>
    intro attributed hattributed
    obtain ⟨placed, hplaced, rfl⟩ := List.mem_map.1 hattributed
    refine .inr ⟨details, List.mem_singleton.2 rfl, rfl, env.root, ?_⟩
    rw [mem_emits_message hplaced, Option.map_map]
    exact Option.map_id'
  | slot place =>
    rw [attributeElement]
    split
    · exact List.forall_mem_nil _
    · refine List.forall_mem_append.2 ⟨List.forall_mem_append.2
        ⟨isPlacedOf_frameMessages _ _ _, ?_⟩, isPlacedOf_frameMessages _ _ _⟩
      intro attributed hattributed
      obtain ⟨one, hone, rfl⟩ := List.mem_map.1 hattributed
      exact (h place.slot one hone).placed place.name

/-- A message with a fixed key is put in at most once by the elements of the layout, if it is so
with the slots. -/
theorem fixedSources_attributeElement_sublist {blueprint : Blueprint}
    {fill : Nat → List (Attributed Entry)}
    (h : ∀ number, (fixedSources (fill number)).Sublist
      ((blueprint.slotMessages number).filter Blueprint.Message.isFixed))
    (node : Blueprint.LayoutNode) :
    (fixedSources (attributeElement env fill node)).Sublist
      ((blueprint.nodeMessages node).filter Blueprint.Message.isFixed) := by
  cases node with
  | message details =>
    refine List.Sublist.filter _ ?_
    rw [attributeElement, emits]
    split
    · exact List.nil_sublist _
    · exact .refl _
  | slot place =>
    rw [attributeElement]
    split
    · exact List.nil_sublist _
    · rw [fixedSources, sources_append, sources_append, sources_allFree, sources_allFree,
        sources_map, List.nil_append, List.append_nil]
      exact h place.slot

/-- The key of a message that was read and is fixed is the same in every scope, unless it is
blank. -/
theorem anchorKey_of_fixedKey? {message : Blueprint.Message} (hread : message.IsRead) {key : String}
    (hkey : message.fixedKey? = some key) (scope : Scope) :
    anchorKey scope message.anchor = Text.contentful? key := by
  obtain ⟨leaf, hleaf, hfixed⟩ := Option.bind_eq_some_iff.1 hkey
  split at hfixed
  · cases hfixed
  · next hvaries =>
    obtain rfl := Option.some.inj hfixed
    rw [anchorKey, hleaf, Option.bind_some,
      Leaf.render_of_hasVariables_eq_false (hread leaf hleaf) (Bool.eq_false_iff.2 hvaries)]

/-- The fixed key that is declared by the message that something comes from. -/
def Attributed.fixedKey? {α : Type} (attributed : Attributed α) : Option String :=
  attributed.source.bind Blueprint.Message.fixedKey?

/-- The fixed keys of some messages are those of the ones that are fixed. -/
theorem filterMap_filter_isFixed (messages : List Blueprint.Message) :
    (messages.filter Blueprint.Message.isFixed).filterMap Blueprint.Message.fixedKey? =
      messages.filterMap Blueprint.Message.fixedKey? := by
  rw [List.filterMap_filter]
  refine List.filterMap_congr fun message _ => ?_
  rw [Blueprint.Message.isFixed]
  cases message.fixedKey? <;> rfl

namespace Setup

variable (setup : Setup)

/-- What the slot of a number says. -/
def attributedFill (number : Nat) : List (Attributed Entry) :=
  ((attributeSlots setup.env setup.blueprint setup.prepared setup.blueprint.order
    setup.reserved).lookup number).getD []

/-- What the layout and the slots put into the prompt. -/
def attributed : List (Attributed Placed) :=
  setup.blueprint.layout.flatMap (attributeElement setup.env setup.attributedFill)

/-- The keys of what comes from messages with fixed keys. -/
def fixedKeys : List String :=
  (setup.attributed.filter fun attributed => attributed.fixedKey?.isSome).filterMap
    fun attributed => attributed.value.mark.map Mark.key

/-- What is attributed in a slot is what the slot is filled with. -/
theorem map_value_attributedFill (number : Nat) :
    (setup.attributedFill number).map value = setup.fill number := by
  have hslots := map_value_attributeSlots setup.env setup.blueprint setup.prepared
    setup.blueprint.order setup.reserved
  have hlookup := congrArg (List.lookup number) hslots
  rw [lookup_map, lookup_map] at hlookup
  rw [attributedFill, fill, Buffers.fill, filled, filledUpTo, ← hlookup]
  cases (attributeSlots setup.env setup.blueprint setup.prepared setup.blueprint.order
    setup.reserved).lookup number <;> rfl

/-- What is attributed in a prompt is what the layout and the slots put in. -/
theorem map_value_attributed : setup.attributed.map value = setup.placed := by
  have hfill : (fun number => (setup.attributedFill number).map value) = setup.fill :=
    funext setup.map_value_attributedFill
  rw [placed, nodes, flatMap_mapIdx_prepareNode setup.env
    (spliced_prepareNode setup.env setup.fill), attributed, List.map_flatMap]
  refine List.flatMap_congr fun node _ => ?_
  rw [map_value_attributeElement, hfill]

/-- What is attributed in a slot is nothing, or what the slot says over some ledger. -/
theorem attributedFill_cases (number : Nat) : setup.attributedFill number = [] ∨
    ∃ slot before, setup.blueprint.slots[number]? = some slot ∧
      setup.attributedFill number = attributeSlot setup.env slot before := by
  rw [attributedFill]
  cases hlookup : (attributeSlots setup.env setup.blueprint setup.prepared setup.blueprint.order
      setup.reserved).lookup number with
  | none => exact .inl rfl
  | some said => exact .inr (exists_of_mem_attributeSlots setup.env _ _ _ _ (number, said)
      (Keyed.mem_of_lookup hlookup))

/-- What a slot says comes from the messages of its plan. -/
theorem isOf_attributedFill (number : Nat) : ∀ attributed ∈ setup.attributedFill number,
    attributed.IsOf (setup.blueprint.slotMessages number) := by
  rcases setup.attributedFill_cases number with hnil | ⟨slot, before, hslot, hfill⟩
  · rw [hnil]
    exact List.forall_mem_nil _
  · rw [hfill, Blueprint.slotMessages_of_getElem? hslot, attributeSlot]
    split
    · exact isOf_attributeNodes setup.env _ _ _ _
    · exact List.forall_mem_nil _

/-- A message with a fixed key is run at most once to fill a slot. -/
theorem fixedSources_attributedFill_sublist
    (h : ∀ slot ∈ setup.blueprint.slots, VaryInLoops slot.plan) (number : Nat) :
    (fixedSources (setup.attributedFill number)).Sublist
      ((setup.blueprint.slotMessages number).filter Blueprint.Message.isFixed) := by
  rcases setup.attributedFill_cases number with hnil | ⟨slot, before, hslot, hfill⟩
  · rw [hnil]
    exact List.nil_sublist _
  · rw [hfill, Blueprint.slotMessages_of_getElem? hslot, attributeSlot]
    split
    · exact fixedSources_attributeNodes_sublist setup.env _ _
        (h slot (List.mem_of_getElem? hslot)) _
    · exact List.nil_sublist _

/-- What is put into the prompt comes from the messages of the blueprint. -/
theorem isPlacedOf_attributed : ∀ attributed ∈ setup.attributed,
    attributed.IsPlacedOf setup.blueprint.declared := by
  intro attributed hattributed
  obtain ⟨node, hnode, hin⟩ := List.mem_flatMap.1 hattributed
  rcases isPlacedOf_attributeElement setup.env setup.isOf_attributedFill node attributed hin with
    hfree | ⟨message, hmessage, hsource⟩
  · exact .inl hfree
  · exact .inr ⟨message, List.mem_flatMap.2 ⟨node, hnode, hmessage⟩, hsource⟩

/-- A message with a fixed key is put into the prompt at most once. -/
theorem fixedSources_attributed_sublist
    (h : ∀ slot ∈ setup.blueprint.slots, VaryInLoops slot.plan) :
    (fixedSources setup.attributed).Sublist
      (setup.blueprint.declared.filter Blueprint.Message.isFixed) := by
  rw [fixedSources, sources, attributed, List.filterMap_flatMap, List.filter_flatMap,
    Blueprint.declared, List.filter_flatMap]
  exact List.Sublist.flatMap_right _ fun node _ => fixedSources_attributeElement_sublist setup.env
    (setup.fixedSources_attributedFill_sublist h) node

/-- What comes from a message with a fixed key carries that key or none. -/
theorem eq_of_fixedKey? (hread : ∀ message ∈ setup.blueprint.declared, message.IsRead)
    {attributed : Attributed Placed} (hattributed : attributed ∈ setup.attributed)
    {key declared : String} (hfixed : attributed.fixedKey? = some declared)
    (hkey : attributed.value.mark.map Mark.key = some key) : key = declared := by
  obtain ⟨source, hsource, hdeclared⟩ := Option.bind_eq_some_iff.1 hfixed
  rcases setup.isPlacedOf_attributed attributed hattributed with
    ⟨hnone, -⟩ | ⟨message, hmessage, hsome, scope, hscope⟩
  · rw [hnone] at hsource
    cases hsource
  · obtain rfl := Option.some.inj (hsome.symm.trans hsource)
    rw [anchorKey_of_fixedKey? (hread message hmessage) hdeclared, hkey] at hscope
    exact ((Text.contentful?_eq_some_iff _ _).1 hscope.symm).1

/-- Where no fixed key is declared twice and each message with one is put in at most once, no two of
them carry one key. -/
theorem nodup_fixedKeys (hread : ∀ message ∈ setup.blueprint.declared, message.IsRead)
    (honce : (fixedSources setup.attributed).Sublist
      (setup.blueprint.declared.filter Blueprint.Message.isFixed))
    (hkeys : (setup.blueprint.declared.filterMap Blueprint.Message.fixedKey?).Nodup) :
    setup.fixedKeys.Nodup := by
  have hsources : (setup.attributed.filterMap Attributed.fixedKey?).Nodup := by
    have hsublist := honce.filterMap Blueprint.Message.fixedKey?
    rw [fixedSources, filterMap_filter_isFixed, filterMap_filter_isFixed, sources,
      List.filterMap_filterMap] at hsublist
    exact hkeys.sublist hsublist
  rw [fixedKeys, List.Nodup, List.pairwise_filterMap, List.pairwise_filter]
  refine (List.pairwise_filterMap.1 hsources).imp_of_mem fun {first second} hfirst hsecond hne => ?_
  intro hfixed hother key hkey other hotherKey
  obtain ⟨declared, hdeclared⟩ := Option.isSome_iff_exists.1 hfixed
  obtain ⟨another, hanother⟩ := Option.isSome_iff_exists.1 hother
  rw [setup.eq_of_fixedKey? hread hfirst hdeclared hkey,
    setup.eq_of_fixedKey? hread hsecond hanother hotherKey]
  exact hne declared hdeclared another hanother

end Setup

/-- Fixed keys are unique in a prompt. What the layout and the slots of a compiled blueprint put
into a prompt is attributed: each message of the prompt comes from a message that the blueprint
declares, and carries the key of that one in some scope, or it comes from none and carries no key.
A message that declares a fixed key is put in at most once, in whatever branches it stands and
whatever is refused or dropped; no two messages declare one fixed key; and no two messages of the
prompt that come from such ones carry one key. -/
theorem fixedKeys_nodup_of_compile {compiler : Compiler} (hcompiler : compiler.IsReached)
    {allowed : Option (List String)} {template : Template} {setup : Setup}
    (hcompile : (compiler.compileAllowing allowed template).1 = .ok setup.blueprint) :
    assemble setup.env setup.nodes setup.filled.1 setup.filled.2 =
        .ok (setup.attributed.map value, setup.assembledUpTo setup.nodes) ∧
      (∀ attributed ∈ setup.attributed, attributed.IsPlacedOf setup.blueprint.declared) ∧
      (fixedSources setup.attributed).Sublist
        (setup.blueprint.declared.filter Blueprint.Message.isFixed) ∧
      (setup.blueprint.declared.filterMap Blueprint.Message.fixedKey?).Nodup ∧
      setup.fixedKeys.Nodup := by
  have hlaid : setup.blueprint.IsLaidOut :=
    Blueprint.IsCompiled.isLaidOut ⟨compiler, allowed, template, hcompile⟩
  have hbecomes := hcompiler.becomes hcompile
  have hformed := (hcompiler.makes_iff allowed template).1 ⟨_, hcompile⟩
  obtain ⟨hvary, hread⟩ := hbecomes.declares hlaid hformed
  have honce := setup.fixedSources_attributed_sublist hvary
  have hkeys := hbecomes.nodup_fixedKeys hlaid hformed
  refine ⟨?_, setup.isPlacedOf_attributed, honce, hkeys, setup.nodup_fixedKeys hread honce hkeys⟩
  rw [setup.map_value_attributed]
  exact setup.assemble_eq hlaid setup.nodes [] (List.append_nil _).symm

end ChatPrompt.Render

namespace ChatPrompt.Sample

open Render

/-- The template of a conversation with fixed keys in the layout, at the start of a plan and in a
branch of it, and with keys in a loop that name the turns. -/
def pinnedTemplate : Template where
  id := "pinned"
  task := "chat"
  name := "Pinned"
  version := 1
  layout := [.message ⟨.system, some "H", none, false, some "top"⟩,
    .slot ⟨"turns", none, none, none⟩]
  slots := [("turns", ⟨0, none, none,
    [.message ⟨.user, some "S", none, some "start", none⟩,
      .branch (.present ⟨none, .null, some "turns"⟩)
        [.message ⟨.user, some "M", none, some "middle", none⟩] [],
      .forEach ⟨⟨none, .null, some "turns"⟩, .ascending, none, none, .prepending, none, none, true⟩
        [.message ⟨.user, some "\x7b\x7bitem\x7d\x7d", none, some "\x7b\x7bitem\x7d\x7d",
          none⟩]], .null⟩)]
  attachments := []

/-- The blueprint of that conversation. -/
def pinned : Blueprint where
  id := "pinned"
  task := "chat"
  name := "Pinned"
  version := 1
  layout := [.message ⟨.system, .text ⟨"H", [.text "H"]⟩, false, some ⟨"top", [.text "top"]⟩, none⟩,
    .slot ⟨"turns", 0, none, none, true⟩]
  slots := [⟨"turns", 0, none, none,
    [.message ⟨.user, .text ⟨"S", [.text "S"]⟩, false, some ⟨"start", [.text "start"]⟩, none⟩,
      .branch (.present ⟨.scope ⟨"turns", []⟩, .literal .null⟩)
        [.message ⟨.user, .text ⟨"M", [.text "M"]⟩, false, some ⟨"middle", [.text "middle"]⟩, none⟩]
        [],
      .forEach ⟨⟨.scope ⟨"turns", []⟩, .literal .null⟩, .ascending, none, none, .prepending, none,
          none, true⟩
        [.message ⟨.user, .text ⟨"\x7b\x7bitem\x7d\x7d", [.value (.path ⟨"item", []⟩)]⟩, false,
          some ⟨"\x7b\x7bitem\x7d\x7d", [.value (.path ⟨"item", []⟩)]⟩, none⟩]],
    .null, 1⟩]
  order := [0]
  lanes := []

theorem compile_pinned :
    ((Compiler.fresh none).compileAllowing none pinnedTemplate).1 = .ok pinned := by cbv

/-- A render of that conversation in which one of the turns does not fit. -/
def pinnedSetup : Setup := ⟨environment, pinned, ⟨[], []⟩, 5⟩

end ChatPrompt.Sample

namespace ChatPrompt.Render

open Attributed

/-- In that conversation each fixed key is carried by one message; the turns that fit carry theirs,
which are not fixed. -/
theorem fixedKeys_nodup_of_compile_pinned :
    assemble Sample.pinnedSetup.env Sample.pinnedSetup.nodes Sample.pinnedSetup.filled.1
        Sample.pinnedSetup.filled.2 =
      .ok (Sample.pinnedSetup.attributed.map value,
        Sample.pinnedSetup.assembledUpTo Sample.pinnedSetup.nodes) ∧
    Sample.pinnedSetup.attributed.map
        (fun attributed => (attributed.value.mark.map Mark.key, attributed.fixedKey?)) =
      [(some "top", some "top"), (some "start", some "start"), (some "middle", some "middle"),
        (some "b", none), (some "a", none)] ∧
    Sample.pinnedSetup.fixedKeys.Nodup := by
  have hcompile : ((Compiler.fresh none).compileAllowing none Sample.pinnedTemplate).1 =
      .ok Sample.pinnedSetup.blueprint := Sample.compile_pinned
  obtain ⟨hassemble, -, -, -, hnodup⟩ := fixedKeys_nodup_of_compile (.fresh none) hcompile
  exact ⟨hassemble, by decide +kernel, hnodup⟩

end ChatPrompt.Render
