import ChatPrompt.Proofs.Conservation
import ChatPrompt.Proofs.Generation

/-!
# Anchors stand where their messages do

A key is recorded at the first message that carries it, and only there. A message keeps its key
from the moment at which both are rendered: a loop moves or drops whole messages, the layout puts
in what its slots are filled with as it is, and lanes only move messages apart. So a recorded key
is that of a message of the layout, or of a slot, in the place where that message ends up.
-/

namespace ChatPrompt

namespace Render

open Injection

/-- The message at an index is the first one that carries its key. -/
structure IsFirst (placed : List Placed) (index : Nat) (mark : Mark) : Prop where
  /-- It carries the key. -/
  carried : placed[index]?.bind Placed.mark = some mark
  /-- Those before it carry others, or none. -/
  first : ∀ earlier < index, ∀ other, placed[earlier]?.bind Placed.mark = some other →
    other.key ≠ mark.key

/-- A message is the first one to carry a key if it comes first of all and carries it. -/
theorem isFirst_zero {entry : Placed} {rest : List Placed} {mark : Mark} :
    IsFirst (entry :: rest) 0 mark ↔ entry.mark = some mark :=
  ⟨fun h => h.carried, fun h => ⟨h, fun _ hlt => absurd hlt (Nat.not_lt_zero _)⟩⟩

/-- A later message is the first one to carry a key if it is so among those behind the first, and
that one does not carry the key. -/
theorem isFirst_succ {entry : Placed} {rest : List Placed} {index : Nat} {mark : Mark} :
    IsFirst (entry :: rest) (index + 1) mark ↔
      IsFirst rest index mark ∧ ∀ other, entry.mark = some other → other.key ≠ mark.key := by
  constructor
  · rintro ⟨hcarried, hfirst⟩
    exact ⟨⟨hcarried, fun earlier hlt => hfirst (earlier + 1) (Nat.succ_lt_succ hlt)⟩,
      hfirst 0 (Nat.succ_pos index)⟩
  · rintro ⟨⟨hcarried, hfirst⟩, hentry⟩
    refine ⟨hcarried, fun earlier hlt => ?_⟩
    cases earlier with
    | zero => exact hentry
    | succ earlier => exact hfirst earlier (Nat.lt_of_succ_lt_succ hlt)

/-- A key that a message carries is carried by a first one. -/
theorem exists_isFirst {placed : List Placed} {entry : Placed} {mark : Mark}
    (hentry : entry ∈ placed) (hmark : entry.mark = some mark) :
    ∃ index first, IsFirst placed index first ∧ first.key = mark.key := by
  induction placed with
  | nil => cases hentry
  | cons head rest ih =>
    by_cases hhead : ∃ other, head.mark = some other ∧ other.key = mark.key
    · obtain ⟨other, hother, hkey⟩ := hhead
      exact ⟨0, other, isFirst_zero.2 hother, hkey⟩
    · rcases List.mem_cons.1 hentry with rfl | hin
      · exact absurd ⟨mark, hmark, rfl⟩ hhead
      · obtain ⟨index, first, hfirst, hkey⟩ := ih hin
        refine ⟨index + 1, first, isFirst_succ.2 ⟨hfirst, ?_⟩, hkey⟩
        exact fun other hother heq => hhead ⟨other, hother, heq.trans hkey⟩

/-- Keys are recorded at the first messages that carry them, except for those met before. -/
theorem mem_anchorsFrom_iff {anchor : Anchor} {index : Nat} {met : List String}
    {placed : List Placed} :
    anchor ∈ anchorsFrom index met placed ↔
      ∃ distance, anchor.index = index + distance ∧
        IsFirst placed distance ⟨anchor.key, anchor.origin⟩ ∧ anchor.key ∉ met := by
  induction placed generalizing index met with
  | nil =>
    refine iff_of_false (fun h => nomatch h) ?_
    rintro ⟨distance, -, ⟨hcarried, -⟩, -⟩
    cases hcarried
  | cons entry rest ih =>
    -- where the first message does not count, the anchors are those of the rest
    have hskip : (∀ mark, entry.mark = some mark → mark.key ∈ met) →
        (anchor ∈ anchorsFrom (index + 1) met rest ↔ ∃ distance,
          anchor.index = index + distance ∧
            IsFirst (entry :: rest) distance ⟨anchor.key, anchor.origin⟩ ∧ anchor.key ∉ met) := by
      intro hmet
      rw [ih]
      constructor
      · rintro ⟨distance, hindex, hfirst, hfresh⟩
        refine ⟨distance + 1, by omega, isFirst_succ.2 ⟨hfirst, ?_⟩, hfresh⟩
        intro other hother hkey
        have hsame : other.key = anchor.key := hkey
        exact hfresh (hsame ▸ hmet other hother)
      · rintro ⟨distance, hindex, hfirst, hfresh⟩
        cases distance with
        | zero => exact absurd (hmet _ (isFirst_zero.1 hfirst)) hfresh
        | succ distance => exact ⟨distance, by omega, (isFirst_succ.1 hfirst).1, hfresh⟩
    rw [anchorsFrom]
    split
    · next hnone =>
      refine hskip fun mark hmark => ?_
      rw [hnone] at hmark
      cases hmark
    · next mark hmark =>
      split
      · next hmet =>
        refine hskip fun other hother => ?_
        rw [hmark] at hother
        cases hother
        simpa using hmet
      · next hfresh =>
        have hfresh : mark.key ∉ met := by simpa using hfresh
        rw [List.mem_cons, ih]
        constructor
        · rintro (rfl | ⟨distance, hindex, hfirst, hlater⟩)
          · exact ⟨0, rfl, isFirst_zero.2 hmark, hfresh⟩
          · rw [List.mem_cons, not_or] at hlater
            refine ⟨distance + 1, by omega, isFirst_succ.2 ⟨hfirst, ?_⟩, hlater.2⟩
            intro other hother
            rw [hmark] at hother
            cases hother
            exact Ne.symm hlater.1
        · rintro ⟨distance, hindex, hfirst, hmet⟩
          cases distance with
          | zero =>
            have hsame := isFirst_zero.1 hfirst
            rw [hmark] at hsame
            cases hsame
            obtain ⟨key, place, origin⟩ := anchor
            exact .inl (congrArg (Anchor.mk key · origin) hindex)
          | succ distance =>
            obtain ⟨hfirst, hother⟩ := isFirst_succ.1 hfirst
            refine .inr ⟨distance, by omega, hfirst, ?_⟩
            rw [List.mem_cons, not_or]
            exact ⟨(hother mark hmark).symm, hmet⟩

/-- Keys are recorded in the order of their messages. -/
theorem pairwise_anchorsFrom (index : Nat) (met : List String) (placed : List Placed) :
    (anchorsFrom index met placed).Pairwise fun first second => first.index < second.index := by
  induction placed generalizing index met with
  | nil => exact .nil
  | cons entry rest ih =>
    rw [anchorsFrom]
    split
    · exact ih _ _
    · split
      · exact ih _ _
      · refine .cons ?_ (ih _ _)
        intro anchor hanchor
        obtain ⟨distance, hindex, -, -⟩ := mem_anchorsFrom_iff.1 hanchor
        dsimp only
        omega

/-- No key is recorded twice. -/
theorem nodup_anchorsFrom (index : Nat) (met : List String) (placed : List Placed) :
    ((anchorsFrom index met placed).map Anchor.key).Nodup := by
  rw [List.Nodup, List.pairwise_map]
  refine (pairwise_anchorsFrom index met placed).imp_of_mem ?_
  intro first second hfirst hsecond hlt heq
  obtain ⟨before, hbefore, hcarried, -⟩ := mem_anchorsFrom_iff.1 hfirst
  obtain ⟨after, hafter, hlater, -⟩ := mem_anchorsFrom_iff.1 hsecond
  -- the message of the first anchor carries the key before that of the second does
  exact hlater.first before (by omega) _ hcarried.carried heq

/-- Closing messages early keeps their keys. -/
theorem getElem?_mark_closeEarly (placed : List Placed) (index : Nat) :
    (closeEarly placed)[index]?.bind Placed.mark = placed[index]?.bind Placed.mark := by
  induction placed generalizing index with
  | nil => rfl
  | cons entry rest ih =>
    cases rest with
    | nil => rfl
    | cons next rest =>
      cases index with
      | zero => rfl
      | succ index => exact ih index

/-- Closing messages early keeps the first ones to carry keys. -/
theorem isFirst_closeEarly {placed : List Placed} {index : Nat} {mark : Mark} :
    IsFirst (closeEarly placed) index mark ↔ IsFirst placed index mark := by
  constructor
  · rintro ⟨hcarried, hfirst⟩
    simp only [getElem?_mark_closeEarly] at hcarried hfirst
    exact ⟨hcarried, hfirst⟩
  · rintro ⟨hcarried, hfirst⟩
    refine ⟨?_, ?_⟩
    · rwa [getElem?_mark_closeEarly]
    · simpa only [getElem?_mark_closeEarly] using hfirst

end Render

/-- A place of a layout carries the name of its slot. -/
theorem Blueprint.IsLaidOut.name_eq {blueprint : Blueprint} (h : blueprint.IsLaidOut)
    {place : Blueprint.Placeholder} (hplace : place ∈ blueprint.places) {slot : Blueprint.Slot}
    (hslot : blueprint.slots[place.slot]? = some slot) : slot.name = place.name := by
  have hmem : (place.name, place.slot) ∈
      blueprint.slots.zipIdx.map fun slot => (slot.1.name, slot.2) := by
    rw [← h.places_eq]
    exact List.mem_map_of_mem hplace
  obtain ⟨⟨other, number⟩, hother, heq⟩ := List.mem_map.1 hmem
  obtain ⟨hname, rfl⟩ := Prod.mk.inj heq
  rw [List.mem_zipIdx_iff_getElem?] at hother
  rw [hother] at hslot
  cases hslot
  exact hname

namespace Render

open Injection

/-- A message carries the key that was rendered beside it: as a message of the layout, in the scope
of the render, or as one that the plan of the slot at its place generated. -/
inductive Setup.Attaches (setup : Setup) : Traced → Mark → Prop where
  /-- A message of the layout. -/
  | layout {position : Nat} {details : Blueprint.Message} {key : String}
    (hnode : setup.blueprint.layout[position]? = some (.message details))
    (hkey : anchorKey setup.env.root details.anchor = some key) :
    Attaches setup
      ⟨.element position,
        ⟨⟨details.role, setup.env.text setup.env.root details.content, details.openEnded⟩,
          some ⟨key, .layout⟩⟩⟩ ⟨key, .layout⟩
  /-- A message of a slot. -/
  | slot {position : Nat} {place : Blueprint.Placeholder} {slot : Blueprint.Slot} {entry : Entry}
    {key : String} (hnode : setup.blueprint.layout[position]? = some (.slot place))
    (hslot : setup.blueprint.slots[place.slot]? = some slot)
    (hentry : entry ∈ setup.fill place.slot)
    (hplan : Generates setup.env setup.env.root slot.plan entry)
    (hkey : entry.anchor = some key) :
    Attaches setup ⟨.element position, ⟨entry.message, some ⟨key, .slot slot.name⟩⟩⟩
      ⟨key, .slot slot.name⟩

/-- A key that is attached to a message is not blank. -/
theorem Setup.Attaches.isBlankText {setup : Setup} {traced : Traced} {mark : Mark}
    (h : setup.Attaches traced mark) : Text.isBlankText mark.key = false := by
  cases h with
  | layout _ hkey => exact isBlankText_anchorKey hkey
  | slot _ _ _ hplan hkey => exact hplan.isBlankText_key hkey

namespace Setup

variable {setup : Setup}

/-- What an element of the layout puts in with a key has it from where it was rendered. -/
theorem attaches_of_mem_emits (h : setup.blueprint.IsLaidOut) {position : Nat}
    {node : Blueprint.LayoutNode} {placed : Placed} {mark : Mark}
    (hnode : setup.blueprint.layout[position]? = some node)
    (hplaced : placed ∈ emits setup.env setup.fill node) (hmark : placed.mark = some mark) :
    setup.Attaches ⟨.element position, placed⟩ mark := by
  cases node with
  | message details =>
    rw [mem_emits_message hplaced] at hmark ⊢
    obtain ⟨key, hkey, rfl⟩ := Option.map_eq_some_iff.1 hmark
    rw [hkey]
    exact .layout hnode hkey
  | slot place =>
    rcases mem_emits_slot hplaced with ⟨role, text, rfl⟩ | ⟨entry, hentry, rfl⟩
    · cases hmark
    · obtain ⟨key, hkey, rfl⟩ := Option.map_eq_some_iff.1 hmark
      obtain ⟨slot, hslot, hplan⟩ := setup.fill_generates hentry
      have hplace : place ∈ setup.blueprint.places :=
        List.mem_filterMap.2 ⟨_, List.mem_of_getElem? hnode, rfl⟩
      rw [Entry.placed, hkey, ← h.name_eq hplace hslot]
      exact .slot hnode hslot hentry hplan hkey

/-- What carries a key in a trace has it from where it was rendered. -/
theorem Traces.attaches (h : setup.blueprint.IsLaidOut) {runs : List LaneRun}
    {tracing : List Traced} (htraces : setup.Traces runs tracing) {traced : Traced}
    (htraced : traced ∈ tracing) {mark : Mark}
    (hmark : traced.placed.mark = some mark) : setup.Attaches traced mark := by
  rcases htraces.mem_cases htraced with
    ⟨position, node, placed, hnode, hplaced, rfl⟩ | ⟨number, role, text, rfl⟩
  · exact attaches_of_mem_emits h hnode hplaced hmark
  · cases hmark

/-- The anchors of a prompt are at the first messages of its trace that carry their keys. -/
theorem Traces.mem_anchors_iff {runs : List LaneRun} {tracing : List Traced}
    (htraces : setup.Traces runs tracing) {anchor : Anchor} :
    anchor ∈ setup.prompt.anchors ↔
      IsFirst (tracing.map Traced.placed) anchor.index ⟨anchor.key, anchor.origin⟩ := by
  rw [prompt, mem_anchorsFrom_iff, htraces.placed_eq]
  constructor
  · rintro ⟨distance, hindex, hfirst, -⟩
    rw [hindex, Nat.zero_add]
    exact isFirst_closeEarly.1 hfirst
  · intro hfirst
    exact ⟨anchor.index, (Nat.zero_add _).symm, isFirst_closeEarly.2 hfirst, List.not_mem_nil⟩

/-- An anchor is at a message of the trace that carries its key. -/
theorem Traces.exists_of_mem_anchors {runs : List LaneRun} {tracing : List Traced}
    (htraces : setup.Traces runs tracing) {anchor : Anchor}
    (hanchor : anchor ∈ setup.prompt.anchors) :
    ∃ traced, tracing[anchor.index]? = some traced ∧
      traced.placed.mark = some ⟨anchor.key, anchor.origin⟩ := by
  obtain ⟨placed, hplaced, hmark⟩ :=
    Option.bind_eq_some_iff.1 (htraces.mem_anchors_iff.1 hanchor).carried
  rw [List.getElem?_map] at hplaced
  obtain ⟨traced, htraced, rfl⟩ := Option.map_eq_some_iff.1 hplaced
  exact ⟨traced, htraced, hmark⟩

/-- The keys of a prompt are those that its layout puts in. -/
theorem Traces.mem_keys_iff {runs : List LaneRun} {tracing : List Traced}
    (htraces : setup.Traces runs tracing) {key : String} :
    key ∈ setup.prompt.anchors.map Anchor.key ↔
      ∃ placed ∈ setup.blueprint.layout.flatMap (emits setup.env setup.fill),
        placed.mark.map Mark.key = some key := by
  constructor
  · intro hkey
    obtain ⟨anchor, hanchor, rfl⟩ := List.mem_map.1 hkey
    obtain ⟨traced, htraced, hmark⟩ := htraces.exists_of_mem_anchors hanchor
    rcases htraces.mem_cases (List.mem_of_getElem? htraced) with
      ⟨position, node, placed, hnode, hplaced, rfl⟩ | ⟨number, role, text, rfl⟩
    · refine ⟨placed, List.mem_flatMap.2 ⟨node, List.mem_of_getElem? hnode, hplaced⟩, ?_⟩
      exact congrArg (Option.map Mark.key) hmark
    · cases hmark
  · rintro ⟨placed, hplaced, hkey⟩
    obtain ⟨mark, hmark, rfl⟩ := Option.map_eq_some_iff.1 hkey
    rw [← map_placed_traceFrom setup.env setup.fill 0] at hplaced
    obtain ⟨traced, htraced, rfl⟩ := List.mem_map.1 hplaced
    have hin : traced ∈ tracing := htraces.perm.mem_iff.2 (List.mem_append_left _ htraced)
    obtain ⟨index, first, hfirst, hsame⟩ := exists_isFirst (List.mem_map_of_mem hin) hmark
    rw [← hsame]
    exact List.mem_map.2
      ⟨⟨first.key, index, first.origin⟩, htraces.mem_anchors_iff.2 hfirst, rfl⟩

end Setup

/-- The anchors of a rendered prompt have different keys that are not blank, and rise through the
prompt. The keys are those that messages of the layout or of slots carry. A key is recorded at the
first message of the prompt that carries it; and whatever carries a key has it, with the right
origin, from where it was rendered, so lanes, loops and the order of filling never move a key to
another message. -/
theorem anchors_iff_isFirst {setup : Setup} (h : setup.blueprint.IsCompiled) :
    ∃ prompt, render setup.env setup.blueprint setup.options setup.capacity = .ok prompt ∧
      prompt.anchors.Pairwise (fun first second => first.index < second.index) ∧
      (prompt.anchors.map Anchor.key).Nodup ∧
      (∀ anchor ∈ prompt.anchors, Text.isBlankText anchor.key = false ∧
        anchor.index < prompt.messages.length) ∧
      (∀ key, key ∈ prompt.anchors.map Anchor.key ↔
        ∃ placed ∈ setup.blueprint.layout.flatMap (emits setup.env setup.fill),
          placed.mark.map Mark.key = some key) ∧
      ∃ (runs : List LaneRun) (tracing : List Traced), setup.Traces runs tracing ∧
        tracing.map (fun traced => traced.placed.message.said) =
          prompt.messages.map Message.said ∧
        (∀ anchor, anchor ∈ prompt.anchors ↔
          IsFirst (tracing.map Traced.placed) anchor.index ⟨anchor.key, anchor.origin⟩) ∧
        ∀ traced ∈ tracing, ∀ mark, traced.placed.mark = some mark →
          setup.Attaches traced mark := by
  have hlaid := h.isLaidOut
  obtain ⟨runs, tracing, htraces⟩ := setup.exists_traces
  refine ⟨setup.prompt, setup.render_eq hlaid, pairwise_anchorsFrom _ _ _,
    nodup_anchorsFrom _ _ _, ?_, fun key => htraces.mem_keys_iff, runs, tracing, htraces,
    htraces.said_eq, fun anchor => htraces.mem_anchors_iff,
    fun traced htraced mark => htraces.attaches hlaid htraced⟩
  intro anchor hanchor
  obtain ⟨traced, htraced, hmark⟩ := htraces.exists_of_mem_anchors hanchor
  refine ⟨(htraces.attaches hlaid (List.mem_of_getElem? htraced) hmark).isBlankText, ?_⟩
  rw [← htraces.length_eq]
  exact (List.getElem?_eq_some_iff.1 htraced).1

end Render

namespace Sample

open Render

/-- The template of a conversation whose messages have keys, the latest turn first, and in which
the model goes on with an answer. -/
def keyedTemplate : Template where
  id := "keyed"
  task := "chat"
  name := "Keyed"
  version := 1
  layout := [.message ⟨.system, some "H", none, false, some "top"⟩,
    .slot ⟨"turns", none, none, none⟩, .message ⟨.assistant, some "R", none, true, none⟩]
  slots := [("turns", ⟨0, none, none,
    [.forEach ⟨⟨none, .null, some "turns"⟩, .ascending, none, none, .prepending, none, none, true⟩
      [.message ⟨.user, some "\x7b\x7bitem\x7d\x7d", none, some "\x7b\x7bitem\x7d\x7d", none⟩]],
    .null⟩)]
  attachments := [⟨"lore", true, .system, "\x7b\x7bpayload\x7d\x7d", 0, [], none⟩]

/-- The blueprint of that conversation. -/
def keyed : Blueprint where
  id := "keyed"
  task := "chat"
  name := "Keyed"
  version := 1
  layout := [.message ⟨.system, .text ⟨"H", [.text "H"]⟩, false, some ⟨"top", [.text "top"]⟩, none⟩,
    .slot ⟨"turns", 0, none, none, true⟩,
    .message ⟨.assistant, .text ⟨"R", [.text "R"]⟩, true, none, none⟩]
  slots := [⟨"turns", 0, none, none,
    [.forEach ⟨⟨.scope ⟨"turns", []⟩, .literal .null⟩, .ascending, none, none, .prepending, none,
        none, true⟩
      [.message ⟨.user, .text ⟨"\x7b\x7bitem\x7d\x7d", [.value (.path ⟨"item", []⟩)]⟩, false,
        some ⟨"\x7b\x7bitem\x7d\x7d", [.value (.path ⟨"item", []⟩)]⟩, none⟩]],
    .null, 1⟩]
  order := [0]
  lanes := [⟨"lore", true, .system,
    ⟨"\x7b\x7bpayload\x7d\x7d", [.value (.path ⟨"payload", []⟩)]⟩, 0, [], none⟩]

/-- The template is compiled to the blueprint. -/
theorem compile_keyed :
    ((Compiler.fresh none).compileAllowing none keyedTemplate).1 = .ok keyed := by cbv

/-- The render of that conversation, with a message next to one of its turns. -/
def keyedSetup : Setup :=
  ⟨environment, keyed, ⟨[], [⟨"lore", [.anchored "b" false], .string "z", 0, none⟩]⟩, 8⟩

/-- The prompt of that conversation. -/
theorem render_keyed :
    (render keyedSetup.env keyedSetup.blueprint keyedSetup.options keyedSetup.capacity).map
      (fun prompt => (prompt.messages, prompt.anchors)) =
    .ok ([⟨.system, "H", false⟩, ⟨.user, "c", false⟩, ⟨.system, "z", false⟩, ⟨.user, "b", false⟩,
        ⟨.user, "a", false⟩, ⟨.assistant, "R", true⟩],
      [⟨"top", 0, .layout⟩, ⟨"c", 1, .slot "turns"⟩, ⟨"b", 3, .slot "turns"⟩,
        ⟨"a", 4, .slot "turns"⟩]) := by decide +kernel

end Sample

namespace Render

open Injection

/-- In that conversation the turns come latest first and a lane has put a message between two of
them; each key is still where its turn is. -/
theorem anchors_iff_isFirst_keyed :
    ∃ prompt, render Sample.keyedSetup.env Sample.keyedSetup.blueprint Sample.keyedSetup.options
        Sample.keyedSetup.capacity = .ok prompt ∧
      (prompt.anchors.map Anchor.key).Nodup ∧
      ∃ (runs : List LaneRun) (tracing : List Traced),
        tracing.map (fun traced => traced.placed.message.said) =
          [(.system, "H"), (.user, "c"), (.system, "z"), (.user, "b"), (.user, "a"),
            (.assistant, "R")] ∧
        (tracing.filter fun traced => !traced.isElement).Perm (laneTrace 0 runs) ∧
        IsFirst (tracing.map Traced.placed) 3 ⟨"b", .slot "turns"⟩ := by
  obtain ⟨prompt, hrender, -, hnodup, -, -, runs, tracing, htraces, hsaid, hanchors, -⟩ :=
    @anchors_iff_isFirst Sample.keyedSetup ⟨_, _, _, Sample.compile_keyed⟩
  have hprompt : (Except.ok prompt).map (fun prompt => (prompt.messages, prompt.anchors)) = _ :=
    hrender ▸ Sample.render_keyed
  obtain ⟨hmessages, hkeys⟩ := Prod.mk.inj (Except.ok.inj hprompt)
  rw [hmessages] at hsaid
  refine ⟨prompt, hrender, hnodup, runs, tracing, hsaid, htraces.lanes_perm, ?_⟩
  refine (hanchors ⟨"b", 3, .slot "turns"⟩).1 ?_
  rw [hkeys]
  decide

end Render

end ChatPrompt
