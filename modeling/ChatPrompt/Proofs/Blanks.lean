import ChatPrompt.Proofs.Conservation
import ChatPrompt.Proofs.Generation

/-!
# No message is blank

Each part of a render that makes messages leaves out what would be blank, and decides that for
itself: the messages of the layout and of plans, headers and footers, separators, and the entries of
lanes. A lane makes one message of several entries with the texts of their group around them; the
entries are none of them blank and there is at least one, so the message is not blank either,
whatever the texts around it say. On the way to the prompt messages are only moved.
-/

namespace ChatPrompt

namespace Text

/-- A text that is not blank has a character that is none. -/
theorem isBlankText_eq_false_iff {text : String} :
    isBlankText text = false ↔ ∃ c ∈ text.toList, isBlank c = false := by
  simp [isBlankText]

/-- Lines one below the other are not blank if one of them is not. -/
theorem isBlankText_intercalate {lines : List String} {line : String} (hline : line ∈ lines)
    (h : isBlankText line = false) : isBlankText ("\n".intercalate lines) = false := by
  obtain ⟨c, hc, hblank⟩ := isBlankText_eq_false_iff.1 h
  refine isBlankText_eq_false_iff.2 ⟨c, ?_, hblank⟩
  induction lines with
  | nil => cases hline
  | cons first rest ih =>
    cases rest with
    | nil =>
      rw [String.intercalate_singleton, ← List.mem_singleton.1 hline]
      exact hc
    | cons second others =>
      rw [String.intercalate_cons_cons, String.toList_append, String.toList_append]
      rcases List.mem_cons.1 hline with rfl | hlater
      · exact List.mem_append_left _ (List.mem_append_left _ hc)
      · exact List.mem_append_right _ (ih hlater)

end Text

namespace Injection

open Render

/-- No entry of a lane is blank. -/
theorem isBlankText_of_mem_blocks {lane : Blueprint.Lane} {requests : List Request} {block : Block}
    (hblock : block ∈ blocks lane requests) {entry : String} (hentry : entry ∈ block.entries) :
    Text.isBlankText entry = false := by
  have hall : entry ∈ (blocks lane requests).flatMap Block.entries :=
    List.mem_flatMap.2 ⟨block, hblock, hentry⟩
  obtain ⟨request, -, htext⟩ :=
    List.mem_filterMap.1 ((entries_blocks_perm lane requests).mem_iff.1 hall)
  obtain ⟨rfl, hcontent⟩ := (Text.contentful?_eq_some_iff _ _).1 htext
  exact hcontent

/-- A message with an entry that is not blank is not blank, whatever stands around its entries. -/
theorem isBlankText_compose (lane : Blueprint.Lane) (group : Option String) {entries : List String}
    {entry : String} (hentry : entry ∈ entries) (h : Text.isBlankText entry = false) :
    Text.isBlankText (compose lane group entries) = false := by
  rw [compose]
  split
  · exact Text.isBlankText_intercalate hentry h
  · refine Text.isBlankText_intercalate ?_ h
    exact List.mem_append_left _ (List.mem_append_right _ hentry)

/-- What is admitted is one entry or more of a block. -/
theorem Admitted.exists_of_mem {estimate : Estimator} {lane : Blueprint.Lane} {ledger : Ledger}
    {blocks : List Block} {admissions : List Admission}
    (h : Admitted estimate lane ledger blocks admissions) {admission : Admission}
    (hadmission : admission ∈ admissions) :
    ∃ block ∈ blocks, ∃ entry ∈ block.entries, entry ∈ admission.entries := by
  obtain ⟨hne, hfront⟩ := h.entries_prefix admission hadmission
  obtain ⟨entry, hentry⟩ := List.exists_mem_of_ne_nil _ hne
  have hblock := h.block_sublist.subset (List.mem_map_of_mem hadmission)
  exact ⟨admission.block, hblock, entry, hfront.subset hentry, hentry⟩

end Injection

namespace Render

open Injection

/-- A message that a plan generates is not blank. -/
theorem Generates.isBlankText_content {env : Environment} {scope : Scope}
    {nodes : List Blueprint.PlanNode} {entry : Entry} (h : Generates env scope nodes entry) :
    Text.isBlankText entry.message.content = false := by
  induction h with
  | message _ htext => exact htext
  | branch _ _ ih => exact ih
  | item _ _ _ ih => exact ih
  | separator _ _ _ htext => exact htext

/-- A header or footer that goes in is not blank. -/
theorem isBlankText_of_mem_frameMessages {scope : Scope} {frame : Option Blueprint.Frame}
    {placed : Placed} (h : placed ∈ frameMessages scope frame) :
    Text.isBlankText placed.message.content = false := by
  cases frame with
  | none => cases h
  | some frame =>
    rw [frameMessages] at h
    split at h
    · cases h
    · next hblank =>
      rw [List.mem_singleton.1 h]
      exact Bool.eq_false_iff.2 hblank

/-- What an element of the layout puts in is not blank, if nothing is that slots are filled
with. -/
theorem isBlankText_of_mem_emits {env : Environment} {fill : Nat → List Entry}
    (hfill : ∀ number, ∀ entry ∈ fill number, Text.isBlankText entry.message.content = false)
    {node : Blueprint.LayoutNode} {placed : Placed} (h : placed ∈ emits env fill node) :
    Text.isBlankText placed.message.content = false := by
  cases node with
  | message details =>
    rw [emits] at h
    split at h
    · cases h
    · next hblank =>
      rw [List.mem_singleton.1 h]
      exact Bool.eq_false_iff.2 hblank
  | slot place =>
    rw [emits] at h
    split at h
    · cases h
    · rcases List.mem_append.1 h with hbefore | hfooter
      · rcases List.mem_append.1 hbefore with hheader | hentries
        · exact isBlankText_of_mem_frameMessages hheader
        · obtain ⟨entry, hentry, rfl⟩ := List.mem_map.1 hentries
          exact hfill place.slot entry hentry
      · exact isBlankText_of_mem_frameMessages hfooter

/-- What lanes put in is not blank. -/
theorem LaneRuns.isBlankText_of_mem {estimate : Estimator} {requests : List Request}
    {ledger : Ledger} {lanes : List Blueprint.Lane} {runs : List LaneRun}
    (h : LaneRuns estimate requests ledger lanes runs) {run : LaneRun} (hrun : run ∈ runs)
    {placed : Placed} (hplaced : placed ∈ run.messages) :
    Text.isBlankText placed.message.content = false := by
  induction h with
  | nil ledger => cases hrun
  | cons hadmitted _ ih =>
    rcases List.mem_cons.1 hrun with rfl | hlater
    · obtain ⟨admission, hadmission, rfl⟩ := List.mem_map.1 hplaced
      obtain ⟨block, hblock, entry, hentry, hadmits⟩ := hadmitted.exists_of_mem hadmission
      exact isBlankText_compose run.lane _ hadmits (isBlankText_of_mem_blocks hblock hentry)
    · exact ih hlater

/-- What stands in a trace is not blank, wherever it comes from. -/
theorem Setup.Traces.isBlankText_of_mem {setup : Setup} {runs : List LaneRun}
    {tracing : List Traced} (h : setup.Traces runs tracing) {traced : Traced}
    (htraced : traced ∈ tracing) :
    Text.isBlankText traced.placed.message.content = false := by
  rcases List.mem_append.1 (h.perm.mem_iff.1 htraced) with helement | hlane
  · obtain ⟨position, node, placed, -, hplaced, rfl⟩ := mem_traceFrom.1 helement
    refine isBlankText_of_mem_emits (fun number entry hentry => ?_) hplaced
    obtain ⟨slot, -, hgenerates⟩ := setup.fill_generates hentry
    exact hgenerates.isBlankText_content
  · obtain ⟨⟨run, number⟩, hrun, hmessage⟩ := List.mem_flatMap.1 hlane
    obtain ⟨placed, hplaced, rfl⟩ := List.mem_map.1 hmessage
    exact h.lanes_run.isBlankText_of_mem (List.fst_mem_of_mem_zipIdx hrun) hplaced

/-- No blank message is ever emitted. A render of a compiled blueprint gives a prompt, and each of
its messages has a character that is not white space, whether it comes from the layout, from a
header or footer, from a plan, from between two items of a loop, or from a lane. -/
theorem exists_not_isBlank_of_mem_messages {setup : Setup} (h : setup.blueprint.IsCompiled) :
    ∃ prompt, render setup.env setup.blueprint setup.options setup.capacity = .ok prompt ∧
      ∀ message ∈ prompt.messages, ∃ c ∈ message.content.toList, Text.isBlank c = false := by
  obtain ⟨runs, tracing, htraces⟩ := setup.exists_traces
  refine ⟨setup.prompt, setup.render_eq h.isLaidOut, fun message hmessage => ?_⟩
  have hsaid : message.said ∈ setup.prompt.messages.map Message.said :=
    List.mem_map_of_mem hmessage
  rw [← htraces.said_eq] at hsaid
  obtain ⟨traced, htraced, heq⟩ := List.mem_map.1 hsaid
  have hcontent : traced.placed.message.content = message.content := congrArg Prod.snd heq
  exact Text.isBlankText_eq_false_iff.1 (hcontent ▸ htraces.isBlankText_of_mem htraced)

end Render

namespace Sample

open Render

/-- A template in which every part can turn out blank: its first message and the header of its slot
are, the separator is, and so is the text that opens the group of its lane. -/
def sparseTemplate : Template where
  id := "sparse"
  task := "chat"
  name := "Sparse"
  version := 1
  layout := [.message ⟨.system, some " ", none, false, none⟩,
    .slot ⟨"turns", some ⟨.system, "\n"⟩, none, none⟩]
  slots := [("turns", ⟨0, none, none,
    [.forEach ⟨⟨none, .null, some "turns"⟩, .ascending, none, none, .appending,
        some ⟨.system, "\t"⟩, none, true⟩
      [.message ⟨.user, some "\x7b\x7bitem\x7d\x7d", none, none, none⟩]], .null⟩)]
  attachments := [⟨"lore", true, .system, "\x7b\x7bpayload\x7d\x7d", 0,
    [⟨"facts", some " ", some "!"⟩], none⟩]

/-- The blueprint of the template in which every part can turn out blank. -/
def sparseBlueprint : Blueprint where
  id := "sparse"
  task := "chat"
  name := "Sparse"
  version := 1
  layout := [.message ⟨.system, .text ⟨" ", [.text " "]⟩, false, none, none⟩,
    .slot ⟨"turns", 0, some ⟨.system, ⟨"\n", [.text "\n"]⟩⟩, none, true⟩]
  slots := [⟨"turns", 0, none, none,
    [.forEach ⟨⟨.scope ⟨"turns", []⟩, .literal .null⟩, .ascending, none, none, .appending,
        some ⟨.system, ⟨"\t", [.text "\t"]⟩⟩, none, true⟩
      [.message ⟨.user, .text ⟨"\x7b\x7bitem\x7d\x7d", [.value (.path ⟨"item", []⟩)]⟩, false, none,
        none⟩]],
    .null, 1⟩]
  order := [0]
  lanes := [⟨"lore", true, .system,
    ⟨"\x7b\x7bpayload\x7d\x7d", [.value (.path ⟨"payload", []⟩)]⟩, 0,
    [⟨"facts", some ⟨" ", [.text " "]⟩, some ⟨"!", [.text "!"]⟩⟩], none⟩]

/-- A turn and a request that say nothing stand among others. -/
def sparseSetup : Setup where
  env := ⟨Registry.empty, .object [("turns", .array [.string "a", .string " ", .string "b"])],
    Estimator.characters⟩
  blueprint := sparseBlueprint
  options := ⟨[], [⟨"lore", [], .string "\n", 0, some "facts"⟩,
    ⟨"lore", [], .string "z", 0, some "facts"⟩]⟩
  capacity := 9

theorem isCompiled_sparse : sparseBlueprint.IsCompiled :=
  ⟨Compiler.fresh none, none, sparseTemplate, by cbv⟩

end Sample

namespace Render

/-- Of the sample in which every part can turn out blank three messages are left. -/
theorem exists_not_isBlank_of_mem_messages_sparse :
    ∃ prompt, render Sample.sparseSetup.env Sample.sparseBlueprint Sample.sparseSetup.options 9 =
        .ok prompt ∧
      prompt.messages.map Message.content = ["a", "b", "z\n!"] ∧
      ∀ message ∈ prompt.messages, ∃ c ∈ message.content.toList, Text.isBlank c = false := by
  obtain ⟨prompt, hrender, hmessages⟩ :=
    @exists_not_isBlank_of_mem_messages Sample.sparseSetup Sample.isCompiled_sparse
  have hcontents : (render Sample.sparseSetup.env Sample.sparseBlueprint
      Sample.sparseSetup.options 9).map (fun prompt => prompt.messages.map Message.content) =
        .ok ["a", "b", "z\n!"] := by cbv
  have hprompt : (Except.ok prompt).map (fun prompt => prompt.messages.map Message.content) = _ :=
    hrender ▸ hcontents
  exact ⟨prompt, hrender, Except.ok.inj hprompt, hmessages⟩

end Render

end ChatPrompt
