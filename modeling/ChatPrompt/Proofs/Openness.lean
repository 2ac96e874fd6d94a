import ChatPrompt.Proofs.Anchoring
import ChatPrompt.Proofs.Correspondence

/-!
# Only the last message stays open

The model goes on with a message of the prompt only if it is the last one and the layout of the
template declares it so. Headers, footers and the messages of slots and lanes are complete from the
start; a message of the layout is open as long as nothing comes behind it, and is complete
otherwise, with the same words.
-/

namespace ChatPrompt

namespace Render

open Injection

/-- A message that is open only under a condition. -/
def closedUnless (message : Message) (kept : Bool) : Message :=
  { message with openEnded := message.openEnded && kept }

/-- Closing messages early changes nothing in a message but whether it is open, and leaves the last
one alone. -/
theorem getElem?_message_closeEarly (placed : List Placed) (index : Nat) :
    ((closeEarly placed).map Placed.message)[index]? =
      placed[index]?.map fun entry =>
        closedUnless entry.message (index + 1 == placed.length) := by
  induction placed generalizing index with
  | nil => rfl
  | cons entry rest ih =>
    cases rest with
    | nil =>
      cases index with
      | zero => simp [closeEarly, closedUnless]
      | succ index => rfl
    | cons next rest =>
      cases index with
      | zero => simp [closeEarly, closedUnless]
      | succ index => simpa [closeEarly] using ih index

/-- At most one message stays open. -/
theorem length_filter_openEnded_closeEarly (placed : List Placed) :
    (((closeEarly placed).map Placed.message).filter Message.openEnded).length ≤ 1 := by
  induction placed with
  | nil => exact Nat.zero_le 1
  | cons entry rest ih =>
    cases rest with
    | nil => exact List.length_filter_le _ _
    | cons next rest => simpa [closeEarly] using ih

/-- What the place of a slot puts in is complete. -/
theorem Setup.openEnded_slot (setup : Setup) {place : Blueprint.Placeholder} {placed : Placed}
    (h : placed ∈ emits setup.env setup.fill (.slot place)) :
    placed.message.openEnded = false := by
  rcases mem_emits_slot h with ⟨role, text, rfl⟩ | ⟨entry, hentry, rfl⟩
  · rfl
  · obtain ⟨slot, -, hplan⟩ := setup.fill_generates hentry
    exact hplan.openEnded

/-- A message comes from one of the layout of a template that is declared open. -/
def Traced.IsDeclaredOpen (source : Template) (traced : Traced) : Prop :=
  ∃ position details, traced.producer = .element position ∧
    source.layout[position]? = some (.message details) ∧ details.openEnded = true

/-- What corresponds stands at the same position. -/
theorem exists_corresponds {source : List Template.LayoutNode}
    {layout : List Blueprint.LayoutNode}
    (h : List.Forall₂ Blueprint.Compilation.Corresponds source layout) {position : Nat}
    {node : Blueprint.LayoutNode} (hnode : layout[position]? = some node) :
    ∃ declared, source[position]? = some declared ∧
      Blueprint.Compilation.Corresponds declared node := by
  induction h generalizing position with
  | nil => cases hnode
  | @cons declared _ _ _ hfirst _ ih =>
    cases position with
    | zero =>
      cases hnode
      exact ⟨declared, rfl, hfirst⟩
    | succ position => exact ih hnode

namespace Setup.Traces

variable {setup : Setup} {runs : List LaneRun} {tracing : List Traced} {source : Template}
  (htraces : setup.Traces runs tracing)
  (hlayout : List.Forall₂ Blueprint.Compilation.Corresponds source.layout
    setup.blueprint.layout)

include htraces hlayout

/-- A message is open before the end of the render is known exactly if it comes from one that is
declared open. -/
theorem openEnded_iff {traced : Traced} (htraced : traced ∈ tracing) :
    traced.placed.message.openEnded = true ↔ traced.IsDeclaredOpen source := by
  rcases htraces.mem_cases htraced with
    ⟨position, node, placed, hnode, hplaced, rfl⟩ | ⟨number, role, text, rfl⟩
  · obtain ⟨declared, hdeclared, hcorresponds⟩ := exists_corresponds hlayout hnode
    have hsame : Traced.IsDeclaredOpen source ⟨.element position, placed⟩ ↔
        ∃ details, declared = .message details ∧ details.openEnded = true := by
      constructor
      · rintro ⟨_, details, ⟨⟩, hdetails, hopen⟩
        exact ⟨details, Option.some.inj (hdeclared.symm.trans hdetails), hopen⟩
      · rintro ⟨details, rfl, hopen⟩
        exact ⟨position, details, rfl, hdeclared, hopen⟩
    rw [hsame]
    cases hcorresponds with
    | message hrole hopen hassistant => simp [mem_emits_message hplaced, hopen]
    | slot hname => simp [setup.openEnded_slot hplaced]
  · refine iff_of_false Bool.false_ne_true ?_
    rintro ⟨position, details, hproducer, -, -⟩
    cases hproducer

/-- A message that is open is one of the assistant. -/
theorem role_of_openEnded {traced : Traced} (htraced : traced ∈ tracing)
    (hopen : traced.placed.message.openEnded = true) :
    traced.placed.message.role = .assistant := by
  rcases htraces.mem_cases htraced with
    ⟨position, node, placed, hnode, hplaced, rfl⟩ | ⟨number, role, text, rfl⟩
  · obtain ⟨declared, -, hcorresponds⟩ := exists_corresponds hlayout hnode
    cases hcorresponds with
    | message hrole hsame hassistant =>
      rw [mem_emits_message hplaced] at hopen ⊢
      exact hrole.trans (hassistant (hsame.symm.trans hopen))
    | slot hname =>
      rw [setup.openEnded_slot hplaced] at hopen
      cases hopen
  · cases hopen

end Setup.Traces

/-- The messages of a prompt are those of its trace, of which only the last may be open. -/
theorem Setup.Traces.getElem?_messages {setup : Setup} {runs : List LaneRun}
    {tracing : List Traced} (htraces : setup.Traces runs tracing) (index : Nat) :
    setup.prompt.messages[index]? = tracing[index]?.map fun traced =>
      closedUnless traced.placed.message (index + 1 == tracing.length) := by
  rw [prompt, getElem?_message_closeEarly, ← htraces.placed_eq, List.getElem?_map,
    List.length_map, Option.map_map]
  rfl

/-- In a prompt made from a template that a compiler accepted, a message is open exactly if it is
the last one and comes from a message of the layout that is declared open. So at most one is, and
it is one of the assistant. Closing the others changes nothing else in them. -/
theorem openEnded_iff_last {compiler : Compiler} (hcompiler : compiler.IsReached)
    {allowed : Option (List String)} {source : Template} {setup : Setup}
    (hcompile : (compiler.compileAllowing allowed source).1 = .ok setup.blueprint) :
    ∃ prompt, render setup.env setup.blueprint setup.options setup.capacity = .ok prompt ∧
      (prompt.messages.filter Message.openEnded).length ≤ 1 ∧
      (∀ message ∈ prompt.messages, message.openEnded = true → message.role = .assistant) ∧
      ∃ (runs : List LaneRun) (tracing : List Traced), setup.Traces runs tracing ∧
        tracing.length = prompt.messages.length ∧
        ∀ index traced, tracing[index]? = some traced →
          ∃ message, prompt.messages[index]? = some message ∧
            message = closedUnless traced.placed.message (index + 1 == tracing.length) ∧
            (message.openEnded = true ↔
              index + 1 = tracing.length ∧ traced.IsDeclaredOpen source) := by
  have hcompiled : setup.blueprint.IsCompiled := ⟨compiler, allowed, source, hcompile⟩
  have hlayout := hcompiler.corresponds hcompile
  obtain ⟨runs, tracing, htraces⟩ := setup.exists_traces
  refine ⟨setup.prompt, setup.render_eq hcompiled.isLaidOut,
    length_filter_openEnded_closeEarly setup.injected.placed, ?_, runs, tracing, htraces,
    htraces.length_eq, ?_⟩
  · intro message hmessage hopen
    obtain ⟨index, hindex⟩ := List.mem_iff_getElem?.1 hmessage
    rw [htraces.getElem?_messages] at hindex
    obtain ⟨traced, htraced, rfl⟩ := Option.map_eq_some_iff.1 hindex
    exact htraces.role_of_openEnded hlayout (List.mem_of_getElem? htraced)
      (Bool.and_eq_true_iff.1 hopen).1
  · intro index traced htraced
    refine ⟨_, ?_, rfl, ?_⟩
    · rw [htraces.getElem?_messages, htraced]
      rfl
    · rw [← htraces.openEnded_iff hlayout (List.mem_of_getElem? htraced), and_comm]
      exact Bool.and_eq_true_iff.trans (and_congr_right fun _ => beq_iff_eq)

/-- In the conversation with keys the answer is open: it is the last message, and declared so. -/
theorem openEnded_iff_last_keyed :
    ∃ prompt, render Sample.keyedSetup.env Sample.keyedSetup.blueprint Sample.keyedSetup.options
        Sample.keyedSetup.capacity = .ok prompt ∧
      prompt.messages.map Message.openEnded = [false, false, false, false, false, true] ∧
      ∃ (runs : List LaneRun) (tracing : List Traced), Sample.keyedSetup.Traces runs tracing ∧
        tracing.length = 6 ∧
        ∀ traced, tracing[5]? = some traced → traced.IsDeclaredOpen Sample.keyedTemplate := by
  obtain ⟨prompt, hrender, -, -, runs, tracing, htraces, hlength, hopen⟩ :=
    @openEnded_iff_last _ (.fresh none) none Sample.keyedTemplate Sample.keyedSetup
      Sample.compile_keyed
  have hprompt : (Except.ok prompt).map (fun prompt => (prompt.messages, prompt.anchors)) = _ :=
    hrender ▸ Sample.render_keyed
  obtain ⟨hmessages, -⟩ := Prod.mk.inj (Except.ok.inj hprompt)
  rw [hmessages] at hlength hopen
  refine ⟨prompt, hrender, ?_, runs, tracing, htraces, hlength, ?_⟩
  · rw [hmessages]
    rfl
  · intro traced htraced
    obtain ⟨message, hmessage, -, hiff⟩ := hopen 5 traced htraced
    cases hmessage
    exact (hiff.1 rfl).2

end Render

end ChatPrompt
