import ChatPrompt.Proofs.Admission
import ChatPrompt.Proofs.Stages
import ChatPrompt.Proofs.Weaving
import Mathlib.Data.List.Induction

/-!
# Where the messages of a prompt come from

What the elements of a layout put into a prompt is said here from the blueprint alone, given what
its slots are filled with. A trace of a prompt says of each of its messages which element of the
layout or which lane it comes from. Each lane is woven into the messages that are there: it leaves
them in their order, and adds one message for each block that it admits. So by induction over the
lanes every prompt has a trace in which the elements have put in their messages in the order of the
layout, and the lanes the messages of the blocks that they admitted.
-/

namespace ChatPrompt.Render

open Injection

/-- The message of a header or footer, unless it is blank. -/
def frameMessages (scope : Scope) (frame : Option Blueprint.Frame) : List Placed :=
  match frame with
  | none => []
  | some frame =>
    if Text.isBlankText (frame.content.render scope) then []
    else [⟨Message.of frame.role (frame.content.render scope), none⟩]

/-- What an element of the layout puts into the prompt, given what the slots are filled with. A
message goes in unless its text is blank. A place for a slot gives its header, what the slot is
filled with and its footer, unless the slot is empty and the place is left out then. -/
def emits (env : Environment) (fill : Nat → List Entry) : Blueprint.LayoutNode → List Placed
  | .message details =>
    if Text.isBlankText (env.text env.root details.content) then []
    else [⟨⟨details.role, env.text env.root details.content, details.openEnded⟩,
      (anchorKey env.root details.anchor).map fun key => ⟨key, .layout⟩⟩]
  | .slot place =>
    if (fill place.slot).isEmpty && place.omitIfEmpty then []
    else frameMessages env.root place.header ++ (fill place.slot).map (Entry.placed place.name) ++
      frameMessages env.root place.footer

/-- A header or footer is a complete message without a key. -/
theorem mem_frameMessages {scope : Scope} {frame : Option Blueprint.Frame} {placed : Placed}
    (h : placed ∈ frameMessages scope frame) :
    ∃ role text, placed = ⟨Message.of role text, none⟩ := by
  cases frame with
  | none => cases h
  | some frame =>
    rw [frameMessages] at h
    split at h
    · cases h
    · exact ⟨_, _, List.mem_singleton.1 h⟩

/-- A message of the layout puts in itself, or nothing. -/
theorem mem_emits_message {env : Environment} {fill : Nat → List Entry}
    {details : Blueprint.Message} {placed : Placed}
    (h : placed ∈ emits env fill (.message details)) :
    placed = ⟨⟨details.role, env.text env.root details.content, details.openEnded⟩,
      (anchorKey env.root details.anchor).map fun key => ⟨key, .layout⟩⟩ := by
  rw [emits] at h
  split at h
  · cases h
  · exact List.mem_singleton.1 h

/-- The place of a slot puts in its header and footer and what the slot is filled with. -/
theorem mem_emits_slot {env : Environment} {fill : Nat → List Entry}
    {place : Blueprint.Placeholder} {placed : Placed}
    (h : placed ∈ emits env fill (.slot place)) :
    (∃ role text, placed = ⟨Message.of role text, none⟩) ∨
      ∃ entry ∈ fill place.slot, placed = Entry.placed place.name entry := by
  rw [emits] at h
  split at h
  · cases h
  · rcases List.mem_append.1 h with hbefore | hfooter
    · rcases List.mem_append.1 hbefore with hheader | hentries
      · exact .inl (mem_frameMessages hheader)
      · obtain ⟨entry, hentry, rfl⟩ := List.mem_map.1 hentries
        exact .inr ⟨entry, hentry, rfl⟩
    · exact .inl (mem_frameMessages hfooter)

/-- A prepared header or footer is placed as its message. -/
theorem map_placed_prepareFrame (scope : Scope) (floor : String)
    (frame : Option Blueprint.Frame) :
    (prepareFrame scope floor frame).toList.map HeldText.placed = frameMessages scope frame := by
  cases frame with
  | none => rfl
  | some frame =>
    simp only [prepareFrame, frameMessages, Text.contentful?, Option.bind_some]
    split <;> rfl

/-- A prepared element is placed as what the element puts in. -/
theorem spliced_prepareNode (env : Environment) (fill : Nat → List Entry) (index : Nat)
    (node : Blueprint.LayoutNode) :
    (prepareNode env index node).spliced fill = emits env fill node := by
  cases node with
  | message details =>
    simp only [prepareNode, emits, Text.contentful?]
    split
    · next hblank =>
      rw [if_pos (by simpa using hblank)]
      rfl
    · next text htext =>
      split at htext
      · cases htext
      · next hblank =>
        cases htext
        rw [if_neg hblank]
        rfl
  | slot place =>
    simp only [prepareNode, emits, PreparedNode.spliced, map_placed_prepareFrame]

/-- The part of a render that a message comes from. -/
inductive Producer where
  /-- The element of the layout at a position. -/
  | element (position : Nat)
  /-- The lane of a number, in the order in which the lanes come. -/
  | lane (number : Nat)
  deriving DecidableEq, Repr

/-- A message of a prompt and where it comes from. -/
structure Traced where
  /-- Where it comes from. -/
  producer : Producer
  /-- The message with its key. -/
  placed : Placed
  deriving DecidableEq, Repr

/-- Whether a message comes from the layout. -/
def Traced.isElement (traced : Traced) : Bool :=
  match traced.producer with
  | .element _ => true
  | .lane _ => false

/-- The messages that some elements of the layout put in, the first of which has a position. -/
def traceFrom (env : Environment) (fill : Nat → List Entry) (position : Nat)
    (layout : List Blueprint.LayoutNode) : List Traced :=
  (layout.zipIdx position).flatMap fun element =>
    (emits env fill element.1).map (Traced.mk (.element element.2))

/-- The trace of elements is a trace of what they put in. -/
theorem map_placed_traceFrom (env : Environment) (fill : Nat → List Entry) (position : Nat)
    (layout : List Blueprint.LayoutNode) :
    (traceFrom env fill position layout).map Traced.placed = layout.flatMap (emits env fill) := by
  have hplaced : ∀ element : Blueprint.LayoutNode × Nat,
      ((emits env fill element.1).map (Traced.mk (.element element.2))).map Traced.placed =
        emits env fill element.1 := by
    intro element
    rw [List.map_map]
    exact List.map_id _
  simp only [traceFrom, List.map_flatMap, hplaced]
  rw [← List.flatMap_map, List.zipIdx_map_fst]

/-- All messages in the trace of elements come from the layout. -/
theorem isElement_traceFrom (env : Environment) (fill : Nat → List Entry) (position : Nat)
    (layout : List Blueprint.LayoutNode) :
    ∀ traced ∈ traceFrom env fill position layout, traced.isElement = true := by
  intro traced htraced
  obtain ⟨element, -, hmem⟩ := List.mem_flatMap.1 htraced
  obtain ⟨placed, -, rfl⟩ := List.mem_map.1 hmem
  rfl

/-- The trace of elements says what each of them put in. -/
theorem mem_traceFrom {env : Environment} {fill : Nat → List Entry}
    {layout : List Blueprint.LayoutNode} {traced : Traced} :
    traced ∈ traceFrom env fill 0 layout ↔ ∃ position node placed,
      layout[position]? = some node ∧ placed ∈ emits env fill node ∧
        traced = ⟨.element position, placed⟩ := by
  simp only [traceFrom, List.mem_flatMap, Prod.exists, List.mem_zipIdx_iff_getElem?, List.mem_map]
  constructor
  · rintro ⟨node, position, hnode, placed, hplaced, rfl⟩
    exact ⟨position, node, placed, hnode, hplaced, rfl⟩
  · rintro ⟨position, node, placed, hnode, hplaced, rfl⟩
    exact ⟨node, position, hnode, placed, hplaced, rfl⟩

/-- What a lane did. -/
structure LaneRun where
  /-- The lane. -/
  lane : Blueprint.Lane
  /-- The blocks that it admitted. -/
  admissions : List Admission

namespace LaneRun

/-- The messages that a lane put in, in the order of its blocks. -/
def messages (run : LaneRun) : List Placed :=
  run.admissions.map fun admission => ⟨admission.message run.lane, none⟩

/-- What the messages of a lane cost. -/
def tokens (estimate : Estimator) (run : LaneRun) : Tokens :=
  (run.admissions.map fun admission => entriesCost estimate run.lane admission.block
    admission.entries).sum

/-- What a lane reports. -/
def stats (estimate : Estimator) (requests : List Request) (run : LaneRun) : LaneStats :=
  ⟨run.lane.id, run.tokens estimate,
    (run.admissions.map fun admission => admission.entries.length).sum,
    (served run.lane.id requests).length, run.admissions.length⟩

/-- The ledger when the reserve of a lane is given up. -/
def opened (run : LaneRun) (ledger : Ledger) : Ledger := ledger.release (laneFloor run.lane.id)

end LaneRun

section

variable (estimate : Estimator) (requests : List Request)

/-- What lanes do one after the other, from a ledger on. -/
inductive LaneRuns : Ledger → List Blueprint.Lane → List LaneRun → Prop where
  /-- There are no lanes left. -/
  | nil (ledger : Ledger) : LaneRuns ledger [] []
  /-- A lane gives up its reserve, and admits what fits of its blocks then. -/
  | cons {ledger : Ledger} {run : LaneRun} {lanes : List Blueprint.Lane} {runs : List LaneRun}
    (hadmitted : Admitted estimate run.lane (run.opened ledger)
      (blocks run.lane (served run.lane.id requests)) run.admissions)
    (hrest : LaneRuns ((run.opened ledger).charge (run.tokens estimate)) lanes runs) :
    LaneRuns ledger (run.lane :: lanes) (run :: runs)

/-- Injecting a lane weaves in a message for each block that is admitted. -/
theorem injectLane_eq (before : Injected) (lane : Blueprint.Lane) :
    ∃ (run : LaneRun) (exhausted : Bool), run.lane = lane ∧
      Admitted estimate lane (run.opened before.ledger) (blocks lane (served lane.id requests))
        run.admissions ∧
      injectLane estimate requests before lane =
        ⟨weave before.placed (run.admissions.map (Admission.insert lane before.placed)),
          (run.opened before.ledger).charge (run.tokens estimate),
          before.lanes ++ [run.stats estimate requests],
          before.drops ++ (laneDrop (run.stats estimate requests) exhausted).toList⟩ := by
  obtain ⟨admissions, exhausted, hadmitted, hfold⟩ := foldl_add_eq estimate lane before.placed
    (haveEntries_blocks lane (served lane.id requests))
    (show (LaneState.mk (before.ledger.release (laneFloor lane.id)) 0 0 [] false).exhausted = false
      from rfl)
  refine ⟨⟨lane, admissions⟩, exhausted, rfl, hadmitted, ?_⟩
  rw [injectLane, hfold]
  simp only [LaneState.put, List.nil_append, UInt64.zero_add, Nat.zero_add, List.length_map]
  rfl

end

/-- The trace of the messages that lanes put in, the first of which has a number. -/
def laneTrace (number : Nat) (runs : List LaneRun) : List Traced :=
  (runs.zipIdx number).flatMap fun run => run.1.messages.map (Traced.mk (.lane run.2))

/-- What lanes put in are complete messages without keys. -/
theorem mem_laneTrace {first : Nat} {runs : List LaneRun} {traced : Traced}
    (h : traced ∈ laneTrace first runs) :
    ∃ number role text, traced = ⟨.lane number, ⟨Message.of role text, none⟩⟩ := by
  obtain ⟨⟨run, number⟩, -, htraced⟩ := List.mem_flatMap.1 h
  obtain ⟨placed, hplaced, rfl⟩ := List.mem_map.1 htraced
  obtain ⟨admission, -, rfl⟩ := List.mem_map.1 hplaced
  exact ⟨number, _, _, rfl⟩

/-- All messages of a lane come from a lane. -/
theorem filter_not_isElement_lane (number : Nat) (placed : List Placed) :
    (placed.map (Traced.mk (.lane number))).filter (fun traced => !traced.isElement) =
      placed.map (Traced.mk (.lane number)) := by
  refine List.filter_eq_self.2 ?_
  intro traced htraced
  obtain ⟨message, -, rfl⟩ := List.mem_map.1 htraced
  rfl

/-- Messages of lanes join a trace: those of the layout stay in their order, and no message is
lost or made. -/
structure Gains (before after inserted : List Traced) : Prop where
  /-- The messages of the layout are the same. -/
  elements_eq : after.filter Traced.isElement = before.filter Traced.isElement
  /-- The messages are those that were there and the new ones. -/
  perm : after.Perm (before ++ inserted)

/-- Messages of a lane that are put between those of a trace join it. -/
theorem gains_woven {α : Type} (number : Nat) (message : α → Placed) (woven : List (Traced ⊕ α)) :
    Gains (standing woven) (woven.map (Sum.elim id fun item => ⟨.lane number, message item⟩))
      (((added woven).map message).map (Traced.mk (.lane number))) where
  elements_eq := by
    induction woven with
    | nil => rfl
    | cons first rest ih =>
      cases first with
      | inl entry => rw [List.map_cons, standing_inl, List.filter_cons, List.filter_cons, ih]; rfl
      | inr item => exact ih
  perm := by
    have hperm := (woven_perm woven).map
      (Sum.elim id fun item => (⟨.lane number, message item⟩ : Traced))
    simpa [Function.comp_def] using hperm

/-- A lane that is injected joins the trace of what was there. -/
theorem weave_gains (number : Nat) (tracing : List Traced) (inserts : List (Nat × Placed)) :
    ∃ woven : List Traced, woven.map Traced.placed = weave (tracing.map Traced.placed) inserts ∧
      Gains tracing woven ((inserts.map Prod.snd).map (Traced.mk (.lane number))) := by
  refine ⟨(weaving Prod.fst tracing inserts).map
    (Sum.elim id fun insert => ⟨.lane number, insert.2⟩), ?_, ?_⟩
  · rw [List.map_map, Sum.comp_elim]
    exact (map_weaving Prod.fst tracing inserts Traced.placed Prod.snd).trans
      (congrArg _ (List.map_id _))
  · obtain ⟨helements, hperm⟩ := gains_woven number Prod.snd (weaving Prod.fst tracing inserts)
    rw [standing_weaving] at helements hperm
    refine ⟨helements, hperm.trans (List.Perm.append_left _ ?_)⟩
    exact ((added_weaving_perm Prod.fst tracing inserts).map _).map _

/-- Lanes that are injected one after the other join the trace of what was there. -/
theorem foldl_injectLane_gains (estimate : Estimator) (requests : List Request)
    (lanes : List Blueprint.Lane) (number : Nat) (before : Injected) (tracing : List Traced)
    (htrace : tracing.map Traced.placed = before.placed) :
    ∃ (runs : List LaneRun) (woven : List Traced),
      LaneRuns estimate requests before.ledger lanes runs ∧
      (lanes.foldl (injectLane estimate requests) before).lanes =
        before.lanes ++ runs.map (LaneRun.stats estimate requests) ∧
      woven.map Traced.placed = (lanes.foldl (injectLane estimate requests) before).placed ∧
      Gains tracing woven (laneTrace number runs) := by
  induction lanes generalizing number before tracing with
  | nil => exact ⟨[], tracing, .nil _, (List.append_nil _).symm, htrace, rfl, by simp [laneTrace]⟩
  | cons lane rest ih =>
    obtain ⟨run, exhausted, rfl, hadmitted, hinject⟩ :=
      injectLane_eq estimate requests before lane
    rw [← htrace] at hinject
    obtain ⟨next, hnext, hfirst⟩ := weave_gains number tracing
      (run.admissions.map (Admission.insert run.lane (tracing.map Traced.placed)))
    obtain ⟨runs, woven, hruns, hlanes, hwoven, hothers⟩ := ih (number + 1)
      (injectLane estimate requests before run.lane) next (by rw [hinject]; exact hnext)
    rw [hinject] at hruns hlanes
    refine ⟨run :: runs, woven, .cons hadmitted hruns, ?_, hwoven,
      hothers.elements_eq.trans hfirst.elements_eq, ?_⟩
    · rw [List.foldl_cons, hinject, hlanes, List.append_assoc, List.singleton_append]
      rfl
    · have hmessages : (run.admissions.map (Admission.insert run.lane
          (tracing.map Traced.placed))).map Prod.snd = run.messages := by
        rw [List.map_map]
        rfl
      rw [hmessages] at hfirst
      have hperm := hothers.perm.trans (hfirst.perm.append_right _)
      rwa [List.append_assoc] at hperm

end ChatPrompt.Render
