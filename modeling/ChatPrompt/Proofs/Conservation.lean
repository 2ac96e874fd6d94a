import ChatPrompt.Proofs.Tracing

/-!
# Nothing is lost between layout, slots and lanes

The messages of a prompt are those that the elements of its layout put in, in the order of the
layout, and among them one message for each block that a lane admitted. What an element puts in is
decided by the context and by what the slots are filled with; a message of the layout goes in
whatever may be spent.
-/

namespace ChatPrompt

namespace Render

open Injection

/-- A trace of the messages that a render places, and what its lanes did. -/
structure Setup.Traces (setup : Setup) (runs : List LaneRun) (tracing : List Traced) : Prop where
  /-- The lanes come one after the other, when the layout is put together. -/
  lanes_run : LaneRuns setup.env.estimate setup.options.injections (setup.assembledUpTo setup.nodes)
    (lanesInOrder setup.lanes) runs
  /-- The lanes report what they did. -/
  lanes_eq : setup.injected.lanes = runs.map (LaneRun.stats setup.env.estimate
    setup.options.injections)
  /-- The trace is one of the messages that were placed. -/
  placed_eq : tracing.map Traced.placed = setup.injected.placed
  /-- Without the messages of lanes it is that of the layout. -/
  elements_eq : tracing.filter Traced.isElement =
    traceFrom setup.env setup.fill 0 setup.blueprint.layout
  /-- The messages are those of the layout and those of the lanes. -/
  perm : tracing.Perm (traceFrom setup.env setup.fill 0 setup.blueprint.layout ++ laneTrace 0 runs)

/-- All messages of lanes come from lanes. -/
theorem filter_not_isElement_laneTrace (number : Nat) (runs : List LaneRun) :
    (laneTrace number runs).filter (fun traced => !traced.isElement) = laneTrace number runs := by
  simp only [laneTrace, List.filter_flatMap, filter_not_isElement_lane]

/-- Lanes put in as many messages as they report. -/
theorem length_laneTrace (estimate : Estimator) (requests : List Request) (number : Nat)
    (runs : List LaneRun) : (laneTrace number runs).length =
      ((runs.map (LaneRun.stats estimate requests)).map LaneStats.blocks).sum := by
  induction runs generalizing number with
  | nil => rfl
  | cons run rest ih =>
    have hcons : laneTrace number (run :: rest) =
        run.messages.map (Traced.mk (.lane number)) ++ laneTrace (number + 1) rest := rfl
    rw [hcons, List.length_append, ih (number + 1), List.length_map, LaneRun.messages,
      List.length_map]
    rfl

namespace Setup

variable (setup : Setup)

/-- The layout is put together from what its elements put in. -/
theorem placed_eq_flatMap :
    setup.placed = setup.blueprint.layout.flatMap (emits setup.env setup.fill) :=
  flatMap_mapIdx_prepareNode setup.env (spliced_prepareNode setup.env setup.fill)

/-- Every render has a trace. -/
theorem exists_traces : ∃ runs tracing, setup.Traces runs tracing := by
  have hstart : (traceFrom setup.env setup.fill 0 setup.blueprint.layout).map Traced.placed =
      setup.placed := by
    rw [map_placed_traceFrom, setup.placed_eq_flatMap]
  obtain ⟨runs, tracing, hruns, hlanes, hplaced, helements, hperm⟩ :=
    foldl_injectLane_gains setup.env.estimate setup.options.injections
      (lanesInOrder setup.lanes) 0 ⟨setup.placed, setup.assembledUpTo setup.nodes, [], []⟩ _ hstart
  refine ⟨runs, tracing, hruns, hlanes, hplaced, helements.trans ?_, hperm⟩
  exact List.filter_eq_self.2 (isElement_traceFrom setup.env setup.fill 0 setup.blueprint.layout)

end Setup

/-- What stands in a trace was put in by an element of the layout, or by a lane. -/
theorem Setup.Traces.mem_cases {setup : Setup} {runs : List LaneRun} {tracing : List Traced}
    (h : setup.Traces runs tracing) {traced : Traced} (htraced : traced ∈ tracing) :
    (∃ position node placed, setup.blueprint.layout[position]? = some node ∧
      placed ∈ emits setup.env setup.fill node ∧ traced = ⟨.element position, placed⟩) ∨
    ∃ number role text, traced = ⟨.lane number, ⟨Message.of role text, none⟩⟩ :=
  (List.mem_append.1 (h.perm.mem_iff.1 htraced)).imp mem_traceFrom.1 mem_laneTrace

/-- The messages of lanes are the others of a trace. -/
theorem Setup.Traces.lanes_perm {setup : Setup} {runs : List LaneRun} {tracing : List Traced}
    (h : setup.Traces runs tracing) :
    (tracing.filter fun traced => !traced.isElement).Perm (laneTrace 0 runs) := by
  have hperm := h.perm.filter fun traced => !traced.isElement
  have hnone : (traceFrom setup.env setup.fill 0 setup.blueprint.layout).filter
      (fun traced => !traced.isElement) = [] := by
    refine List.filter_eq_nil_iff.2 fun traced htraced => ?_
    rw [isElement_traceFrom setup.env setup.fill 0 setup.blueprint.layout traced htraced]
    exact Bool.false_ne_true
  rwa [List.filter_append, hnone, List.nil_append, filter_not_isElement_laneTrace] at hperm

/-- A prompt says what its trace does. -/
theorem Setup.Traces.said_eq {setup : Setup} {runs : List LaneRun} {tracing : List Traced}
    (h : setup.Traces runs tracing) :
    tracing.map (fun traced => traced.placed.message.said) =
      setup.prompt.messages.map Message.said := by
  rw [setup.said_messages, ← h.placed_eq, List.map_map, List.map_map]
  rfl

/-- A prompt has as many messages as its trace. -/
theorem Setup.Traces.length_eq {setup : Setup} {runs : List LaneRun} {tracing : List Traced}
    (h : setup.Traces runs tracing) : tracing.length = setup.prompt.messages.length := by
  have hlength := congrArg List.length h.said_eq
  rwa [List.length_map, List.length_map] at hlength

/-- Nothing is lost, made twice or put in another order on the way to the prompt of a compiled
blueprint. Its layout is put together from what its elements put in. In the prompt, without the
messages of the lanes, each element has put in just that, in the order of the layout; the others
are one message for each block that a lane admitted, as many as the lanes report. -/
theorem messages_split_layout_lanes {setup : Setup} (h : setup.blueprint.IsCompiled) :
    ∃ prompt, render setup.env setup.blueprint setup.options setup.capacity = .ok prompt ∧
      assemble setup.env setup.nodes setup.filled.1 setup.filled.2 =
        .ok (setup.blueprint.layout.flatMap (emits setup.env setup.fill),
          setup.assembledUpTo setup.nodes) ∧
      ∃ (runs : List LaneRun) (tracing : List Traced),
        tracing.map (fun traced => traced.placed.message.said) =
          prompt.messages.map Message.said ∧
        tracing.filter Traced.isElement =
          traceFrom setup.env setup.fill 0 setup.blueprint.layout ∧
        LaneRuns setup.env.estimate setup.options.injections
          (setup.assembledUpTo setup.nodes) (lanesInOrder setup.lanes) runs ∧
        (tracing.filter fun traced => !traced.isElement).Perm (laneTrace 0 runs) ∧
        prompt.report.lanes =
          runs.map (LaneRun.stats setup.env.estimate setup.options.injections) ∧
        prompt.messages.length =
          (setup.blueprint.layout.flatMap (emits setup.env setup.fill)).length +
            (prompt.report.lanes.map LaneStats.blocks).sum := by
  have hassemble := setup.assemble_eq h.isLaidOut setup.nodes [] (List.append_nil _).symm
  obtain ⟨runs, tracing, htraces⟩ := setup.exists_traces
  refine ⟨setup.prompt, setup.render_eq h.isLaidOut, ?_, runs, tracing, htraces.said_eq,
    htraces.elements_eq, htraces.lanes_run, htraces.lanes_perm, htraces.lanes_eq, ?_⟩
  · rw [hassemble, ← setup.placed_eq_flatMap]
    rfl
  · have hlanes : setup.prompt.report.lanes =
        runs.map (LaneRun.stats setup.env.estimate setup.options.injections) := htraces.lanes_eq
    rw [← htraces.length_eq, htraces.perm.length_eq, List.length_append, hlanes,
      ← length_laneTrace setup.env.estimate setup.options.injections 0 runs,
      ← map_placed_traceFrom setup.env setup.fill 0, List.length_map]

end Render

namespace Sample

open Render

/-- The conversation with room for five tokens. -/
def setup : Setup := ⟨environment, blueprint, options, 5⟩

/-- There is room for one turn. -/
theorem fill_setup : setup.fill 0 = [⟨Message.of .user "a", none⟩] := by decide +kernel

/-- The layout puts in the instructions, and the turn behind its header. -/
theorem traceFrom_setup : traceFrom setup.env setup.fill 0 setup.blueprint.layout =
    [⟨.element 0, ⟨Message.of .system "H", none⟩⟩, ⟨.element 1, ⟨Message.of .system "T", none⟩⟩,
      ⟨.element 1, ⟨Message.of .user "a", none⟩⟩] := by
  have hlayout : setup.blueprint.layout = blueprint.layout := rfl
  rw [hlayout]
  simp only [traceFrom, blueprint, List.zipIdx_cons, List.zipIdx_nil, List.flatMap_cons,
    List.flatMap_nil, emits, fill_setup]
  rfl

end Sample

namespace Render

open Injection

/-- In the sample the layout puts in three messages, and the lane one. -/
theorem messages_split_layout_lanes_sample :
    ∃ prompt, render Sample.environment Sample.blueprint Sample.options 5 = .ok prompt ∧
      ∃ (runs : List LaneRun) (tracing : List Traced),
        tracing.map (fun traced => traced.placed.message.said) =
          [(.system, "H"), (.system, "T"), (.user, "a"), (.system, "z")] ∧
        (tracing.filter Traced.isElement).map (fun traced =>
            (traced.producer, traced.placed.message.said)) =
          [(.element 0, .system, "H"), (.element 1, .system, "T"), (.element 1, .user, "a")] ∧
        (tracing.filter fun traced => !traced.isElement).Perm (laneTrace 0 runs) ∧
        (prompt.report.lanes.map LaneStats.blocks).sum = 1 := by
  obtain ⟨prompt, hrender, -, runs, tracing, hsaid, helements, -, hlanes, -, hlength⟩ :=
    @messages_split_layout_lanes Sample.setup Sample.isCompiled
  have hmessages : (Except.ok prompt).map Prompt.messages = _ :=
    hrender ▸ Sample.messages_render
  rw [Except.ok.inj hmessages] at hsaid hlength
  rw [Sample.traceFrom_setup] at helements
  rw [← map_placed_traceFrom _ _ 0, Sample.traceFrom_setup] at hlength
  refine ⟨prompt, hrender, runs, tracing, hsaid, ?_, hlanes, ?_⟩
  · rw [helements]
    rfl
  · simp only [List.map_cons, List.map_nil, List.length_cons, List.length_nil] at hlength
    omega

end Render

end ChatPrompt
