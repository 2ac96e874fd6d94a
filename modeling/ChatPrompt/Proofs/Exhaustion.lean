import ChatPrompt.Proofs.Admission
import ChatPrompt.Proofs.Lanes
import ChatPrompt.Proofs.Truncation

/-!
# The report tells of every refusal

A lane that ran out has put in fewer requests than it was given, so it drops some, and gives
that as the reason. Together with the marks of the slots this makes the report complete:
where it tells of no refusal, a larger capacity changes nothing in the prompt, and nothing in
the report but the capacity.
-/

namespace ChatPrompt.Injection

open Render

variable {capacity : Tokens}

/-- A lane with its ledger widened. -/
def LaneState.widen (state : LaneState) (capacity : Tokens) : LaneState :=
  { state with ledger := state.ledger.widen capacity }

/-- What injecting did, with its ledger widened. -/
def Injected.widen (injected : Injected) (capacity : Tokens) : Injected :=
  { injected with ledger := injected.ledger.widen capacity }

/-- Where all entries are admitted, they are by any test that admits more. -/
theorem accept_eq_of_imp {fits others : List String → Bool}
    (himp : ∀ entries, fits entries = true → others entries = true)
    (accepted entries : List String) (h : (accept fits accepted entries).2 = false) :
    accept others accepted entries = accept fits accepted entries := by
  induction entries generalizing accepted with
  | nil => rfl
  | cons entry rest ih =>
    unfold accept at h ⊢
    by_cases hfits : fits (accepted ++ [entry]) = true
    · rw [if_pos hfits] at h
      rw [if_pos hfits, if_pos (himp _ hfits)]
      exact ih _ h
    · rw [if_neg hfits] at h
      cases h

/-- As many entries are admitted as there are, or fewer where one was refused. -/
theorem length_accept (fits : List String → Bool) (accepted entries : List String) :
    (accept fits accepted entries).1.length +
        (if (accept fits accepted entries).2 then 1 else 0) ≤
      accepted.length + entries.length := by
  induction entries generalizing accepted with
  | nil => simp [accept]
  | cons entry rest ih =>
    rw [accept]
    split
    · have hrest := ih (accepted ++ [entry])
      rw [List.length_append, List.length_singleton] at hrest
      rw [List.length_cons]
      omega
    · dsimp only
      rw [List.length_cons, if_pos rfl]
      omega

/-- So many entries are in some blocks. -/
def countEntries (blocks : List Block) : Nat :=
  (blocks.map fun block => block.entries.length).sum

/-- The blocks of a lane have no more entries than there are requests. -/
theorem countEntries_blocks (lane : Blueprint.Lane) (requests : List Request) :
    countEntries (blocks lane requests) ≤ requests.length := by
  have hlength := (entries_blocks_perm lane requests).length_eq
  rw [List.length_flatMap] at hlength
  calc countEntries (blocks lane requests)
      = (requests.filterMap (entryText lane)).length := hlength
    _ ≤ requests.length := List.length_filterMap_le _ _

/-- A lane between two blocks has no more requests than the blocks so far have entries, and
fewer if it is exhausted. -/
structure LaneState.Counts (count : Nat) (state : LaneState) : Prop where
  /-- There are no more requests than entries. -/
  included_le : state.included ≤ count
  /-- There are fewer if something was refused. -/
  included_lt : state.exhausted = true → state.included < count

/-- A block that becomes a message counts the entries that were admitted, and one more where
one was refused. -/
theorem insert_counts (estimate : Estimator) (lane : Blueprint.Lane) (placed : List Placed)
    (block : Block) {accepted : List String} (hsome : accepted ≠ []) {count : Nat}
    {state : LaneState}
    (h : state.included + accepted.length + (if state.exhausted then 1 else 0) ≤ count) :
    (state.insert estimate lane placed block accepted).Counts count := by
  have hpos := List.length_pos_iff.2 hsome
  rw [LaneState.insert]
  cases state.ledger.spend (estimate (compose lane block.group accepted)) with
  | error refusal =>
    have hlt : state.included < count := by omega
    exact ⟨Nat.le_of_lt hlt, fun _ => hlt⟩
  | ok charged =>
    constructor
    · dsimp only
      omega
    · intro hexhausted
      dsimp only at hexhausted ⊢
      rw [if_pos hexhausted] at h
      omega

/-- A block counts its entries. -/
theorem add_counts (estimate : Estimator) (lane : Blueprint.Lane) (placed : List Placed)
    {count : Nat} {state : LaneState} (h : state.Counts count) (block : Block) :
    (state.add estimate lane placed block).Counts (count + block.entries.length) := by
  have hincluded := h.included_le
  rw [LaneState.add]
  by_cases hexhausted : state.exhausted = true
  · have hlt := h.included_lt hexhausted
    rw [if_pos hexhausted]
    exact ⟨by omega, fun _ => by omega⟩
  · have haccept := length_accept
      (fun entries => state.ledger.fits (estimate (compose lane block.group entries))) []
      block.entries
    rw [if_neg hexhausted]
    dsimp only
    generalize accept (fun entries => state.ledger.fits
      (estimate (compose lane block.group entries))) [] block.entries = result at haccept ⊢
    rw [List.length_nil, Nat.zero_add] at haccept
    by_cases hempty : result.1.isEmpty = true
    · rw [if_pos hempty]
      refine ⟨Nat.le_trans hincluded (Nat.le_add_right _ _), fun hrefused => ?_⟩
      dsimp only at hrefused ⊢
      rw [if_pos hrefused] at haccept
      omega
    · rw [if_neg hempty]
      refine insert_counts estimate lane placed block
        (fun hnil => hempty (List.isEmpty_iff.2 hnil)) ?_
      dsimp only
      omega

theorem foldl_add_counts (estimate : Estimator) (lane : Blueprint.Lane) (placed : List Placed)
    (blocks : List Block) {count : Nat} {state : LaneState} (h : state.Counts count) :
    (blocks.foldl (LaneState.add estimate lane placed) state).Counts
      (count + countEntries blocks) := by
  induction blocks generalizing count state with
  | nil => exact h
  | cons block rest ih =>
    have hrest := ih (add_counts estimate lane placed h block)
    rw [Nat.add_assoc] at hrest
    exact hrest

theorem exhausted_foldl_add (estimate : Estimator) (lane : Blueprint.Lane)
    (placed : List Placed) (blocks : List Block) {state : LaneState}
    (h : state.exhausted = true) :
    (blocks.foldl (LaneState.add estimate lane placed) state).exhausted = true := by
  induction blocks with
  | nil => exact h
  | cons block rest ih =>
    have hstays : state.add estimate lane placed block = state := by
      rw [LaneState.add]
      rw [if_pos h]
    rw [List.foldl_cons, hstays, ih]

variable (env : Environment)

/-- What fits fits over a larger capacity as well. -/
theorem fits_widen {ledger : Ledger} (hle : ledger.capacity ≤ capacity) {amount : Tokens}
    (h : ledger.fits amount = true) : (ledger.widen capacity).fits amount = true := by
  have hnone := Option.isNone_iff_eq_none.1 h
  rw [Ledger.fits, Ledger.refusalLevel?_widen hle (by simp [hnone])]
  exact h

/-- A block becomes the same message over a larger capacity, unless it is refused. -/
theorem insert_widen (lane : Blueprint.Lane) (placed : List Placed) (block : Block)
    (accepted : List String) {state : LaneState} (hle : state.ledger.capacity ≤ capacity)
    (h : (state.insert env.estimate lane placed block accepted).exhausted = false) :
    (state.widen capacity).insert env.estimate lane placed block accepted =
      (state.insert env.estimate lane placed block accepted).widen capacity := by
  simp only [LaneState.insert, LaneState.widen] at h ⊢
  cases hspend : state.ledger.spend (env.estimate (compose lane block.group accepted)) with
  | error refusal =>
    rw [hspend] at h
    cases h
  | ok charged => rw [Ledger.spend_widen_of_ok hle hspend]

/-- A block that becomes a message does not make a lane less exhausted. -/
theorem exhausted_insert (estimate : Estimator) (lane : Blueprint.Lane) (placed : List Placed)
    (block : Block) (accepted : List String) {state : LaneState}
    (h : (state.insert estimate lane placed block accepted).exhausted = false) :
    state.exhausted = false := by
  simp only [LaneState.insert] at h
  split at h
  · cases h
  · exact h

/-- A block of a lane that is not exhausted after it is added in the same way over a larger
capacity. -/
theorem add_widen (lane : Blueprint.Lane) (placed : List Placed) {state : LaneState}
    (hle : state.ledger.capacity ≤ capacity) (block : Block)
    (h : (state.add env.estimate lane placed block).exhausted = false) :
    (state.widen capacity).add env.estimate lane placed block =
      (state.add env.estimate lane placed block).widen capacity := by
  simp only [LaneState.add] at h ⊢
  by_cases hexhausted : state.exhausted = true
  · rw [if_pos hexhausted, hexhausted] at h
    cases h
  · have hwide : ¬(state.widen capacity).exhausted = true := hexhausted
    rw [if_neg hexhausted] at h
    rw [if_neg hexhausted, if_neg hwide]
    have haccept : (accept (fun entries => state.ledger.fits
          (env.estimate (compose lane block.group entries))) [] block.entries).2 = false →
        accept (fun entries => (state.widen capacity).ledger.fits
            (env.estimate (compose lane block.group entries))) [] block.entries =
          accept (fun entries => state.ledger.fits
            (env.estimate (compose lane block.group entries))) [] block.entries :=
      accept_eq_of_imp (fun _ hfits => fits_widen hle hfits) [] block.entries
    generalize accept (fun entries => state.ledger.fits
      (env.estimate (compose lane block.group entries))) [] block.entries = result at h haccept ⊢
    by_cases hempty : result.1.isEmpty = true
    · rw [if_pos hempty] at h
      rw [haccept h, if_pos hempty, if_pos hempty]
      rfl
    · rw [if_neg hempty] at h
      rw [haccept (exhausted_insert env.estimate lane placed block _ h), if_neg hempty,
        if_neg hempty]
      have hnoted : ({ state with exhausted := result.2 } : LaneState).ledger.capacity ≤
          capacity := hle
      exact insert_widen env lane placed block _ hnoted h

theorem LaneState.Charges.capacity_le {start : Ledger} {state : LaneState}
    (h : state.Charges env start) (hle : start.capacity ≤ capacity) :
    state.ledger.capacity ≤ capacity := by
  rw [h.ledger_eq]
  exact hle

/-- A lane that is not exhausted in the end is the same over a larger capacity. -/
theorem foldl_add_widen (lane : Blueprint.Lane) (placed : List Placed) (blocks : List Block)
    {start : Ledger} (hle : start.capacity ≤ capacity) {state : LaneState}
    (hcharges : state.Charges env start)
    (h : (blocks.foldl (LaneState.add env.estimate lane placed) state).exhausted = false) :
    blocks.foldl (LaneState.add env.estimate lane placed) (state.widen capacity) =
      (blocks.foldl (LaneState.add env.estimate lane placed) state).widen capacity := by
  induction blocks generalizing state with
  | nil => rfl
  | cons block rest ih =>
    rw [List.foldl_cons] at h ⊢
    have hblock : (state.add env.estimate lane placed block).exhausted = false := by
      cases hexhausted : (state.add env.estimate lane placed block).exhausted with
      | false => rfl
      | true =>
        rw [exhausted_foldl_add env.estimate lane placed rest hexhausted] at h
        cases h
    rw [add_widen env lane placed (hcharges.capacity_le env hle) block hblock]
    exact ih (add_charges env lane placed block hcharges) h

/-- A lane that drops nothing because it ran out did not run out. -/
theorem unexhausted_of_drops (requests : List Request) (before : Injected)
    (lane : Blueprint.Lane)
    (h : ∀ dropped ∈ (injectLane env.estimate requests before lane).drops,
      dropped.reason ≠ .exhausted) :
    ((blocks lane (served lane.id requests)).foldl
      (LaneState.add env.estimate lane before.placed)
        ⟨before.ledger.release (laneFloor lane.id), 0, 0, [], false⟩).exhausted = false := by
  have hcounts := foldl_add_counts env.estimate lane before.placed
    (blocks lane (served lane.id requests))
    (⟨Nat.le_refl 0, nofun⟩ : LaneState.Counts 0
      ⟨before.ledger.release (laneFloor lane.id), 0, 0, [], false⟩)
  have hblocks := countEntries_blocks lane (served lane.id requests)
  simp only [injectLane] at h
  generalize (blocks lane (served lane.id requests)).foldl
    (LaneState.add env.estimate lane before.placed)
      ⟨before.ledger.release (laneFloor lane.id), 0, 0, [], false⟩ = state at h hcounts ⊢
  cases hexhausted : state.exhausted with
  | false => rfl
  | true =>
    -- fewer requests went in than there were, and the reason is the one ruled out
    have hlt := hcounts.included_lt hexhausted
    rw [Nat.zero_add] at hlt
    rw [hexhausted, laneDrop, if_pos (Nat.lt_of_lt_of_le hlt hblocks)] at h
    exact absurd rfl (h _ (List.mem_append_right _ List.mem_cons_self))

/-- A lane that drops nothing because it ran out is the same over a larger capacity. -/
theorem injectLane_widen (requests : List Request) {before : Injected} (lane : Blueprint.Lane)
    (hle : before.ledger.capacity ≤ capacity)
    (h : ∀ dropped ∈ (injectLane env.estimate requests before lane).drops,
      dropped.reason ≠ .exhausted) :
    injectLane env.estimate requests (before.widen capacity) lane =
      (injectLane env.estimate requests before lane).widen capacity := by
  have hreleased : (before.ledger.release (laneFloor lane.id)).capacity ≤ capacity := hle
  have hstate := foldl_add_widen env lane before.placed
    (blocks lane (served lane.id requests)) hreleased (charges_start env _)
    (unexhausted_of_drops env requests before lane h)
  simp only [injectLane, Injected.widen]
  rw [← Ledger.widen_release]
  simp only [LaneState.widen] at hstate
  rw [hstate]

/-- What was dropped by a lane stays dropped. -/
theorem mem_drops_foldl (estimate : Estimator) (requests : List Request)
    (lanes : List Blueprint.Lane) {before : Injected} {dropped : Drop}
    (h : dropped ∈ before.drops) :
    dropped ∈ (lanes.foldl (injectLane estimate requests) before).drops := by
  induction lanes generalizing before with
  | nil => exact h
  | cons lane rest ih => exact ih (List.mem_append_left _ h)

/-- Lanes that drop nothing because they ran out are the same over a larger capacity. -/
theorem foldl_injectLane_widen (requests : List Request) (lanes : List Blueprint.Lane)
    {before : Injected} (hle : before.ledger.capacity ≤ capacity)
    (h : ∀ dropped ∈ (lanes.foldl (injectLane env.estimate requests) before).drops,
      dropped.reason ≠ .exhausted) :
    lanes.foldl (injectLane env.estimate requests) (before.widen capacity) =
      (lanes.foldl (injectLane env.estimate requests) before).widen capacity := by
  induction lanes generalizing before with
  | nil => rfl
  | cons lane rest ih =>
    obtain ⟨inserted, hjoins⟩ := injectLane_joins env requests before lane
    have hafter : (injectLane env.estimate requests before lane).ledger.capacity ≤ capacity := by
      rw [hjoins.ledger_eq]
      exact hle
    have hlane := injectLane_widen env requests lane hle fun dropped hdropped =>
      h dropped (mem_drops_foldl env.estimate requests rest hdropped)
    rw [List.foldl_cons, List.foldl_cons, hlane]
    exact ih hafter h

end ChatPrompt.Injection

namespace ChatPrompt.Render

namespace Setup

variable (setup : Setup) {capacity : Tokens}

/-- Where the slots are filled in the same way, and no lane drops anything because it ran
out, the same is injected over a larger capacity. -/
theorem injected_widen (hle : setup.capacity ≤ capacity)
    (hfilled : (setup.widen capacity).filled = (setup.filled.1, setup.filled.2.widen capacity))
    (h : ∀ dropped ∈ setup.injected.drops, dropped.reason ≠ .exhausted) :
    (setup.widen capacity).injected = setup.injected.widen capacity := by
  have hfill : (setup.widen capacity).fill = setup.fill := by
    funext number
    rw [fill, hfilled]
    rfl
  have hplaced : (setup.widen capacity).placed = setup.placed := by
    rw [placed, hfill]
    rfl
  have hassembled : (setup.widen capacity).assembledUpTo (setup.widen capacity).nodes =
      (setup.assembledUpTo setup.nodes).widen capacity := by
    rw [assembledUpTo, shownBy, hfill, hfilled]
    exact foldl_settleText_widen setup.env _ setup.filled.2 capacity
  have hstart : (⟨setup.placed, setup.assembledUpTo setup.nodes, [], []⟩ :
      Injection.Injected).ledger.capacity ≤ capacity := by
    rw [setup.capacity_assembledUpTo]
    exact hle
  have hlanes := Injection.foldl_injectLane_widen setup.env setup.options.injections
    (Injection.lanesInOrder setup.lanes) hstart h
  rw [injected, injectedUpTo, hplaced, hassembled]
  exact hlanes

end Setup

variable (env : Environment)

/-- Where the report of a render tells of no truncated slot and of nothing that was dropped
because the tokens ran out, the render with a larger capacity gives the same prompt, with the
same report but for the capacity. -/
theorem render_eq_of_untruncated {blueprint : Blueprint} (h : blueprint.IsCompiled)
    (options : RenderOptions) {small large : Tokens} (hle : small ≤ large) {prompt : Prompt}
    (hrender : render env blueprint options small = .ok prompt)
    (hslots : ∀ stats ∈ prompt.report.slots, stats.tally.truncated = false)
    (hdrops : ∀ dropped ∈ prompt.report.drops, dropped.reason ≠ .exhausted) :
    render env blueprint options large =
      .ok { prompt with report := { prompt.report with capacity := large } } := by
  have hlaid := h.isLaidOut
  let setup : Setup := ⟨env, blueprint, options, small⟩
  have hprompt : prompt = setup.prompt :=
    Except.ok.inj (hrender.symm.trans (setup.render_eq hlaid))
  subst hprompt
  have hfilled := setup.filled_widen hle (setup.parts_eq_false hslots)
  have hinjected := setup.injected_widen hle hfilled fun dropped hdropped =>
    hdrops dropped (List.mem_append_right _ hdropped)
  have hlarge : render env blueprint options large = .ok (setup.widen large).prompt :=
    (setup.widen large).render_eq hlaid
  rw [hlarge, Setup.prompt, Setup.report, Setup.stats, hinjected, hfilled]
  rfl

/-- With eight tokens nothing of the sample is refused, and with twenty it is the same. -/
theorem render_eq_of_untruncated_sample :
    ∃ prompt, render Sample.environment Sample.blueprint Sample.options 8 = .ok prompt ∧
      render Sample.environment Sample.blueprint Sample.options 20 =
        .ok { prompt with report := { prompt.report with capacity := 20 } } := by
  have hreport : (render Sample.environment Sample.blueprint Sample.options 8).map
      (fun prompt => (prompt.report.slots.map fun stats => stats.tally.truncated,
        prompt.report.drops.map Injection.Drop.reason)) = .ok ([false], []) := by decide +kernel
  have hrender : render Sample.environment Sample.blueprint Sample.options 8 =
      .ok (Setup.mk Sample.environment Sample.blueprint Sample.options 8).prompt :=
    Setup.render_eq ⟨Sample.environment, Sample.blueprint, Sample.options, 8⟩
      Sample.isCompiled.isLaidOut
  rw [hrender] at hreport
  obtain ⟨hslots, hdrops⟩ := Prod.mk.inj (Except.ok.inj hreport)
  refine ⟨_, hrender, render_eq_of_untruncated Sample.environment Sample.isCompiled
    Sample.options (by decide) hrender ?_ ?_⟩
  · intro stats hstats
    have hmem := List.mem_map_of_mem (f := fun stats : SlotStats => stats.tally.truncated) hstats
    rw [hslots] at hmem
    exact List.mem_singleton.1 hmem
  · intro dropped hdropped
    rw [List.map_eq_nil_iff.1 hdrops] at hdropped
    cases hdropped

end ChatPrompt.Render
