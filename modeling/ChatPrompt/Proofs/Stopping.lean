import ChatPrompt.Proofs.Interchange
import ChatPrompt.Proofs.Reservation
import ChatPrompt.Proofs.Room
import ChatPrompt.Proofs.Tracing

/-!
# Where a lane stops

A lane prices the message of a block anew for each entry that it tries, and charges the message
when the block is done. Nothing is spent between the last price that fitted and the charge, so the
charge is never refused, whatever the estimator makes of a message with one entry more. Read block
by block, the entries that go in are those in front of the first one with which the message of its
block would cost more than what is left: the blocks before it go in whole, of its own block what
stands before it, and nothing behind it.
-/

namespace ChatPrompt.Injection

open Render

section Stops

variable (estimate : Estimator) (lane : Blueprint.Lane)

/-- What some blocks cost when they go in whole. -/
def wholeCost (blocks : List Block) : Tokens :=
  (blocks.map fun block => entriesCost estimate lane block block.entries).sum

/-- Blocks that go in whole one after the other: each of their entries fits, when the blocks before
are charged. -/
def FitWhole (ledger : Ledger) (blocks : List Block) : Prop :=
  ∀ before block after, blocks = before ++ block :: after →
    FitsUpTo estimate lane (ledger.charge (wholeCost estimate lane before)) block block.entries

/-- An entry at which a lane stops, in the order in which the blocks are read. -/
structure Stop where
  /-- The blocks before its own. -/
  front : List Block
  /-- Its block. -/
  block : Block
  /-- The entries before it in its block. -/
  entries : List String
  /-- The entry. -/
  entry : String
  /-- The entries behind it in its block. -/
  others : List String
  /-- The blocks behind its own. -/
  back : List Block

/-- A lane stops at the first entry that does not fit: what is before it goes in. -/
structure Stop.StopsAt (stop : Stop) (ledger : Ledger) (blocks : List Block)
    (admissions : List Admission) : Prop where
  /-- The block of the entry is one of the lane. -/
  blocks_eq : blocks = stop.front ++ stop.block :: stop.back
  /-- The entry is one of the block. -/
  entries_eq : stop.block.entries = stop.entries ++ stop.entry :: stop.others
  /-- The blocks in front go in whole, and of its own block the entries before it. -/
  admissions_eq : admissions =
    stop.front.map Admission.whole ++ Admission.ofEntries stop.block stop.entries
  /-- No entry of a block in front was refused. -/
  front_fits : FitWhole estimate lane ledger stop.front
  /-- No entry before it in its block was refused. -/
  entries_fit : FitsUpTo estimate lane
    (ledger.charge (wholeCost estimate lane stop.front)) stop.block stop.entries
  /-- With the entry the message of the block costs more than what is left. -/
  remaining_lt :
    (ledger.charge (wholeCost estimate lane stop.front)).remaining <
      entriesCost estimate lane stop.block (stop.entries ++ [stop.entry])

variable {estimate lane} {ledger : Ledger} {blocks : List Block} {admissions : List Admission}

/-- An amount does not fit just if it is more than what is left. -/
theorem fits_eq_false_iff (amount : Tokens) :
    ledger.fits amount = false ↔ ledger.remaining < amount := by
  rw [Ledger.fits, Option.isNone_eq_false_iff, Option.isSome_iff_ne_none, ne_eq,
    ledger.refusalLevel?_eq_none_iff, Nat.not_le, UInt64.lt_iff_toNat_lt]

/-- A block that goes in whole comes before others that do. -/
theorem FitWhole.cons {block : Block} (hfits : FitsUpTo estimate lane ledger block block.entries)
    (h : FitWhole estimate lane
      (ledger.charge (entriesCost estimate lane block block.entries)) blocks) :
    FitWhole estimate lane ledger (block :: blocks) := by
  intro before other after heq
  cases before with
  | nil =>
    obtain ⟨rfl, -⟩ := List.cons.inj heq
    simpa [wholeCost] using hfits
  | cons first rest =>
    obtain ⟨rfl, hrest⟩ := List.cons.inj heq
    have hother := h rest other after hrest
    rwa [Ledger.charge_charge] at hother

/-- A lane that stops behind a block that goes in whole stops at the same entry with it. -/
theorem Stop.StopsAt.cons {stop : Stop} {block : Block}
    (hfits : FitsUpTo estimate lane ledger block block.entries)
    (h : stop.StopsAt estimate lane
      (ledger.charge (entriesCost estimate lane block block.entries)) blocks admissions) :
    Stop.StopsAt estimate lane { stop with front := block :: stop.front } ledger
      (block :: blocks) (Admission.whole block :: admissions) where
  blocks_eq := congrArg (block :: ·) h.blocks_eq
  entries_eq := h.entries_eq
  admissions_eq := congrArg (Admission.whole block :: ·) h.admissions_eq
  front_fits := FitWhole.cons hfits h.front_fits
  entries_fit := by
    have hentries := h.entries_fit
    rwa [Ledger.charge_charge] at hentries
  remaining_lt := by
    have hlt := h.remaining_lt
    rwa [Ledger.charge_charge] at hlt

/-- All blocks go in whole, or a lane stops at some entry. -/
theorem Admitted.whole_or_stops (h : Admitted estimate lane ledger blocks admissions) :
    (admissions = blocks.map Admission.whole ∧ FitWhole estimate lane ledger blocks) ∨
      ∃ stop : Stop, stop.StopsAt estimate lane ledger blocks admissions := by
  induction h with
  | nil ledger =>
    refine .inl ⟨rfl, fun before block after heq => ?_⟩
    simp at heq
  | whole hne hfits hrest ih =>
    rcases ih with ⟨rfl, hall⟩ | ⟨stop, hstop⟩
    · exact .inl ⟨rfl, hall.cons hfits⟩
    · exact .inr ⟨_, hstop.cons hfits⟩
  | @stopped ledger block entries others entry rest hentries hfits hfull =>
    refine .inr ⟨⟨[], block, entries, entry, others, rest⟩, rfl, hentries, rfl, ?_, ?_, ?_⟩
    · intro before other after heq
      simp at heq
    · simpa [wholeCost] using hfits
    · simpa [wholeCost] using (fits_eq_false_iff _).1 hfull

/-- The entries of the blocks of a list that go in whole are all of them. -/
theorem flatMap_entries_whole (blocks : List Block) :
    (blocks.map Admission.whole).flatMap Admission.entries = blocks.flatMap Block.entries := by
  rw [List.flatMap_map]
  rfl

/-- What goes in of a block are the entries that are admitted. -/
theorem flatMap_entries_ofEntries (block : Block) (entries : List String) :
    (Admission.ofEntries block entries).flatMap Admission.entries = entries := by
  rw [Admission.ofEntries]
  split
  · next hnil => rw [hnil, List.flatMap_nil]
  · rw [List.flatMap_singleton]

/-- The entries that go in are the first ones of a lane, read block by block. -/
theorem Admitted.flatMap_entries_prefix (h : Admitted estimate lane ledger blocks admissions) :
    admissions.flatMap Admission.entries <+: blocks.flatMap Block.entries := by
  rcases h.whole_or_stops with ⟨rfl, -⟩ | ⟨stop, hstop⟩
  · rw [flatMap_entries_whole]
  · rw [hstop.admissions_eq, hstop.blocks_eq, List.flatMap_append, List.flatMap_append,
      flatMap_entries_whole, flatMap_entries_ofEntries, List.flatMap_cons, hstop.entries_eq,
      List.append_assoc stop.entries]
    exact (List.prefix_append_right_inj _).2 (List.prefix_append _ _)

end Stops

section Charge

variable (estimate : Estimator) (lane : Blueprint.Lane)

/-- The entries of a block that are admitted over a ledger. -/
def acceptedOf (ledger : Ledger) (block : Block) : List String :=
  (accept (fun entries => ledger.fits (entriesCost estimate lane block entries)) []
    block.entries).1

/-- The message of the entries that are admitted of a block fits, and so does that of any of them
from the front. -/
theorem fitsUpTo_acceptedOf (ledger : Ledger) (block : Block) :
    FitsUpTo estimate lane ledger block (acceptedOf estimate lane ledger block) := by
  obtain ⟨taken, left, -, hfits, hend⟩ := accept_eq (fun entries =>
    ledger.fits (entriesCost estimate lane block entries)) [] block.entries
  have htaken : acceptedOf estimate lane ledger block = taken := by
    rw [acceptedOf]
    rcases hend with ⟨-, haccept⟩ | ⟨entry, others, -, -, haccept⟩
    · rw [haccept, List.nil_append]
    · rw [haccept, List.nil_append]
  rw [htaken]
  exact hfits

/-- The charge for the entries that are admitted of a block is never refused. -/
theorem spend_acceptedOf {ledger : Ledger} {block : Block}
    (hne : acceptedOf estimate lane ledger block ≠ []) :
    ledger.spend (entriesCost estimate lane block (acceptedOf estimate lane ledger block)) =
      .ok (ledger.charge
        (entriesCost estimate lane block (acceptedOf estimate lane ledger block))) := by
  have hfits := fitsUpTo_acceptedOf estimate lane ledger block _ hne List.prefix_rfl
  exact (Ledger.spend_eq_ok_iff _).2 ⟨Option.isNone_iff_eq_none.1 hfits, rfl⟩

/-- A lane that has not stopped puts in all entries that are admitted of a block. -/
theorem LaneState.add_eq_put (placed : List Placed) {state : LaneState}
    (hopen : state.exhausted = false) (block : Block) :
    ∃ exhausted, state.add estimate lane placed block =
      { state.put estimate lane placed
          (Admission.ofEntries block (acceptedOf estimate lane state.ledger block)) with
        exhausted := exhausted } := by
  have hfits := fitsUpTo_acceptedOf estimate lane state.ledger block
  refine ⟨(accept (fun entries => state.ledger.fits
    (entriesCost estimate lane block entries)) [] block.entries).2, ?_⟩
  rw [LaneState.add, if_neg (by simp [hopen])]
  by_cases hnil : acceptedOf estimate lane state.ledger block = []
  · rw [Admission.ofEntries, if_pos hnil, LaneState.put_nil]
    exact if_pos (List.isEmpty_iff.2 hnil)
  · rw [Admission.ofEntries, if_neg hnil]
    refine (if_neg (mt List.isEmpty_iff.1 hnil)).trans ?_
    exact insert_eq estimate lane placed { state with exhausted := _ } hnil hfits

end Charge

/-- A lane takes everything up to the first entry that is refused, and nothing behind it, whatever
its estimator and its ledger are. Read block by block, the entries that go in are the first ones of
the lane. All of them go in, or there is an entry at which the lane stops: the blocks in front of it
go in whole and of its own block the entries before it, none of which was refused, and with it the
message of its block costs more than is left. What goes in is what joins the prompt, what is charged
and what is counted. The charge for a block comes after the prices of its entries, and is never
refused: in any state of a lane that has not stopped all entries of a block that were admitted are
put in. -/
theorem injectLane_stops (estimate : Estimator) (requests : List Request) (before : Injected)
    (lane : Blueprint.Lane) :
    (∃ (admissions : List Admission) (stats : LaneStats),
      (admissions.flatMap Admission.entries <+:
        (blocks lane (served lane.id requests)).flatMap Block.entries) ∧
      ((admissions = (blocks lane (served lane.id requests)).map Admission.whole ∧
          FitWhole estimate lane (before.ledger.release (laneFloor lane.id))
            (blocks lane (served lane.id requests))) ∨
        ∃ stop : Stop, stop.StopsAt estimate lane (before.ledger.release (laneFloor lane.id))
          (blocks lane (served lane.id requests)) admissions) ∧
      (injectLane estimate requests before lane).placed.Perm (before.placed ++
        admissions.map fun admission => ⟨admission.message lane, none⟩) ∧
      (injectLane estimate requests before lane).ledger =
        (before.ledger.release (laneFloor lane.id)).charge (admissions.map fun admission =>
          entriesCost estimate lane admission.block admission.entries).sum ∧
      (injectLane estimate requests before lane).lanes = before.lanes ++ [stats] ∧
      stats.included = (admissions.flatMap Admission.entries).length) ∧
    ∀ (state : LaneState) (block : Block),
      (acceptedOf estimate lane state.ledger block = [] ∨
        state.ledger.spend (entriesCost estimate lane block
            (acceptedOf estimate lane state.ledger block)) =
          .ok (state.ledger.charge (entriesCost estimate lane block
            (acceptedOf estimate lane state.ledger block)))) ∧
      (state.exhausted = true ∨
        ∃ exhausted, state.add estimate lane before.placed block =
          { state.put estimate lane before.placed
              (Admission.ofEntries block (acceptedOf estimate lane state.ledger block)) with
            exhausted := exhausted }) := by
  constructor
  · obtain ⟨run, exhausted, rfl, hadmitted, hinject⟩ :=
      injectLane_eq estimate requests before lane
    refine ⟨run.admissions, run.stats estimate requests, hadmitted.flatMap_entries_prefix,
      hadmitted.whole_or_stops, ?_, ?_, ?_, ?_⟩
    · rw [hinject]
      refine (weave_perm _ _).trans (.of_eq ?_)
      rw [List.map_map]
      rfl
    · rw [hinject]
      rfl
    · rw [hinject]
    · rw [List.length_flatMap]
      rfl
  · intro state block
    constructor
    · exact or_iff_not_imp_left.2 (spend_acceptedOf estimate lane)
    · refine or_iff_not_imp_left.2 fun hopen => ?_
      exact LaneState.add_eq_put estimate lane before.placed (Bool.eq_false_iff.2 hopen) block

end ChatPrompt.Injection

namespace ChatPrompt.Sample

open Injection Render

/-- The third entry does not fit, so the fourth one stays out, for which there would be room. -/
example : (injectLane Estimator.characters
    [toLane "lore" "aa" 0, toLane "lore" "b" 0, toLane "lore" "cc" 0, toLane "lore" "d" 0]
    ⟨[], .ofCapacity 4, [], []⟩ (echo "lore" true)).placed.map
      (fun placed => placed.message.content) = ["aa", "b"] := by cbv

end ChatPrompt.Sample
