import ChatPrompt.Injection.Lanes
import ChatPrompt.Proofs.Ledger

/-!
# What a lane admits

The blocks of a lane are admitted one after the other, each as far as the message that its
entries make fits into what is left. The first entry that does not fit ends the lane: what was
admitted of its block still goes in, and nothing behind it does. This is said here without the
state that a lane goes through, and the state is what putting in the admitted blocks makes of
it. Where the messages go plays no part in what is admitted.
-/

namespace ChatPrompt.Injection

open Render

/-- The entries of a block that are admitted. -/
structure Admission where
  /-- The block. -/
  block : Block
  /-- Its first entries, or all of them. -/
  entries : List String

/-- What is admitted of a block, where that is anything. -/
def Admission.ofEntries (block : Block) (entries : List String) : List Admission :=
  if entries = [] then [] else [⟨block, entries⟩]

/-- The message that the admitted entries of a block become. -/
def Admission.message (lane : Blueprint.Lane) (admission : Admission) : Message :=
  Message.of lane.role (compose lane admission.block.group admission.entries)

section Admitted

variable (estimate : Estimator) (lane : Blueprint.Lane)

/-- What some entries of a block cost as a message. -/
def entriesCost (block : Block) (entries : List String) : Tokens :=
  estimate (compose lane block.group entries)

/-- However many of some entries are taken from the front, they make a message that fits. -/
def FitsUpTo (ledger : Ledger) (block : Block) (entries : List String) : Prop :=
  ∀ taken, taken ≠ [] → taken <+: entries →
    ledger.fits (entriesCost estimate lane block taken) = true

/-- What is admitted of some blocks over a ledger. -/
inductive Admitted : Ledger → List Block → List Admission → Prop where
  /-- There are no blocks left. -/
  | nil (ledger : Ledger) : Admitted ledger [] []
  /-- A block of which every entry fits is charged and comes before what is admitted of the
  others. -/
  | whole {ledger : Ledger} {block : Block} {rest : List Block} {admissions : List Admission}
    (hne : block.entries ≠ []) (hfits : FitsUpTo estimate lane ledger block block.entries)
    (hrest : Admitted (ledger.charge (entriesCost estimate lane block block.entries)) rest
      admissions) :
    Admitted ledger (block :: rest) (⟨block, block.entries⟩ :: admissions)
  /-- An entry that does not fit ends the lane. -/
  | stopped {ledger : Ledger} {block : Block} {entries others : List String} {entry : String}
    (rest : List Block) (hentries : block.entries = entries ++ entry :: others)
    (hfits : FitsUpTo estimate lane ledger block entries)
    (hfull : ledger.fits (entriesCost estimate lane block (entries ++ [entry])) = false) :
    Admitted ledger (block :: rest) (Admission.ofEntries block entries)

variable {estimate lane} {ledger : Ledger} {blocks : List Block} {admissions : List Admission}

/-- What is admitted of a block are its first entries, and one at least. -/
theorem Admitted.entries_prefix (h : Admitted estimate lane ledger blocks admissions) :
    ∀ admission ∈ admissions,
      admission.entries ≠ [] ∧ admission.entries <+: admission.block.entries := by
  induction h with
  | nil ledger => exact nofun
  | whole hne _ _ ih => exact List.forall_mem_cons.2 ⟨⟨hne, List.prefix_rfl⟩, ih⟩
  | @stopped ledger block entries others entry rest hentries hfits hfull =>
    intro admission hadmission
    rw [Admission.ofEntries] at hadmission
    split at hadmission
    · cases hadmission
    · next hne =>
      rw [List.mem_singleton.1 hadmission]
      exact ⟨hne, hentries ▸ List.prefix_append _ _⟩

/-- A block has one message at most, and the messages come in the order of their blocks. -/
theorem Admitted.block_sublist (h : Admitted estimate lane ledger blocks admissions) :
    (admissions.map Admission.block).Sublist blocks := by
  induction h with
  | nil ledger => exact .refl _
  | whole _ _ _ ih => exact ih.cons_cons _
  | @stopped ledger block entries others entry rest hentries hfits hfull =>
    rw [Admission.ofEntries]
    split
    · exact List.nil_sublist _
    · exact List.singleton_sublist.2 List.mem_cons_self

end Admitted

/-- Entries are admitted from the front while each more of them fits; where not all are, the
next one does not fit. -/
theorem accept_eq (fits : List String → Bool) (accepted entries : List String) :
    ∃ taken left, entries = taken ++ left ∧
      (∀ before, before ≠ [] → before <+: taken → fits (accepted ++ before) = true) ∧
      ((left = [] ∧ accept fits accepted entries = (accepted ++ taken, false)) ∨
        ∃ entry others, left = entry :: others ∧ fits (accepted ++ taken ++ [entry]) = false ∧
          accept fits accepted entries = (accepted ++ taken, true)) := by
  induction entries generalizing accepted with
  | nil =>
    refine ⟨[], [], rfl, ?_, .inl ⟨rfl, ?_⟩⟩
    · intro before hne hfront
      exact absurd (List.prefix_nil.1 hfront) hne
    · rw [accept, List.append_nil]
  | cons entry rest ih =>
    rw [accept]
    by_cases hfits : fits (accepted ++ [entry]) = true
    · rw [if_pos hfits]
      obtain ⟨taken, left, rfl, htaken, hend⟩ := ih (accepted ++ [entry])
      refine ⟨entry :: taken, left, rfl, ?_, ?_⟩
      · intro before hne hfront
        cases before with
        | nil => exact absurd rfl hne
        | cons first others =>
          obtain ⟨rfl, hothers⟩ := List.cons_prefix_cons.1 hfront
          by_cases hnil : others = []
          · rw [hnil]
            exact hfits
          · have hmore := htaken others hnil hothers
            rwa [List.append_assoc, List.singleton_append] at hmore
      · simpa using hend
    · rw [if_neg hfits]
      refine ⟨[], entry :: rest, rfl, ?_, .inr ⟨entry, rest, rfl, ?_, ?_⟩⟩
      · intro before hne hfront
        exact absurd (List.prefix_nil.1 hfront) hne
      · simpa using hfits
      · rw [List.append_nil]

/-- Every block has an entry. -/
def HaveEntries (blocks : List Block) : Prop := ∀ block ∈ blocks, block.entries ≠ []

/-- A group that is joined has an entry. -/
theorem haveEntries_joinGroup {group entry : String} {blocks joined : List Block}
    (h : HaveEntries blocks) (hjoined : joinGroup group entry blocks = some joined) :
    HaveEntries joined := by
  induction blocks generalizing joined with
  | nil => cases hjoined
  | cons block rest ih =>
    obtain ⟨hblock, hrest⟩ := List.forall_mem_cons.1 h
    rw [joinGroup] at hjoined
    split at hjoined
    · cases hjoined
      exact List.forall_mem_cons.2 ⟨by simp, hrest⟩
    · obtain ⟨others, hothers, rfl⟩ := Option.map_eq_some_iff.1 hjoined
      exact List.forall_mem_cons.2 ⟨hblock, ih hrest hothers⟩

/-- A request that becomes a block is an entry of it. -/
theorem haveEntries_addRequest (lane : Blueprint.Lane) {blocks : List Block} (request : Request)
    (h : HaveEntries blocks) : HaveEntries (addRequest lane blocks request) := by
  rw [addRequest]
  cases entryText lane request with
  | none => exact h
  | some entry =>
    dsimp only
    cases hjoined : request.group.bind fun group => joinGroup group entry blocks with
    | none =>
      intro block hblock
      rcases List.mem_append.1 hblock with hin | hnew
      · exact h block hin
      · rw [List.mem_singleton.1 hnew]
        exact List.cons_ne_nil _ _
    | some joined =>
      obtain ⟨group, -, hgroup⟩ := Option.bind_eq_some_iff.1 hjoined
      exact haveEntries_joinGroup h hgroup

/-- Every block of a lane has an entry. -/
theorem haveEntries_blocks (lane : Blueprint.Lane) (requests : List Request) :
    HaveEntries (blocks lane requests) := by
  have hfold : ∀ start, HaveEntries start →
      HaveEntries (requests.foldl (addRequest lane) start) := by
    induction requests with
    | nil => exact fun start hstart => hstart
    | cons request rest ih =>
      exact fun start hstart => ih _ (haveEntries_addRequest lane request hstart)
  exact hfold [] (by simp [HaveEntries])

/-- The entries of a group that is joined are those that were there and the new one. -/
theorem entries_joinGroup_perm {group entry : String} {blocks joined : List Block}
    (h : joinGroup group entry blocks = some joined) :
    (joined.flatMap Block.entries).Perm (blocks.flatMap Block.entries ++ [entry]) := by
  induction blocks generalizing joined with
  | nil => cases h
  | cons block rest ih =>
    rw [joinGroup] at h
    split at h
    · cases h
      rw [List.flatMap_cons, List.flatMap_cons, List.append_assoc, List.append_assoc]
      exact List.perm_append_comm.append_left _
    · obtain ⟨others, hothers, rfl⟩ := Option.map_eq_some_iff.1 h
      rw [List.flatMap_cons, List.flatMap_cons, List.append_assoc]
      exact (ih hothers).append_left _

/-- A request adds its text to the entries of the blocks, if it has one. -/
theorem entries_addRequest_perm (lane : Blueprint.Lane) (blocks : List Block)
    (request : Request) :
    ((addRequest lane blocks request).flatMap Block.entries).Perm
      (blocks.flatMap Block.entries ++ (entryText lane request).toList) := by
  rw [addRequest]
  cases entryText lane request with
  | none => simp
  | some entry =>
    dsimp only
    cases hjoined : request.group.bind fun group => joinGroup group entry blocks with
    | none => simp
    | some joined =>
      obtain ⟨group, -, hgroup⟩ := Option.bind_eq_some_iff.1 hjoined
      exact entries_joinGroup_perm hgroup

/-- The blocks of a lane hold the texts of its requests, each of them once. -/
theorem entries_blocks_perm (lane : Blueprint.Lane) (requests : List Request) :
    ((blocks lane requests).flatMap Block.entries).Perm
      (requests.filterMap (entryText lane)) := by
  have hfold : ∀ start, ((requests.foldl (addRequest lane) start).flatMap Block.entries).Perm
      (start.flatMap Block.entries ++ requests.filterMap (entryText lane)) := by
    induction requests with
    | nil => exact fun start => by simp
    | cons request rest ih =>
      intro start
      have hrest := (ih (addRequest lane start request)).trans
        ((entries_addRequest_perm lane start request).append_right _)
      rw [List.append_assoc] at hrest
      rw [List.foldl_cons, List.filterMap_cons]
      cases hentry : entryText lane request with
      | none => simpa [hentry] using hrest
      | some entry => simpa [hentry] using hrest
  exact hfold []

section LaneState

variable (estimate : Estimator) (lane : Blueprint.Lane) (placed : List Placed)

/-- The gap of a block, and the message that its admitted entries become. -/
def Admission.insert (admission : Admission) : Nat × Placed :=
  (position admission.block.targets placed, ⟨admission.message lane, none⟩)

/-- The lane after some blocks were admitted. -/
def LaneState.put (state : LaneState) (admissions : List Admission) : LaneState :=
  { state with
    ledger := state.ledger.charge
      (admissions.map fun admission => entriesCost estimate lane admission.block
        admission.entries).sum
    tokens := state.tokens +
      (admissions.map fun admission => entriesCost estimate lane admission.block
        admission.entries).sum
    included := state.included + (admissions.map fun admission => admission.entries.length).sum
    inserts := state.inserts ++ admissions.map (Admission.insert lane placed) }

theorem LaneState.put_nil (state : LaneState) : state.put estimate lane placed [] = state := by
  simp [put]

theorem LaneState.put_cons (state : LaneState) (admission : Admission)
    (rest : List Admission) : state.put estimate lane placed (admission :: rest) =
      (state.put estimate lane placed [admission]).put estimate lane placed rest := by
  simp [put, UInt64.add_assoc, Nat.add_assoc]

/-- The entries that are admitted of a block are put in, since they fit. -/
theorem LaneState.insert_eq (state : LaneState) {block : Block} {entries : List String}
    (hne : entries ≠ []) (hfits : FitsUpTo estimate lane state.ledger block entries) :
    state.insert estimate lane placed block entries =
      state.put estimate lane placed [⟨block, entries⟩] := by
  have hspend : state.ledger.spend (entriesCost estimate lane block entries) =
      .ok (state.ledger.charge (entriesCost estimate lane block entries)) := by
    refine (Ledger.spend_eq_ok_iff _).2 ⟨?_, rfl⟩
    exact Option.isNone_iff_eq_none.1 (hfits entries hne List.prefix_rfl)
  rw [entriesCost] at hspend
  simp [LaneState.insert, hspend, put, Admission.insert, Admission.message, entriesCost]

/-- A lane that ran out puts in no more. -/
theorem foldl_add_of_exhausted (blocks : List Block) {state : LaneState}
    (h : state.exhausted = true) :
    blocks.foldl (LaneState.add estimate lane placed) state = state := by
  induction blocks with
  | nil => rfl
  | cons block rest ih => rw [List.foldl_cons, LaneState.add, if_pos h, ih]

/-- A lane that has not run out puts in a block that fits, or as much of it as does. -/
theorem LaneState.add_eq {state : LaneState} (hopen : state.exhausted = false) {block : Block}
    (hne : block.entries ≠ []) :
    (FitsUpTo estimate lane state.ledger block block.entries ∧
      state.add estimate lane placed block =
        state.put estimate lane placed [⟨block, block.entries⟩]) ∨
      ∃ entries entry others, block.entries = entries ++ entry :: others ∧
        FitsUpTo estimate lane state.ledger block entries ∧
        state.ledger.fits (entriesCost estimate lane block (entries ++ [entry])) = false ∧
        state.add estimate lane placed block =
          { state.put estimate lane placed (Admission.ofEntries block entries) with
            exhausted := true } := by
  obtain ⟨taken, left, hentries, hfits, hend⟩ := accept_eq (fun entries =>
    state.ledger.fits (estimate (compose lane block.group entries))) [] block.entries
  simp only [List.nil_append] at hfits hend
  rw [LaneState.add, if_neg (by simp [hopen])]
  rcases hend with ⟨rfl, haccept⟩ | ⟨entry, others, rfl, hfull, haccept⟩
  · rw [List.append_nil] at hentries
    subst hentries
    have hsame : { state with exhausted := false } = state := by
      rw [← hopen]
    refine .inl ⟨hfits, ?_⟩
    dsimp only
    rw [haccept]
    dsimp only
    rw [if_neg (by simpa using hne), hsame, insert_eq estimate lane placed state hne hfits]
  · refine .inr ⟨taken, entry, others, hentries, hfits, hfull, ?_⟩
    dsimp only
    rw [haccept, Admission.ofEntries]
    dsimp only
    by_cases hnil : taken = []
    · rw [if_pos (by simpa using hnil), if_pos hnil, LaneState.put_nil]
    · rw [if_neg (by simpa using hnil), if_neg hnil]
      exact insert_eq estimate lane placed { state with exhausted := true } hnil hfits

/-- A lane puts in what is admitted of its blocks. -/
theorem foldl_add_eq {blocks : List Block} (hblocks : HaveEntries blocks) {state : LaneState}
    (hopen : state.exhausted = false) :
    ∃ admissions exhausted, Admitted estimate lane state.ledger blocks admissions ∧
      blocks.foldl (LaneState.add estimate lane placed) state =
        { state.put estimate lane placed admissions with exhausted := exhausted } := by
  induction blocks generalizing state with
  | nil =>
    refine ⟨[], state.exhausted, .nil _, ?_⟩
    rw [LaneState.put_nil]
    rfl
  | cons block rest ih =>
    obtain ⟨hne, hrest⟩ := List.forall_mem_cons.1 hblocks
    rw [List.foldl_cons]
    rcases LaneState.add_eq estimate lane placed hopen hne with
      ⟨hfits, hadd⟩ | ⟨entries, entry, others, hentries, hfits, hfull, hadd⟩
    · have hstill : (state.put estimate lane placed [⟨block, block.entries⟩]).exhausted = false :=
        hopen
      obtain ⟨admissions, exhausted, hadmitted, hfold⟩ := ih hrest hstill
      refine ⟨⟨block, block.entries⟩ :: admissions, exhausted, .whole hne hfits ?_, ?_⟩
      · simpa [LaneState.put] using hadmitted
      · rw [hadd, hfold, ← LaneState.put_cons]
    · refine ⟨Admission.ofEntries block entries, true,
        .stopped rest hentries hfits hfull, ?_⟩
      rw [hadd]
      exact foldl_add_of_exhausted estimate lane placed rest rfl

end LaneState

end ChatPrompt.Injection
