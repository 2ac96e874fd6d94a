import ChatPrompt.Proofs.Anchoring
import ChatPrompt.Proofs.Interchange

/-!
# Messages of lanes stand where their targets lead

The targets of a block lead to one gap of the prompt that its lane finds: the one next to the first
message that carries a key, for the first target of which some message does; failing that the one
that the last target at an edge is away from its edge; and failing that the bottom. The messages of
a lane are put in all at once. Each has as many of the messages that were there before it as its gap
says, whatever the other messages of the lane are, and those that share a gap come in the order in
which they were admitted.
-/

namespace ChatPrompt.Injection

open Render

/-- Some message carries the key that a target is next to. -/
def Target.IsMet (placed : List Placed) (target : Target) : Prop :=
  ∃ key after, target = .anchored key after ∧
    ∃ entry ∈ placed, ∃ mark, entry.mark = some mark ∧ mark.key = key

/-- Whether a target is away from an edge. -/
def Target.isEdge : Target → Bool
  | .anchored _ _ => false
  | .boundary _ _ => true

/-- Where targets lead in a prompt. -/
inductive Leads (placed : List Placed) : List Target → Nat → Prop where
  /-- The first target with a key that is carried leads next to the first message that does. -/
  | beside {earlier later : List Target} {key : String} {after : Bool} {index : Nat}
    {mark : Render.Mark} (hearlier : ∀ target ∈ earlier, ¬target.IsMet placed)
    (hfirst : IsFirst placed index mark) (hkey : mark.key = key) :
    Leads placed (earlier ++ .anchored key after :: later) (if after then index + 1 else index)
  /-- Without a key that is carried, the last target at an edge leads away from the top, -/
  | fromTop {earlier later : List Target} {distance : Nat}
    (hunmet : ∀ target ∈ earlier ++ .boundary .top distance :: later, ¬target.IsMet placed)
    (hlast : ∀ target ∈ later, target.isEdge = false) :
    Leads placed (earlier ++ .boundary .top distance :: later) (min distance placed.length)
  /-- or away from the bottom. -/
  | fromBottom {earlier later : List Target} {distance : Nat}
    (hunmet : ∀ target ∈ earlier ++ .boundary .bottom distance :: later, ¬target.IsMet placed)
    (hlast : ∀ target ∈ later, target.isEdge = false) :
    Leads placed (earlier ++ .boundary .bottom distance :: later) (placed.length - distance)
  /-- Without any of these, targets lead to the bottom. -/
  | bottom {targets : List Target} (hunmet : ∀ target ∈ targets, ¬target.IsMet placed)
    (hedge : ∀ target ∈ targets, target.isEdge = false) : Leads placed targets placed.length

section Position

variable {placed : List Placed} {targets : List Target} {target : Target} {gap : Nat}

/-- The index at which a key is found is that of the first message that carries it. -/
theorem findIdx?_eq_some_iff_isFirst {key : String} {index : Nat} :
    (placed.findIdx? fun entry => entry.mark.any fun mark => mark.key == key) = some index ↔
      ∃ mark, IsFirst placed index mark ∧ mark.key = key := by
  induction placed generalizing index with
  | nil => exact ⟨fun h => (Option.some_ne_none _ h.symm).elim, fun ⟨_, h, _⟩ => nomatch h.carried⟩
  | cons entry rest ih =>
    simp only [List.findIdx?_cons, Option.any_eq_true, beq_iff_eq]
    by_cases hentry : ∃ mark, entry.mark = some mark ∧ mark.key = key
    · rw [if_pos hentry]
      obtain ⟨mark, hmark, hkey⟩ := hentry
      constructor
      · rintro ⟨⟩
        exact ⟨mark, isFirst_zero.2 hmark, hkey⟩
      · rintro ⟨other, hfirst, hother⟩
        cases index with
        | zero => rfl
        | succ index => exact absurd (hkey.trans hother.symm) ((isFirst_succ.1 hfirst).2 mark hmark)
    · rw [if_neg hentry]
      have hpassed : ∀ other, entry.mark = some other → other.key ≠ key :=
        fun other hother hkey => hentry ⟨other, hother, hkey⟩
      cases index with
      | zero =>
        refine iff_of_false (by simp) ?_
        rintro ⟨mark, hfirst, hkey⟩
        exact hpassed mark (isFirst_zero.1 hfirst) hkey
      | succ index =>
        rw [Option.map_eq_some_iff]
        constructor
        · rintro ⟨found, hfound, hsucc⟩
          obtain rfl : found = index := Nat.succ.inj hsucc
          obtain ⟨mark, hfirst, rfl⟩ := ih.1 hfound
          exact ⟨mark, isFirst_succ.2 ⟨hfirst, hpassed⟩, rfl⟩
        · rintro ⟨mark, hfirst, hkey⟩
          exact ⟨index, ih.2 ⟨mark, (isFirst_succ.1 hfirst).1, hkey⟩, rfl⟩

/-- A target has a gap next to a message if it is next to a key, and the gap is the one next to the
first message that carries it. -/
theorem anchoredGap_eq_some_iff : anchoredGap placed target = some gap ↔
    ∃ key after index mark, target = .anchored key after ∧ IsFirst placed index mark ∧
      mark.key = key ∧ gap = if after then index + 1 else index := by
  cases target with
  | boundary edge distance => simp [anchoredGap]
  | anchored key after =>
    rw [anchoredGap, Option.map_eq_some_iff]
    constructor
    · rintro ⟨index, hindex, rfl⟩
      obtain ⟨mark, hfirst, hkey⟩ := findIdx?_eq_some_iff_isFirst.1 hindex
      exact ⟨key, after, index, mark, rfl, hfirst, hkey, rfl⟩
    · rintro ⟨_, _, index, mark, ⟨⟩, hfirst, hkey, rfl⟩
      exact ⟨index, findIdx?_eq_some_iff_isFirst.2 ⟨mark, hfirst, hkey⟩, rfl⟩

/-- A target has no gap next to a message if no message carries its key. -/
theorem anchoredGap_eq_none_iff : anchoredGap placed target = none ↔ ¬target.IsMet placed := by
  rw [← not_iff_not, not_not, ← ne_eq, Option.ne_none_iff_exists']
  constructor
  · rintro ⟨gap, hgap⟩
    obtain ⟨key, after, index, mark, rfl, hfirst, hkey, -⟩ := anchoredGap_eq_some_iff.1 hgap
    obtain ⟨entry, hentry, hmark⟩ := Option.bind_eq_some_iff.1 hfirst.carried
    exact ⟨key, after, rfl, entry, List.mem_of_getElem? hentry, mark, hmark, hkey⟩
  · rintro ⟨key, after, rfl, entry, hentry, mark, hmark, hkey⟩
    obtain ⟨index, first, hfirst, hsame⟩ := exists_isFirst hentry hmark
    exact ⟨_, anchoredGap_eq_some_iff.2
      ⟨key, after, index, first, rfl, hfirst, hsame.trans hkey, rfl⟩⟩

/-- A target has a gap away from an edge if it is at one. -/
theorem boundaryGap_eq_none_iff {count : Nat} :
    boundaryGap count target = none ↔ target.isEdge = false := by
  cases target with
  | anchored key after => exact iff_of_true rfl rfl
  | boundary edge distance =>
    cases edge with
    | top => simp [boundaryGap, Target.isEdge]
    | bottom => simp [boundaryGap, Target.isEdge]

/-- No key is carried if there is no gap next to a message. -/
theorem findSome?_anchoredGap_eq_none_iff : targets.findSome? (anchoredGap placed) = none ↔
    ∀ target ∈ targets, ¬target.IsMet placed := by
  simp only [List.findSome?_eq_none_iff, anchoredGap_eq_none_iff]

/-- The last target that is at an edge decides the gap away from it. -/
theorem findSome?_boundaryGap_eq_some_iff {count : Nat} :
    targets.reverse.findSome? (boundaryGap count) = some gap ↔
      ∃ earlier target later, targets = earlier ++ target :: later ∧
        boundaryGap count target = some gap ∧ ∀ target ∈ later, target.isEdge = false := by
  rw [List.findSome?_eq_some_iff]
  constructor
  · rintro ⟨later, target, earlier, hsplit, hgap, hlater⟩
    refine ⟨earlier.reverse, target, later.reverse, ?_, hgap, ?_⟩
    · rw [← List.reverse_inj, hsplit]
      simp
    · intro other hother
      exact boundaryGap_eq_none_iff.1 (hlater other (List.mem_reverse.1 hother))
  · rintro ⟨earlier, target, later, rfl, hgap, hlater⟩
    refine ⟨later.reverse, target, earlier.reverse, by simp, hgap, ?_⟩
    intro other hother
    exact boundaryGap_eq_none_iff.2 (hlater other (List.mem_reverse.1 hother))

/-- Targets lead to their gap. -/
theorem leads_position (targets : List Target) (placed : List Placed) :
    Leads placed targets (position targets placed) := by
  rw [position]
  cases hmet : targets.findSome? (anchoredGap placed) with
  | some gap =>
    obtain ⟨earlier, target, later, rfl, hgap, hearlier⟩ := List.findSome?_eq_some_iff.1 hmet
    obtain ⟨key, after, index, mark, rfl, hfirst, hkey, rfl⟩ := anchoredGap_eq_some_iff.1 hgap
    exact .beside (fun other hother => anchoredGap_eq_none_iff.1 (hearlier other hother)) hfirst hkey
  | none =>
    have hunmet := findSome?_anchoredGap_eq_none_iff.1 hmet
    cases hedge : targets.reverse.findSome? (boundaryGap placed.length) with
    | some gap =>
      obtain ⟨earlier, target, later, rfl, hgap, hlater⟩ :=
        findSome?_boundaryGap_eq_some_iff.1 hedge
      cases target with
      | anchored key after => cases hgap
      | boundary edge distance =>
        cases edge with
        | top =>
          cases hgap
          exact .fromTop hunmet hlater
        | bottom =>
          cases hgap
          exact .fromBottom hunmet hlater
    | none =>
      refine .bottom hunmet fun target htarget => ?_
      rw [List.findSome?_eq_none_iff] at hedge
      exact boundaryGap_eq_none_iff.1 (hedge target (List.mem_reverse.2 htarget))

/-- Targets lead to no gap but one. -/
theorem Leads.position_eq (h : Leads placed targets gap) : position targets placed = gap := by
  have hedge : ∀ {targets : List Target} {gap : Nat},
      (∀ target ∈ targets, ¬target.IsMet placed) →
      targets.reverse.findSome? (boundaryGap placed.length) = some gap →
        position targets placed = gap := by
    intro targets gap hunmet hgap
    rw [position, findSome?_anchoredGap_eq_none_iff.2 hunmet, hgap]
    rfl
  cases h with
  | @beside earlier later key after index mark hearlier hfirst hkey =>
    have hmet : (earlier ++ .anchored key after :: later).findSome? (anchoredGap placed) =
        some (if after then index + 1 else index) := by
      refine List.findSome?_eq_some_iff.2 ⟨earlier, _, later, rfl, ?_, ?_⟩
      · exact anchoredGap_eq_some_iff.2 ⟨key, after, index, mark, rfl, hfirst, hkey, rfl⟩
      · exact fun other hother => anchoredGap_eq_none_iff.2 (hearlier other hother)
    rw [position, hmet]
    rfl
  | fromTop hunmet hlast =>
    exact hedge hunmet (findSome?_boundaryGap_eq_some_iff.2 ⟨_, _, _, rfl, rfl, hlast⟩)
  | fromBottom hunmet hlast =>
    exact hedge hunmet (findSome?_boundaryGap_eq_some_iff.2 ⟨_, _, _, rfl, rfl, hlast⟩)
  | bottom hunmet hnone =>
    have hlast : targets.reverse.findSome? (boundaryGap placed.length) = none := by
      refine List.findSome?_eq_none_iff.2 fun target htarget => ?_
      exact boundaryGap_eq_none_iff.2 (hnone target (List.mem_reverse.1 htarget))
    rw [position, findSome?_anchoredGap_eq_none_iff.2 hunmet, hlast]
    rfl

/-- The gap of some targets is the one that they lead to. -/
theorem position_eq_iff_leads : position targets placed = gap ↔ Leads placed targets gap :=
  ⟨fun h => h ▸ leads_position targets placed, Leads.position_eq⟩

end Position

/-- What a lane admitted stands among the messages that were there before it: these are as they
were, each message of the lane has as many of them before it as its gap says, and those that share
a gap come as they were admitted. -/
structure Lands (gap : Admission → Nat) (placed : List Placed) (admissions : List Admission)
    (woven : List (Placed ⊕ Admission)) : Prop where
  /-- The messages that were there are the same, in the same order. -/
  standing_eq : standing woven = placed
  /-- What was admitted is put in, each once. -/
  added_perm : (added woven).Perm admissions
  /-- Before each message of the lane as many stand as its gap says. -/
  length_eq : ∀ front admission back, woven = front ++ .inr admission :: back →
    (standing front).length = gap admission
  /-- Those that share a gap come in the order in which they were admitted. -/
  filter_added : ∀ index, (added woven).filter (fun admission => gap admission == index) =
    admissions.filter fun admission => gap admission == index

/-- The targets of a block always lead to one gap, among the messages or at one of their ends. And
whatever a lane admits of its blocks, the prompt then has the messages that were there in their
order, each message of the lane behind as many of them as the gap says to which its targets lead in
the prompt before the lane, and the messages that share a gap in the order of admission. -/
theorem injectLane_lands (estimate : Estimator) (requests : List Request) (before : Injected)
    (lane : Blueprint.Lane) :
    (∀ targets, position targets before.placed ≤ before.placed.length ∧
      ∀ gap, position targets before.placed = gap ↔ Leads before.placed targets gap) ∧
    ∃ (admissions : List Admission) (woven : List (Placed ⊕ Admission)),
      Admitted estimate lane (before.ledger.release (laneFloor lane.id))
        (blocks lane (served lane.id requests)) admissions ∧
      (injectLane estimate requests before lane).placed =
        woven.map (Sum.elim id fun admission => ⟨admission.message lane, none⟩) ∧
      Lands (fun admission => position admission.block.targets before.placed) before.placed
        admissions woven := by
  refine ⟨fun targets => ⟨position_le _ _, fun gap => position_eq_iff_leads⟩, ?_⟩
  obtain ⟨run, exhausted, rfl, hadmitted, hinject⟩ := injectLane_eq estimate requests before lane
  refine ⟨run.admissions, weaving (fun admission => position admission.block.targets before.placed)
    before.placed run.admissions, hadmitted, ?_, ?_⟩
  · rw [hinject, map_weaving, List.map_id]
    rfl
  · refine ⟨standing_weaving _ _ _, added_weaving_perm _ _ _, ?_, filter_added_weaving _ _ _⟩
    intro front admission back hsplit
    have hstands := standsAt_weaving (fun admission => position admission.block.targets
      before.placed) (fun admission _ => position_le _ _) front admission back hsplit
    exact (hstands.trans (Nat.zero_add _)).symm

end ChatPrompt.Injection

namespace ChatPrompt.Sample

open Injection Render

/-- A prompt of two turns with keys. -/
def keyedTurns : Injected :=
  ⟨[⟨Message.of .user "a", some ⟨"a", .layout⟩⟩, ⟨Message.of .user "b", some ⟨"b", .layout⟩⟩],
    .ofCapacity 9, [], []⟩

/-- A message goes to the top where its key is not there and its distance reaches beyond it; those
behind the last message come as they were admitted. -/
example : (injectLane Estimator.characters
    [⟨"lore", [.anchored "b" true], .string "x", 0, none⟩,
      ⟨"lore", [.anchored "c" true, .boundary .bottom 9], .string "t", 0, none⟩,
      ⟨"lore", [], .string "y", 0, none⟩]
    keyedTurns (echo "lore" true)).placed.map (fun placed => placed.message.content) =
      ["t", "a", "b", "x", "y"] := by cbv

end ChatPrompt.Sample
