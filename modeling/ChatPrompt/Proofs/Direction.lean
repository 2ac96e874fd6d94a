import ChatPrompt.Proofs.Dropping
import ChatPrompt.Proofs.Expansion

/-!
# The direction of a loop decides positions only

A loop puts the messages of an item after those of the items before it, or before them. What a loop
admits does not depend on this. A separator costs the same on either side of its item, and whether
one is due depends on whether there were messages before, wherever those went. So with the other
direction a loop goes through the same items with the same ledger; it counts the same and signals
the same. Its messages are the same pieces, groups and the separators between them, in opposite
orders.
-/

namespace ChatPrompt

/-- A loop with another direction. -/
def Blueprint.Loop.refilled (header : Loop) (filling : Template.Filling) : Loop :=
  { header with filling := filling }

namespace Render

open Blueprint (PlanNode)

/-! ### The pieces of a loop -/

/-- A group that is not the first, in pieces: its separator, if there is one, and its messages. -/
def Group.parts (group : Group) : List (List Entry) := [group.separator.toList, group.entries]

/-- What a loop is made of, in the order of its items: the messages of the groups and, between two
of them, the separator if there is one. -/
def pieces : List Group → List (List Entry)
  | [] => []
  | first :: rest => first.entries :: rest.flatMap Group.parts

/-- In either direction the pieces of a loop are put one after the other. -/
theorem laid_eq_arranged_pieces (filling : Template.Filling) (groups : List Group) :
    laid filling groups = arranged filling (pieces groups) := by
  cases groups with
  | nil => cases filling <;> rfl
  | cons first rest =>
    cases filling with
    | appending =>
      rw [laid, arranged, pieces, List.flatten_cons, List.flatMap_def, List.flatMap_def,
        List.flatten_flatten, List.map_map]
      simp [Function.comp_def, Group.parts]
    | prepending =>
      rw [laid, arranged, pieces, List.reverse_cons, List.flatten_append, List.reverse_flatMap,
        List.flatMap_def, List.flatMap_def, List.flatten_flatten, List.map_map]
      simp [Function.comp_def, Group.parts]

/-- Of groups in two pieces each, the separators stand at the even positions and the messages at the
odd ones. -/
theorem getElem?_flatMap_parts (groups : List Group) (position : Nat) :
    (groups.flatMap Group.parts)[2 * position]? =
        groups[position]?.map (fun group => group.separator.toList) ∧
      (groups.flatMap Group.parts)[2 * position + 1]? = groups[position]?.map Group.entries := by
  induction groups generalizing position with
  | nil => simp
  | cons group rest ih =>
    cases position with
    | zero => simp [Group.parts]
    | succ position => simpa [Group.parts, Nat.mul_succ] using ih position

/-- Of the pieces of a loop every other one is a group, the first and the last among them, and
between two groups stands the separator of the later one. -/
theorem getElem?_pieces (groups : List Group) (position : Nat) :
    (pieces groups)[2 * position]? = groups[position]?.map Group.entries ∧
      (pieces groups)[2 * position + 1]? =
        groups[position + 1]?.map fun group => group.separator.toList := by
  cases groups with
  | nil => simp [pieces]
  | cons first rest =>
    constructor
    · cases position with
      | zero => rfl
      | succ position => simpa [pieces, Nat.mul_succ] using (getElem?_flatMap_parts rest position).2
    · simpa [pieces] using (getElem?_flatMap_parts rest position).1

variable (env : Environment)

/-! ### The groups that a loop admits -/

section Loop

variable (header : Blueprint.Loop) (scope : Scope) (body : Scope → Ledger → Step)

/-- The groups of the items that a loop keeps, each of them run after those before it. -/
def keptGroups : List (Json × Nat) → LoopState → List Group
  | [], _ => []
  | (item, index) :: rest, state =>
    spokenGroup header (itemScope scope index item)
        (body (itemScope scope index item) state.ledger).entries ++
      keptGroups rest (state.keep (itemRun env header scope body index item state))

/-- An item of which a group is left says something. -/
theorem entries_ne_nil_of_mem_keptGroups {items : List (Json × Nat)} {state : LoopState}
    {group : Group} (h : group ∈ keptGroups env header scope body items state) :
    group.entries ≠ [] := by
  induction items generalizing state with
  | nil => cases h
  | cons numbered rest ih =>
    obtain ⟨item, index⟩ := numbered
    rcases List.mem_append.1 h with hfirst | hothers
    · rw [spokenGroup] at hfirst
      split at hfirst
      · cases hfirst
      · next hsays =>
        rw [List.mem_singleton.1 hfirst]
        exact fun hnothing => hsays (List.isEmpty_iff.2 hnothing)
    · exact ih hothers

/-- After the items that it keeps, a loop has their groups besides those it had before. -/
theorem groups_keepItems_keptItems (items : List Json) (index : Nat) {state : LoopState}
    {groups : List Group} (hstate : state.groups = joinedGroups header.filling groups) :
    (keepItems env header scope body
        (keptItems env header scope body items index state) state).groups =
      joinedGroups header.filling (groups ++
        keptGroups env header scope body (keptItems env header scope body items index state)
          state) := by
  induction items generalizing index state groups with
  | nil => simpa [keptItems, keepItems, keptGroups] using hstate
  | cons item rest ih =>
    rw [keptItems]
    by_cases hrefused :
        (itemRun env header scope body index item state).outcome.isRefused = true
    · rw [if_pos hrefused]
      split
      · simpa [keepItems, keptGroups] using hstate
      · exact ih (index + 1) hstate
    · have hnext := groups_take hstate (Bool.eq_false_iff.2 hrefused)
      rw [state.take_of_not_isRefused hrefused] at hnext
      rw [if_neg hrefused, keptGroups, ← List.append_assoc]
      split
      · simpa [keepItems, keptGroups] using hnext
      · exact ih (index + 1) hnext

end Loop

/-- The items that a loop admits, with their numbers. -/
def admittedItems (header : Blueprint.Loop) (nodes : List PlanNode) (scope : Scope)
    (ledger : Ledger) : List (Json × Nat) :=
  keptItems env header scope (bodyOf env nodes) (loopItems env scope header) 0
    (LoopState.start env header scope ledger)

/-- The groups of the items that a loop admits. -/
def admittedGroups (header : Blueprint.Loop) (nodes : List PlanNode) (scope : Scope)
    (ledger : Ledger) : List Group :=
  keptGroups env header scope (bodyOf env nodes) (admittedItems env header nodes scope ledger)
    (LoopState.start env header scope ledger)

/-- A loop says the groups that it admits, laid out in its direction. -/
theorem entries_runNode_forEach (header : Blueprint.Loop) (nodes : List PlanNode) (scope : Scope)
    (atomic : Bool) (ledger : Ledger) :
    (runNode env scope atomic (.forEach header nodes) ledger).entries =
      laid header.filling (admittedGroups env header nodes scope ledger) := by
  have hcontent := content_takeItems env header scope
    (fun inner before => runNodes_charges env inner true nodes before)
    (ledger.openCap? header.budget).1 (loopItems env scope header) 0
    (LoopState.start env header scope ledger)
  have hstart : (LoopState.start env header scope ledger).groups =
      joinedGroups header.filling [] := rfl
  have hkept := groups_keepItems_keptItems env header scope (bodyOf env nodes)
    (loopItems env scope header) 0 hstart
  rw [runNode, runLoop_eq, ← arranged_joinedGroups]
  exact congrArg (arranged header.filling) ((congrArg Prod.snd hcontent).trans hkept)

/-! ### Two directions in step -/

/-- Two runs do the same but for the places of their messages. -/
structure Step.Mirrors (step other : Step) : Prop where
  /-- The ledgers are the same. -/
  ledger_eq : other.ledger = step.ledger
  /-- There are messages in both or in neither. -/
  isEmpty_eq : other.entries.isEmpty = step.entries.isEmpty
  /-- The counts are the same. -/
  tally_eq : other.tally = step.tally
  /-- The ends are the same. -/
  outcome_eq : other.outcome = step.outcome

/-- Two loops have done the same but for the places of their messages. -/
structure LoopState.Mirrors (state other : LoopState) : Prop where
  /-- The ledgers are the same. -/
  ledger_eq : other.ledger = state.ledger
  /-- There are messages in both or in neither. -/
  isEmpty_eq : other.groups.isEmpty = state.groups.isEmpty
  /-- The counts are the same. -/
  tally_eq : other.tally = state.tally
  /-- The same levels have refused something. -/
  signal_eq : other.signal = state.signal

section Loop

variable (header : Blueprint.Loop) (filling : Template.Filling) (scope : Scope)
  (body : Scope → Ledger → Step)

/-- An item has the same separator in both directions, and the same fate. -/
theorem separate_mirrors {groups others : List (List Entry)} (h : others.isEmpty = groups.isEmpty)
    (run : Step) :
    (separate env header scope groups run).Mirrors
      (separate env (header.refilled filling) scope others run) := by
  have hseparator : separatorOf (header.refilled filling) scope others run.entries =
      separatorOf header scope groups run.entries := by
    rw [separatorOf, separatorOf, h]
    rfl
  rw [separate, separate, hseparator]
  split
  · exact ⟨rfl, rfl, rfl, rfl⟩
  · cases separatorOf header scope groups run.entries with
    | none => exact ⟨rfl, rfl, rfl, rfl⟩
    | some separator =>
      dsimp only
      cases run.ledger.spend (env.cost separator) with
      | error refusal => exact ⟨rfl, rfl, rfl, rfl⟩
      | ok charged =>
        refine ⟨rfl, ?_, rfl, rfl⟩
        dsimp only
        rw [isEmpty_withSeparator, isEmpty_withSeparator]

variable {state other : LoopState}

/-- An item has the same fate in both directions. -/
theorem itemRun_mirrors (h : state.Mirrors other) (index : Nat) (item : Json) :
    (itemRun env header scope body index item state).Mirrors
      (itemRun env (header.refilled filling) scope body index item other) := by
  rw [itemRun, itemRun, h.ledger_eq]
  exact separate_mirrors env header filling _ h.isEmpty_eq _

/-- A loop that keeps an item in one direction keeps it in the other one. -/
theorem keep_mirrors (h : state.Mirrors other) {run again : Step} (hrun : run.Mirrors again) :
    (state.keep run).Mirrors (other.keep again) := by
  refine ⟨hrun.ledger_eq, ?_, ?_, h.signal_eq⟩
  · rw [isEmpty_groups_keep, isEmpty_groups_keep, h.isEmpty_eq, hrun.isEmpty_eq]
  · rw [LoopState.keep, LoopState.keep, h.tally_eq, hrun.tally_eq]

/-- An item leaves the same in both directions. -/
theorem afterItem_mirrors (h : state.Mirrors other) (own : Option Nat) {run again : Step}
    (hrun : run.Mirrors again) :
    (state.afterItem own run).Mirrors (other.afterItem own again) := by
  have htaken : (state.take run).Mirrors (other.take again) := by
    rw [LoopState.take, LoopState.take, hrun.outcome_eq]
    split
    · refine ⟨?_, h.isEmpty_eq, ?_, h.signal_eq⟩
      · rw [LoopState.drop, LoopState.drop, h.ledger_eq, hrun.ledger_eq]
      · rw [LoopState.drop, LoopState.drop, h.tally_eq, hrun.tally_eq]
    · exact keep_mirrors h hrun
  rw [LoopState.afterItem, LoopState.afterItem, hrun.outcome_eq]
  cases run.outcome.level? with
  | none => exact htaken
  | some level =>
    dsimp only
    refine ⟨htaken.ledger_eq, htaken.isEmpty_eq, ?_, ?_⟩
    · rw [LoopState.note, LoopState.note, htaken.tally_eq]
    · rw [LoopState.note, LoopState.note, htaken.signal_eq]

/-- The items of a loop have the same fates in both directions, one after the other. -/
theorem takeItems_mirrors (own : Option Nat) (items : List Json) (index : Nat)
    (h : state.Mirrors other) :
    (takeItems env header own scope body items index state).Mirrors
      (takeItems env (header.refilled filling) own scope body items index other) := by
  induction items generalizing index state other with
  | nil => exact h
  | cons item rest ih =>
    have hrun := itemRun_mirrors env header filling scope body h index item
    have hafter := afterItem_mirrors h own hrun
    have hstops : (header.refilled filling).stopsWhenFull = header.stopsWhenFull := rfl
    rw [takeItems_cons_eq, takeItems_cons_eq, hrun.outcome_eq, hstops]
    split
    · refine ⟨hafter.ledger_eq, hafter.isEmpty_eq, ?_, hafter.signal_eq⟩
      rw [LoopState.stop, LoopState.stop, hafter.tally_eq]
    · exact ih (index + 1) hafter

/-- A loop keeps the same items in both directions. -/
theorem keptItems_refilled (items : List Json) (index : Nat) (h : state.Mirrors other) :
    keptItems env (header.refilled filling) scope body items index other =
      keptItems env header scope body items index state := by
  induction items generalizing index state other with
  | nil => rfl
  | cons item rest ih =>
    have hrun := itemRun_mirrors env header filling scope body h index item
    have hstops : (header.refilled filling).stopsWhenFull = header.stopsWhenFull := rfl
    rw [keptItems, keptItems, hrun.outcome_eq, hstops, ih (index + 1) h,
      ih (index + 1) (keep_mirrors h hrun)]

/-- The items that a loop keeps have the same groups in both directions. -/
theorem keptGroups_refilled (items : List (Json × Nat)) (h : state.Mirrors other) :
    keptGroups env (header.refilled filling) scope body items other =
      keptGroups env header scope body items state := by
  induction items generalizing state other with
  | nil => rfl
  | cons numbered rest ih =>
    obtain ⟨item, index⟩ := numbered
    have hrun := itemRun_mirrors env header filling scope body h index item
    rw [keptGroups, keptGroups, h.ledger_eq, ih (keep_mirrors h hrun)]
    rfl

end Loop

variable (header : Blueprint.Loop) (filling : Template.Filling) (nodes : List PlanNode)
  (scope : Scope)

/-- A loop that has not begun does the same in both directions. -/
theorem start_mirrors (ledger : Ledger) :
    (LoopState.start env header scope ledger).Mirrors
      (LoopState.start env (header.refilled filling) scope ledger) := ⟨rfl, rfl, rfl, rfl⟩

/-- A loop admits the same items in both directions. -/
theorem admittedItems_refilled (ledger : Ledger) :
    admittedItems env (header.refilled filling) nodes scope ledger =
      admittedItems env header nodes scope ledger :=
  keptItems_refilled env header filling scope _ _ 0 (start_mirrors env header filling scope ledger)

/-- A loop admits the same groups in both directions. -/
theorem admittedGroups_refilled (ledger : Ledger) :
    admittedGroups env (header.refilled filling) nodes scope ledger =
      admittedGroups env header nodes scope ledger := by
  rw [admittedGroups, admittedGroups, admittedItems_refilled]
  exact keptGroups_refilled env header filling scope _ _
    (start_mirrors env header filling scope ledger)

/-- In another direction a loop does what it did, but lays its groups out in that direction. -/
theorem runNode_refilled (atomic : Bool) (ledger : Ledger) :
    runNode env scope atomic (.forEach (header.refilled filling) nodes) ledger =
      { runNode env scope atomic (.forEach header nodes) ledger with
        entries := laid filling (admittedGroups env header nodes scope ledger) } := by
  have hitems := takeItems_mirrors env header filling scope (bodyOf env nodes)
    (ledger.openCap? header.budget).1 (loopItems env scope header) 0
    (start_mirrors env header filling scope ledger)
  have hentries := entries_runNode_forEach env (header.refilled filling) nodes scope atomic ledger
  rw [admittedGroups_refilled] at hentries
  rw [runNode, runLoop_eq] at hentries ⊢
  rw [runNode, runLoop_eq, Step.mk.injEq]
  exact ⟨congrArg (Ledger.closeCap? · _) hitems.ledger_eq, hentries, hitems.tally_eq,
    congrArg Outcome.finished hitems.signal_eq⟩

/-- Wherever a loop stands among other steps, its direction decides nothing but in which order its
groups are laid out, after what the steps before it say. -/
theorem runNodes_refilled (atomic : Bool) (earlier later : List PlanNode) (ledger : Ledger) :
    ∃ (whole : Step) (groups : List Group) (after : List Entry), ∀ filling,
      runNodes env scope atomic (earlier ++ .forEach (header.refilled filling) nodes :: later)
          ledger =
        { whole with
          entries := (runNodes env scope atomic earlier ledger).entries ++
            (laid filling groups ++ after) } := by
  induction earlier generalizing ledger with
  | nil =>
    let loop := runNode env scope atomic (.forEach header nodes) ledger
    let others := runNodes env scope atomic later loop.ledger
    refine ⟨loop.join others, admittedGroups env header nodes scope ledger, others.entries,
      fun filling => ?_⟩
    have hgoes : loop.outcome.isRefused = false := by
      simp only [loop, runNode]
      rfl
    rw [List.nil_append, runNodes_cons, runNode_refilled]
    dsimp only
    rw [hgoes, Bool.and_false, if_neg Bool.false_ne_true]
    rfl
  | cons node rest ih =>
    let first := runNode env scope atomic node ledger
    by_cases hends : (atomic && first.outcome.isRefused) = true
    · -- the loop is not reached
      refine ⟨first, [], [], fun filling => ?_⟩
      rw [List.cons_append, runNodes_cons, runNodes_cons, if_pos hends, if_pos hends]
      cases filling <;> simp [first, laid]
    · obtain ⟨others, groups, after, hothers⟩ := ih first.ledger
      refine ⟨first.join others, groups, after, fun filling => ?_⟩
      rw [List.cons_append, runNodes_cons, runNodes_cons, if_neg hends, if_neg hends, hothers]
      simp [first, Step.join]

/-- The direction of a loop only rearranges. In both directions the loop admits the same items,
leaves the same ledger and the same counts, and signals the same. What it adds are the groups of
these items, each with its messages in their order: in the order of the items or in the opposite
one, with the separator of the later of two groups always between the two, and at the same place
between what the steps before it and those after it add. -/
theorem refilled_only_rearranges (atomic : Bool) (ledger : Ledger) :
    let run := fun filling =>
      runNode env scope atomic (.forEach (header.refilled filling) nodes) ledger
    let groups := admittedGroups env (header.refilled .appending) nodes scope ledger
    admittedItems env (header.refilled .prepending) nodes scope ledger =
        admittedItems env (header.refilled .appending) nodes scope ledger ∧
      (run .prepending).ledger = (run .appending).ledger ∧
      (run .prepending).tally = (run .appending).tally ∧
      (run .prepending).outcome = (run .appending).outcome ∧
      (∀ group ∈ groups, group.entries ≠ []) ∧
      (run .appending).entries = laid .appending groups ∧
      (run .prepending).entries = laid .prepending groups ∧
      (∀ filling, laid filling groups = arranged filling (pieces groups)) ∧
      (∀ position, (pieces groups)[2 * position]? = groups[position]?.map Group.entries ∧
        (pieces groups)[2 * position + 1]? =
          groups[position + 1]?.map fun group => group.separator.toList) ∧
      ∀ earlier later, ∃ (whole : Step) (reached : List Group) (after : List Entry), ∀ filling,
        runNodes env scope atomic (earlier ++ .forEach (header.refilled filling) nodes :: later)
            ledger =
          { whole with
            entries := (runNodes env scope atomic earlier ledger).entries ++
              (laid filling reached ++ after) } := by
  intro run groups
  have hrun : run .prepending =
      { run .appending with entries := laid .prepending groups } :=
    runNode_refilled env (header.refilled .appending) .prepending nodes scope atomic ledger
  refine ⟨admittedItems_refilled env (header.refilled .appending) .prepending nodes scope ledger,
    ?_, ?_, ?_, fun group hgroup => entries_ne_nil_of_mem_keptGroups env _ _ _ hgroup,
    entries_runNode_forEach env _ nodes scope atomic ledger, ?_,
    fun filling => laid_eq_arranged_pieces filling groups, getElem?_pieces groups,
    fun earlier later => runNodes_refilled env header nodes scope atomic earlier later ledger⟩
  all_goals rw [hrun]

end Render

namespace Sample

open Render Blueprint

/-- Three words, of which the second is long, with a token for each character. -/
def words : Environment where
  sources := Registry.empty
  context := .object [("words", .array [.string "a", .string "long", .string "b"])]
  estimate := Estimator.characters

/-- A loop over the words with lines between them, which goes on after a word that does not fit. -/
def wordsLoop : Blueprint.Loop :=
  ⟨⟨.scope ⟨"words", []⟩, .literal .null⟩, .ascending, none, none, .appending,
    some ⟨.system, ⟨"-", [.text "-"]⟩⟩, some 4, false⟩

/-- What is done for a word: it is said. -/
def wordNodes : List PlanNode :=
  [.message ⟨.user, .text ⟨"\x7b\x7bitem\x7d\x7d", [.value (.path ⟨"item", []⟩)]⟩, false, none,
    none⟩]

end Sample

namespace Render

open Sample in
/-- There is no room for the long word. The other two are said with a line between them, in either
order. -/
theorem refilled_only_rearranges_words :
    (admittedItems words (wordsLoop.refilled .prepending) wordNodes words.root
        (Ledger.ofCapacity 20)).map Prod.snd = [0, 2] ∧
      (runNode words words.root false (.forEach (wordsLoop.refilled .appending) wordNodes)
          (Ledger.ofCapacity 20)).entries =
        [⟨Message.of .user "a", none⟩, ⟨Message.of .system "-", none⟩,
          ⟨Message.of .user "b", none⟩] ∧
      (runNode words words.root false (.forEach (wordsLoop.refilled .prepending) wordNodes)
          (Ledger.ofCapacity 20)).entries =
        [⟨Message.of .user "b", none⟩, ⟨Message.of .system "-", none⟩,
          ⟨Message.of .user "a", none⟩] := by
  obtain ⟨hitems, -, -, -, -, happending, hprepending, -⟩ :=
    refilled_only_rearranges words wordsLoop wordNodes words.root false (Ledger.ofCapacity 20)
  refine ⟨(congrArg (List.map Prod.snd) hitems).trans ?_, happending.trans ?_,
    hprepending.trans ?_⟩
  · decide +kernel
  · decide +kernel
  · decide +kernel

end Render

end ChatPrompt
