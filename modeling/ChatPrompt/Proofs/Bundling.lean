import ChatPrompt.Blueprint.Options
import ChatPrompt.Proofs.Reporting
import Mathlib

/-!
# Issues of one lane are bundled

The lanes of an options document are compiled one by one, and what is wrong with one of them is
collected to one issue before the issues of all of them are collected again. So each individual
issue is reported, in the order of the lanes, and none lies deeper than in the bundle of its lane.
But bundles stay: unless a single lane has issues, or no lane has more than one, there are fewer
parts than issues.
-/

namespace ChatPrompt

namespace Blueprint

namespace Issue

/-- An issue that is nothing but the collection of individual issues. -/
structure IsBundle (issue : Issue) : Prop where
  /-- None of its parts has parts of its own. -/
  parts_eq : ∀ part ∈ issue.parts, part.parts = [part]
  /-- It is what its parts are collected to. -/
  collect_parts : collect issue.parts = some issue

/-- Individual issues are their own parts. -/
theorem flatMap_parts {noted : List Issue} (hnoted : ∀ one ∈ noted, one.parts = [one]) :
    noted.flatMap parts = noted := by
  induction noted with
  | nil => rfl
  | cons first rest ih =>
    obtain ⟨hfirst, hrest⟩ := List.forall_mem_cons.1 hnoted
    rw [List.flatMap_cons, hfirst, ih hrest]
    rfl

/-- What is collected of individual issues has these issues for parts. -/
theorem parts_of_collect {noted : List Issue} {issue : Issue}
    (hnoted : ∀ one ∈ noted, one.parts = [one]) (h : collect noted = some issue) :
    issue.parts = noted := by
  cases noted with
  | nil => cases h
  | cons first rest =>
    cases rest with
    | nil =>
      cases h
      exact hnoted _ List.mem_cons_self
    | cons second more =>
      cases h
      rfl

/-- What is collected of individual issues is a bundle. -/
theorem isBundle_of_collect {noted : List Issue} {issue : Issue}
    (hnoted : ∀ one ∈ noted, one.parts = [one]) (h : collect noted = some issue) :
    issue.IsBundle := by
  have hparts := parts_of_collect hnoted h
  exact ⟨by rwa [hparts], by rwa [hparts]⟩

variable {bundle issue : Issue} {bundles : List Issue}

/-- A bundle is not empty. -/
theorem IsBundle.parts_ne_nil (h : bundle.IsBundle) : bundle.parts ≠ [] := by
  intro hnone
  have hcollect := h.collect_parts
  rw [hnone] at hcollect
  cases hcollect

/-- A bundle of one issue is this issue. -/
theorem IsBundle.parts_eq_singleton (h : bundle.IsBundle) (hlength : bundle.parts.length ≤ 1) :
    bundle.parts = [bundle] := by
  have hlength : bundle.parts.length = 1 :=
    Nat.le_antisymm hlength (List.length_pos_iff.2 h.parts_ne_nil)
  obtain ⟨one, hone⟩ := List.length_eq_one_iff.1 hlength
  have hcollect := h.collect_parts
  rw [hone] at hcollect
  cases hcollect
  exact hone

/-- What is collected of bundles consists of the issues in them, in their order. -/
theorem flatMap_parts_of_collect (hbundles : ∀ bundle ∈ bundles, bundle.IsBundle)
    (h : collect bundles = some issue) : issue.parts.flatMap parts = bundles.flatMap parts := by
  cases bundles with
  | nil => cases h
  | cons first rest =>
    cases rest with
    | nil =>
      cases h
      rw [flatMap_parts (hbundles _ List.mem_cons_self).parts_eq, List.flatMap_singleton]
    | cons second more =>
      cases h
      rfl

/-- There are at least as many issues in bundles as there are bundles. -/
theorem length_le_length_flatMap (hbundles : ∀ bundle ∈ bundles, bundle.IsBundle) :
    bundles.length ≤ (bundles.flatMap parts).length := by
  rw [List.length_flatMap, ← List.length_map fun bundle : Issue => bundle.parts.length]
  refine List.length_le_sum_of_one_le _ (List.forall_mem_map.2 fun bundle hbundle => ?_)
  exact List.length_pos_iff.2 (hbundles bundle hbundle).parts_ne_nil

/-- If there are no more issues than bundles, each bundle has one. -/
theorem length_parts_of_length_flatMap (hbundles : ∀ bundle ∈ bundles, bundle.IsBundle)
    (h : (bundles.flatMap parts).length ≤ bundles.length) :
    ∀ bundle ∈ bundles, bundle.parts.length ≤ 1 := by
  induction bundles with
  | nil => exact nofun
  | cons first rest ih =>
    obtain ⟨hfirst, hrest⟩ := List.forall_mem_cons.1 hbundles
    have hpos : 0 < first.parts.length := List.length_pos_iff.2 hfirst.parts_ne_nil
    have hlater := length_le_length_flatMap hrest
    rw [List.flatMap_cons, List.length_append, List.length_cons] at h
    exact List.forall_mem_cons.2 ⟨by omega, ih hrest (by omega)⟩

/-- What is collected of bundles is flat if there is one bundle only, or only bundles of one issue;
otherwise there are fewer parts than issues. -/
theorem tfae_of_collect (hbundles : ∀ bundle ∈ bundles, bundle.IsBundle)
    (h : collect bundles = some issue) :
    List.TFAE [
      ∀ part ∈ issue.parts, part.parts = [part],
      issue.parts = bundles.flatMap parts,
      issue.parts.length = (bundles.flatMap parts).length,
      bundles.length ≤ 1 ∨ ∀ bundle ∈ bundles, bundle.parts.length ≤ 1] := by
  have hflat := flatMap_parts_of_collect hbundles h
  tfae_have 1 → 2 := fun hparts => (flatMap_parts hparts).symm.trans hflat
  tfae_have 2 → 3 := fun hparts => congrArg List.length hparts
  tfae_have 3 → 4 := by
    intro hlength
    rcases bundles with _ | ⟨first, _ | ⟨second, more⟩⟩
    · cases h
    · exact .inl le_rfl
    · cases h
      exact .inr (length_parts_of_length_flatMap hbundles hlength.ge)
  tfae_have 4 → 1 := by
    intro hcase
    rcases bundles with _ | ⟨first, _ | ⟨second, more⟩⟩
    · cases h
    · cases h
      exact (hbundles _ List.mem_cons_self).parts_eq
    · cases h
      rcases hcase with hfew | hsmall
      · simp at hfew
      · exact fun part hpart => (hbundles part hpart).parts_eq_singleton (hsmall part hpart)
  tfae_finish

variable {own : List (List Issue)}

/-- What is collected list by list consists of all issues, in their order. -/
theorem flatMap_filterMap_collect (hown : ∀ issues ∈ own, ∀ one ∈ issues, one.parts = [one]) :
    (own.filterMap collect).flatMap parts = own.flatten := by
  induction own with
  | nil => rfl
  | cons issues rest ih =>
    obtain ⟨hissues, hrest⟩ := List.forall_mem_cons.1 hown
    rw [List.filterMap_cons, List.flatten_cons]
    cases hcollect : collect issues with
    | none =>
      rw [(collect_eq_none_iff issues).1 hcollect]
      exact ih hrest
    | some bundle =>
      rw [← parts_of_collect hissues hcollect, ← ih hrest]
      rfl

/-- There are as many bundles as lists with issues. -/
theorem length_filterMap_collect (own : List (List Issue)) :
    (own.filterMap collect).length = own.countP (!·.isEmpty) := by
  rw [List.length_filterMap_eq_countP]
  refine List.countP_congr fun issues _ => ?_
  rw [Option.isSome_iff_ne_none, ne_eq, collect_eq_none_iff, Bool.not_eq_true', ← Bool.not_eq_true,
    List.isEmpty_iff]

/-- All bundles have one issue if no list has more. -/
theorem length_parts_le_one_iff (hown : ∀ issues ∈ own, ∀ one ∈ issues, one.parts = [one]) :
    (∀ bundle ∈ own.filterMap collect, bundle.parts.length ≤ 1) ↔
      ∀ issues ∈ own, issues.length ≤ 1 := by
  constructor
  · intro h issues hissues
    cases hcollect : collect issues with
    | none =>
      rw [(collect_eq_none_iff issues).1 hcollect]
      exact Nat.zero_le 1
    | some bundle =>
      rw [← parts_of_collect (hown issues hissues) hcollect]
      exact h bundle (List.mem_filterMap.2 ⟨issues, hissues, hcollect⟩)
  · intro h bundle hbundle
    obtain ⟨issues, hissues, hcollect⟩ := List.mem_filterMap.1 hbundle
    rw [parts_of_collect (hown issues hissues) hcollect]
    exact h issues hissues

end Issue

namespace Compilation

/-- All issues that the groups of a lane note are individual. -/
theorem exists_collects_laneGroups (here : Location) (position : Nat) (met : List String)
    (groups : List Template.LaneGroup) :
    ∃ readings, Collects (laneGroups here position met groups) readings := by
  induction groups generalizing position met with
  | nil => exact ⟨[], reports_pure trivial⟩
  | cons group rest ih =>
    rw [laneGroups]
    split
    · obtain ⟨readings, hrest⟩ := ih (position + 1) met
      exact ⟨readings, reports_note rfl rfl hrest⟩
    · obtain ⟨readings, hrest⟩ := ih (position + 1) (group.id :: met)
      exact ⟨_, (collects_leaf? _ group.opening).bind fun _ _ =>
        (collects_leaf? _ group.closing).bind fun _ _ => hrest.map _⟩

/-- All issues that a lane notes are individual, also if two of its groups have one name. -/
theorem exists_collects_lane (here : Location) (source : Template.Lane) :
    ∃ readings, Collects (lane here source) readings := by
  obtain ⟨readings, hgroups⟩ := exists_collects_laneGroups (here.field "groups") 0 [] source.groups
  exact ⟨_, (collects_leaf _ source.template).bind fun _ _ => hgroups.map _⟩

/-- A compilation from nothing fails with a bundle of what it noted. -/
theorem Reports.isBundle_of_run {α : Type} {compilation : Compilation α}
    {readings : List Template.Reading} {Q : α → Prop} (h : Reports compilation readings Q)
    {leaves : Leaf.Cache} (hleaves : leaves.IsFaithful) {issue : Issue}
    (hrun : (compilation.run leaves).1 = .error issue) :
    issue.IsBundle := by
  obtain ⟨-, -, noted, happend, hparts, -⟩ := h ⟨leaves, [], []⟩ hleaves
  rw [run_eq_error_iff, happend, List.nil_append] at hrun
  exact Issue.isBundle_of_collect hparts hrun

end Compilation

/-- A lane without an issue is made, so only issues keep it from being compiled. -/
theorem Lane.ofTemplate_eq_error_iff {source : Template.Lane} {issue : Issue} :
    Lane.ofTemplate source = .error issue ↔
      ((Compilation.lane source.location source).run Leaf.Cache.empty).1 = .error issue := by
  rw [Lane.ofTemplate]
  cases hrun : ((Compilation.lane source.location source).run Leaf.Cache.empty).1 with
  | error found => rw [Except.error.injEq, Except.error.injEq]
  | ok made =>
    obtain ⟨lane, rfl, -⟩ :=
      (Compilation.gives_lane _ source).of_run Leaf.Cache.isFaithful_empty hrun
    exact ⟨nofun, nofun⟩

/-- A lane on its own fails with a bundle of what is wrong with it. -/
theorem Lane.isBundle_of_ofTemplate {source : Template.Lane} {issue : Issue}
    (h : Lane.ofTemplate source = .error issue) : issue.IsBundle := by
  obtain ⟨readings, hlane⟩ := Compilation.exists_collects_lane source.location source
  exact hlane.isBundle_of_run Leaf.Cache.isFaithful_empty (Lane.ofTemplate_eq_error_iff.1 h)

end Blueprint

namespace RenderOptions

open Blueprint

/-- What is wrong with a lane behind lanes of some names. -/
def laneIssues (earlier : List String) (lane : Template.Lane) : List Issue :=
  if lane.id ∈ earlier then [.repeatedLane lane.id] else Issue.reported (Lane.ofTemplate lane)

/-- What is wrong with each of some lanes. -/
def issuesByLane (lanes : List Template.Lane) : List (List Issue) :=
  lanes.mapIdx fun position lane => laneIssues ((lanes.take position).map Template.Lane.id) lane

variable {earlier others : List String} {lane : Template.Lane} {lanes : List Template.Lane}

/-- Only which names there are before a lane matters. -/
theorem laneIssues_congr (h : ∀ id, id ∈ earlier ↔ id ∈ others) (lane : Template.Lane) :
    laneIssues earlier lane = laneIssues others lane := by
  simp only [laneIssues, h]

/-- All that is wrong with a lane are individual issues. -/
theorem parts_eq_of_mem_laneIssues {issue : Issue} (h : issue ∈ laneIssues earlier lane) :
    issue.parts = [issue] := by
  rw [laneIssues] at h
  split at h
  · rw [List.mem_singleton.1 h]
    rfl
  · cases hmade : Lane.ofTemplate lane with
    | ok made =>
      rw [hmade] at h
      cases h
    | error found =>
      rw [hmade] at h
      exact (Lane.isBundle_of_ofTemplate hmade).parts_eq issue h

/-- Something is wrong with a lane if it repeats a name or cannot be compiled. -/
theorem laneIssues_ne_nil_iff :
    laneIssues earlier lane ≠ [] ↔
      lane.id ∈ earlier ∨ lane.id ∉ earlier ∧ ∃ issue, Lane.ofTemplate lane = .error issue := by
  rw [laneIssues]
  split <;> rename_i hid
  · simp [hid]
  · cases hmade : Lane.ofTemplate lane with
    | ok made => simp [hid, Issue.reported]
    | error found =>
      simpa [hid, Issue.reported] using (Lane.isBundle_of_ofTemplate hmade).parts_ne_nil

/-- What is wrong with a lane is collected to the name that it repeats, or to what its compilation
ends with. -/
theorem collect_laneIssues :
    Issue.collect (laneIssues earlier lane) =
      if lane.id ∈ earlier then some (.repeatedLane lane.id)
      else match Lane.ofTemplate lane with
        | .ok _ => Option.none
        | .error issue => some issue := by
  rw [laneIssues]
  split
  · rfl
  · cases hmade : Lane.ofTemplate lane with
    | ok made => rfl
    | error found => exact (Lane.isBundle_of_ofTemplate hmade).collect_parts

/-- Only which names were met matters for a compilation of lanes. -/
theorem compileLanes_congr (h : ∀ id, id ∈ earlier ↔ id ∈ others) (lanes : List Template.Lane) :
    compileLanes earlier lanes = compileLanes others lanes := by
  induction lanes generalizing earlier others with
  | nil => rfl
  | cons lane rest ih =>
    have hid : earlier.contains lane.id = others.contains lane.id :=
      Bool.eq_iff_iff.2 (by simpa using h lane.id)
    have hboth : ∀ id, id ∈ lane.id :: earlier ↔ id ∈ lane.id :: others := by
      simp [h]
    rw [compileLanes, compileLanes, hid, ih h, ih hboth]

/-- A lane adds what is wrong with it, collected to one issue, to the issues of the lanes behind. -/
theorem compileLanes_cons (met : List String) (lane : Template.Lane) (rest : List Template.Lane) :
    (compileLanes met (lane :: rest)).2 =
      (Issue.collect (laneIssues met lane)).toList ++ (compileLanes (lane.id :: met) rest).2 := by
  rw [compileLanes, collect_laneIssues]
  by_cases hid : lane.id ∈ met
  · have hmet : ∀ id, id ∈ met ↔ id ∈ lane.id :: met := by simpa using hid
    rw [if_pos (List.contains_iff_mem.2 hid), if_pos hid, compileLanes_congr hmet rest]
    rfl
  · rw [if_neg (mt List.contains_iff_mem.1 hid), if_neg hid]
    cases Lane.ofTemplate lane <;> rfl

/-- The compilation of some lanes behind lanes of some names notes of each what is wrong with it,
collected to one issue. -/
theorem compileLanes_issues (met : List String) (lanes : List Template.Lane) :
    (compileLanes met lanes).2 =
      (lanes.mapIdx fun position lane =>
        laneIssues (met ++ (lanes.take position).map Template.Lane.id) lane).filterMap
          Issue.collect := by
  induction lanes generalizing met with
  | nil => rfl
  | cons lane rest ih =>
    have hlater : ∀ position later,
        laneIssues (met ++ ((lane :: rest).take (position + 1)).map Template.Lane.id) later =
          laneIssues (lane.id :: met ++ (rest.take position).map Template.Lane.id) later :=
      fun position => laneIssues_congr (by simp [or_left_comm])
    rw [compileLanes_cons, List.mapIdx_cons, List.filterMap_cons, List.take_zero, List.map_nil,
      List.append_nil, ih]
    simp only [hlater]
    cases Issue.collect (laneIssues met lane) <;> rfl

/-- Lanes without an issue are all made, each from its own source. -/
theorem forall₂_of_compileLanes {met : List String} {lanes : List Template.Lane}
    (h : (compileLanes met lanes).2 = []) :
    List.Forall₂ (fun lane made => Lane.ofTemplate lane = .ok made) lanes
      (compileLanes met lanes).1 := by
  induction lanes generalizing met with
  | nil => exact .nil
  | cons lane rest ih =>
    rw [compileLanes_cons] at h
    obtain ⟨hown, hrest⟩ := List.append_eq_nil_iff.1 h
    rw [collect_laneIssues] at hown
    split at hown
    · cases hown
    · rename_i hid
      cases hmade : Lane.ofTemplate lane with
      | error found =>
        rw [hmade] at hown
        cases hown
      | ok compiled =>
        rw [compileLanes, if_neg (mt List.contains_iff_mem.1 hid), hmade]
        exact .cons hmade (ih hrest)

/-- Some names are not all different if one of them is met before. -/
theorem not_nodup_iff {ids : List String} :
    ¬ ids.Nodup ↔ ∃ (position : Nat) (id : String),
      ids[position]? = some id ∧ id ∈ ids.take position := by
  rw [List.nodup_iff_getElem?_ne_getElem?]
  push Not
  constructor
  · rintro ⟨first, second, hlt, hlength, hsame⟩
    refine ⟨second, ids[second], List.getElem?_eq_getElem hlength, ?_⟩
    rw [List.getElem?_eq_getElem hlength] at hsame
    exact List.mem_of_getElem? ((List.getElem?_take_of_lt hlt).trans hsame)
  · rintro ⟨second, id, hsecond, hin⟩
    obtain ⟨first, hfirst⟩ := List.mem_iff_getElem?.1 hin
    rw [List.getElem?_take, Option.ite_none_right_eq_some] at hfirst
    exact ⟨first, second, hfirst.1, (List.getElem?_eq_some_iff.1 hsecond).1,
      hfirst.2.trans hsecond.symm⟩

/-- What is wrong with one of some lanes is wrong with it behind the lanes before it. -/
theorem mem_issuesByLane {issues : List Issue} :
    issues ∈ issuesByLane lanes ↔ ∃ (position : Nat) (lane : Template.Lane),
      lanes[position]? = some lane ∧
        laneIssues ((lanes.take position).map Template.Lane.id) lane = issues := by
  simp only [issuesByLane, List.mem_iff_getElem?, List.getElem?_mapIdx, Option.map_eq_some_iff]

/-- All that is wrong with some lanes are individual issues. -/
theorem parts_eq_of_mem_issuesByLane (lanes : List Template.Lane) :
    ∀ issues ∈ issuesByLane lanes, ∀ one ∈ issues, one.parts = [one] := by
  intro issues hissues one hone
  obtain ⟨position, lane, -, rfl⟩ := mem_issuesByLane.1 hissues
  exact parts_eq_of_mem_laneIssues hone

/-- Something is wrong with some lanes if two of them have one name, or the first lane of a name
cannot be compiled. -/
theorem exists_issuesByLane_ne_nil_iff :
    (∃ issues ∈ issuesByLane lanes, issues ≠ []) ↔
      ¬ (lanes.map Template.Lane.id).Nodup ∨
        ∃ (position : Nat) (lane : Template.Lane), lanes[position]? = some lane ∧
          lane.id ∉ (lanes.take position).map Template.Lane.id ∧
            ∃ issue, Lane.ofTemplate lane = .error issue := by
  rw [not_nodup_iff]
  simp only [mem_issuesByLane, List.getElem?_map, Option.map_eq_some_iff, ← List.map_take]
  constructor
  · rintro ⟨_, ⟨position, lane, hlane, rfl⟩, hwrong⟩
    rcases laneIssues_ne_nil_iff.1 hwrong with hid | hfails
    · exact .inl ⟨position, lane.id, ⟨lane, hlane, rfl⟩, hid⟩
    · exact .inr ⟨position, lane, hlane, hfails⟩
  · rintro (⟨position, _, ⟨lane, hlane, rfl⟩, hid⟩ | ⟨position, lane, hlane, hfails⟩)
    · exact ⟨_, ⟨position, lane, hlane, rfl⟩, laneIssues_ne_nil_iff.2 (.inl hid)⟩
    · exact ⟨_, ⟨position, lane, hlane, rfl⟩, laneIssues_ne_nil_iff.2 (.inr hfails)⟩

/-- The compilation of all lanes notes of each what is wrong with it, collected to one issue. -/
theorem compileLanes_nil (lanes : List Template.Lane) :
    (compileLanes [] lanes).2 = (issuesByLane lanes).filterMap Issue.collect :=
  compileLanes_issues [] lanes

/-- A document gives options, or what is wrong with its lanes collected twice. -/
theorem ofDocument_eq (document : OptionsDocument) :
    ofDocument document =
      match Issue.collect ((issuesByLane document.attachments).filterMap Issue.collect) with
      | some issue => .error issue
      | .none => .ok ⟨(compileLanes [] document.attachments).1, document.injections⟩ := by
  rw [← compileLanes_nil]
  rfl

/-- A document fails with what is wrong with its lanes collected twice. -/
theorem ofDocument_eq_error_iff {document : OptionsDocument} {issue : Issue} :
    ofDocument document = .error issue ↔
      Issue.collect ((issuesByLane document.attachments).filterMap Issue.collect) = some issue := by
  rw [ofDocument_eq]
  cases Issue.collect ((issuesByLane document.attachments).filterMap Issue.collect) with
  | none => exact ⟨nofun, nofun⟩
  | some found => rw [Except.error.injEq, Option.some.injEq]

/-- A document fails if something is wrong with one of its lanes. -/
theorem exists_ofDocument_eq_error_iff {document : OptionsDocument} :
    (∃ issue, ofDocument document = .error issue) ↔
      ∃ issues ∈ issuesByLane document.attachments, issues ≠ [] := by
  simp only [ofDocument_eq_error_iff, ← Option.isSome_iff_exists, Option.isSome_iff_ne_none, ne_eq,
    Issue.collect_eq_none_iff, List.filterMap_eq_nil_iff]
  push Not
  rfl

/-- A document without an issue gives one lane for each of its own, and its requests. -/
theorem forall₂_of_ofDocument {document : OptionsDocument} {options : RenderOptions}
    (h : ofDocument document = .ok options) :
    List.Forall₂ (fun lane made => Lane.ofTemplate lane = .ok made) document.attachments
      options.attachments ∧ options.injections = document.injections := by
  rw [ofDocument_eq, ← compileLanes_nil] at h
  cases hcollect : Issue.collect (compileLanes [] document.attachments).2 with
  | some issue =>
    rw [hcollect] at h
    cases h
  | none =>
    rw [hcollect] at h
    cases h
    exact ⟨forall₂_of_compileLanes ((Issue.collect_eq_none_iff _).1 hcollect), rfl⟩

/-- Nothing stays bundled of what is wrong with some lanes: something is wrong with one lane only,
or no more than one thing with each. -/
def AreUnbundled (own : List (List Issue)) : Prop :=
  own.countP (!·.isEmpty) ≤ 1 ∨ ∀ issues ∈ own, issues.length ≤ 1

/-- **Issues of lanes are complete, and flat unless two layers of collecting meet.** A document
fails exactly if two of its lanes have one name or the first lane of some name cannot be compiled;
otherwise every lane is compiled. What it fails with holds, in the order of the lanes and no deeper
than in the bundles of single lanes, one issue for each repeated lane and all individual issues of
every other. There is no bundle among its parts, and there are as many parts as issues, exactly if
something is wrong with one lane only or no more than one thing with each. -/
theorem issues_of_ofDocument (document : OptionsDocument) :
    ((∃ issue, ofDocument document = .error issue) ↔
      ¬ (document.attachments.map Template.Lane.id).Nodup ∨
        ∃ (position : Nat) (lane : Template.Lane),
          document.attachments[position]? = some lane ∧
            lane.id ∉ (document.attachments.take position).map Template.Lane.id ∧
              ∃ issue, Lane.ofTemplate lane = .error issue) ∧
    (∀ options, ofDocument document = .ok options →
      List.Forall₂ (fun lane made => Lane.ofTemplate lane = .ok made) document.attachments
        options.attachments ∧ options.injections = document.injections) ∧
    ∀ issue, ofDocument document = .error issue →
      issue.parts.flatMap Issue.parts = (issuesByLane document.attachments).flatten ∧
      (∀ one ∈ (issuesByLane document.attachments).flatten, one.parts = [one]) ∧
      List.TFAE [
        ∀ part ∈ issue.parts, part.parts = [part],
        issue.parts = (issuesByLane document.attachments).flatten,
        issue.parts.length = (issuesByLane document.attachments).flatten.length,
        AreUnbundled (issuesByLane document.attachments)] := by
  refine ⟨exists_ofDocument_eq_error_iff.trans exists_issuesByLane_ne_nil_iff,
    fun _ => forall₂_of_ofDocument, fun issue h => ?_⟩
  have hparts := parts_eq_of_mem_issuesByLane document.attachments
  have hcollect := ofDocument_eq_error_iff.1 h
  have hbundles : ∀ bundle ∈ (issuesByLane document.attachments).filterMap Issue.collect,
      bundle.IsBundle := by
    intro bundle hbundle
    obtain ⟨issues, hissues, hfound⟩ := List.mem_filterMap.1 hbundle
    exact Issue.isBundle_of_collect (hparts issues hissues) hfound
  have hflat := Issue.flatMap_parts_of_collect hbundles hcollect
  have htfae := Issue.tfae_of_collect hbundles hcollect
  rw [Issue.flatMap_filterMap_collect hparts] at hflat htfae
  rw [Issue.length_filterMap_collect, Issue.length_parts_le_one_iff hparts] at htfae
  refine ⟨hflat, fun one hone => ?_, htfae⟩
  obtain ⟨issues, hissues, hin⟩ := List.mem_flatten.1 hone
  exact hparts issues hissues one hin

end RenderOptions

namespace Sample

/-- A lane whose text and whose group open a tag that is not closed, and a lane of a name behind
it. -/
def attaching (later : String) : OptionsDocument where
  attachments := [
    ⟨"notes", true, .user, "\x7b\x7b", 0, [⟨"today", some "\x7b\x7b", none⟩], none⟩,
    ⟨later, true, .user, "Noted.", 0, [], none⟩]
  injections := []

open Blueprint in
/-- What is wrong with the first of these lanes. -/
def unclosed : List Issue :=
  [[.key "lane 'notes'", .key "template"],
    [.key "lane 'notes'", .key "groups", .index 0, .key "open"]].map fun location =>
      .leaf location ⟨0, "\x7b\x7b", .block .unterminatedTag⟩

end Sample

namespace RenderOptions

open Blueprint

/-- If the lane behind has a name of its own, the two issues are what is reported. -/
theorem issues_of_ofDocument_attaching :
    ∃ issue, ofDocument (Sample.attaching "mood") = .error issue ∧
      issue.parts = (issuesByLane (Sample.attaching "mood").attachments).flatten ∧
      issue.parts.length = 2 := by
  obtain ⟨hfails, -, hissues⟩ := issues_of_ofDocument (Sample.attaching "mood")
  have hlane : Lane.ofTemplate (Sample.attaching "mood").attachments[0] =
      .error (.several Sample.unclosed) := by cbv
  obtain ⟨issue, h⟩ := hfails.2 (.inr ⟨0, _, rfl, List.not_mem_nil, _, hlane⟩)
  obtain ⟨-, -, htfae⟩ := hissues issue h
  have hunbundled : AreUnbundled (issuesByLane (Sample.attaching "mood").attachments) :=
    .inl (by decide +kernel)
  have hflat := (htfae.out 3 1).1 hunbundled
  refine ⟨issue, h, hflat, ?_⟩
  rw [hflat]
  decide +kernel

/-- If it has the same name, there are three issues, of which two are reported as one. -/
theorem exists_bundled :
    ∃ issue, ofDocument (Sample.attaching "notes") = .error issue ∧
      issue.parts = [.several Sample.unclosed, .repeatedLane "notes"] ∧
      (issuesByLane (Sample.attaching "notes").attachments).flatten =
        Sample.unclosed ++ [.repeatedLane "notes"] ∧
      issue.parts.length = 2 ∧
      (issuesByLane (Sample.attaching "notes").attachments).flatten.length = 3 :=
  ⟨.several [.several Sample.unclosed, .repeatedLane "notes"], by cbv, rfl, by cbv, rfl, by cbv⟩

end RenderOptions

end ChatPrompt
