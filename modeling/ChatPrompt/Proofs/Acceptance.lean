import ChatPrompt.Blueprint.Compiler
import ChatPrompt.Proofs.Covering
import ChatPrompt.Proofs.Placement

/-!
# The compiler accepts exactly the well-formed templates

Lanes, groups and places of the layout are gone through with the names that were met before; one
that comes again is passed over with an issue, and so is the place of a slot that does not exist.
A template that has no such place, names every slot once and is otherwise in order goes through,
and no other does, whatever the compiler has read before.
-/

namespace ChatPrompt

namespace Blueprint.Compilation

open Template

variable {allowed : Option (List String)}

/-- Names are all different, and none of them is among those met before. -/
def AreNew (met names : List String) : Prop := names.Nodup ∧ ∀ name ∈ names, name ∉ met

/-- Where nothing was met, names only have to be different. -/
theorem areNew_nil_iff {names : List String} : AreNew [] names ↔ names.Nodup :=
  and_iff_left fun _ _ => List.not_mem_nil

/-- After a new name, the others have to be new with it met. -/
theorem areNew_cons_iff {met names : List String} {name : String} (hnew : name ∉ met) :
    AreNew met (name :: names) ↔ AreNew (name :: met) names := by
  constructor
  · rintro ⟨hnodup, hall⟩
    obtain ⟨hfresh, hnodup⟩ := List.nodup_cons.1 hnodup
    refine ⟨hnodup, fun other hother hin => ?_⟩
    rcases List.mem_cons.1 hin with rfl | hmet
    · exact hfresh hother
    · exact hall other (List.mem_cons_of_mem _ hother) hmet
  · rintro ⟨hnodup, hall⟩
    have hfresh : name ∉ names := fun hin => hall name hin List.mem_cons_self
    refine ⟨List.nodup_cons.2 ⟨hfresh, hnodup⟩, fun other hother hmet => ?_⟩
    rcases List.mem_cons.1 hother with rfl | hin
    · exact hnew hmet
    · exact hall other hin (List.mem_cons_of_mem _ hmet)

/-- Names of which the first was met are not new. -/
theorem not_areNew_cons {met names : List String} {name : String} (hmet : name ∈ met) :
    ¬ AreNew met (name :: names) :=
  fun h => h.2 name List.mem_cons_self hmet

/-- Groups are in order if their names are new and their texts are leaves. -/
theorem checks_laneGroups (here : Location) (position : Nat) (met : List String)
    (groups : List Template.LaneGroup) :
    Checks allowed (laneGroups here position met groups)
      (AreNew met (groups.map Template.LaneGroup.id)) (groups.flatMap LaneGroup.parts)
      fun _ => True := by
  induction groups generalizing position met with
  | nil => exact (covers_pure _).weaken (by simp [AreNew]) fun _ _ => trivial
  | cons group rest ih =>
    rw [laneGroups, List.map_cons, List.flatMap_cons, LaneGroup.parts]
    split
    · next hmet =>
      refine checks_note _ ?_ fun _ => (ih _ _).grows
      exact fun _ hboth => not_areNew_cons (List.contains_iff_mem.1 hmet) hboth.1
    · next hnew =>
      rw [areNew_cons_iff fun hin => hnew (List.contains_iff_mem.2 hin), List.append_assoc]
      exact (covers_leaf? _ group.opening).bind fun _ =>
        (covers_leaf? _ group.closing).bind fun _ => (ih _ _).map fun _ _ => trivial

/-- A lane is in order if its groups have different names and its texts are leaves. -/
theorem checks_lane (here : Location) (source : Template.Lane) :
    Checks allowed (lane here source) (source.groups.map Template.LaneGroup.id).Nodup
      source.parts fun _ => True := by
  rw [lane, Lane.parts, ← areNew_nil_iff]
  exact (covers_leaf _ source.template).bind fun _ =>
    (checks_laneGroups _ 0 [] source.groups).map fun _ _ => trivial

/-- Lanes are in order if their names are new and each of them is in order. -/
theorem checks_lanes (position : Nat) (met : List String) (sources : List Template.Lane) :
    Checks allowed (lanes position met sources)
      (AreNew met (sources.map Template.Lane.id) ∧
        ∀ lane ∈ sources, (lane.groups.map Template.LaneGroup.id).Nodup)
      (sources.flatMap Lane.parts) fun _ => True := by
  induction sources generalizing position met with
  | nil => exact (covers_pure _).weaken (by simp [AreNew]) fun _ _ => trivial
  | cons source rest ih =>
    rw [lanes, List.map_cons, List.flatMap_cons]
    split
    · next hmet =>
      refine checks_note _ ?_ fun _ => (ih _ _).grows
      exact fun _ hboth => not_areNew_cons (List.contains_iff_mem.1 hmet) hboth.1.1
    · next hnew =>
      rw [areNew_cons_iff fun hin => hnew (List.contains_iff_mem.2 hin), List.forall_mem_cons,
        and_left_comm]
      exact (checks_lane _ source).followedBy fun _ => (ih _ _).map fun _ _ => trivial

/-- The places of a layout for slots, with the number of the element, from a position on. -/
def placesFrom (position : Nat) : List Template.LayoutNode → List (String × Nat)
  | [] => []
  | .message _ :: rest => placesFrom (position + 1) rest
  | .slot place :: rest => (place.name, position) :: placesFrom (position + 1) rest

/-- The names of the places are those of the slots that the layout has places for. -/
theorem names_placesFrom (position : Nat) (layout : List Template.LayoutNode) :
    (placesFrom position layout).map Prod.fst = layout.filterMap LayoutNode.slotName? := by
  induction layout generalizing position with
  | nil => rfl
  | cons node rest ih =>
    cases node with
    | message details => exact ih (position + 1)
    | slot place => exact congrArg (place.name :: ·) (ih (position + 1))

/-- Nothing is kept under a name that is not there. -/
theorem isNone_lookup_iff {γ : Type} {entries : List (String × γ)} {name : String} :
    (entries.lookup name).isNone = true ↔ name ∉ entries.map Prod.fst := by
  rw [Option.isNone_iff_eq_none, List.lookup_eq_none_iff]
  constructor
  · intro hne hin
    obtain ⟨entry, hentry, rfl⟩ := List.mem_map.1 hin
    simpa using hne entry hentry
  · intro hout entry hentry
    have hne : name ≠ entry.1 := fun heq => hout (heq ▸ List.mem_map_of_mem hentry)
    simpa using hne

/-- Places are in order if they are for slots that exist and are met once; all of them count
then. -/
theorem checks_placedSlots (specs : List (String × Template.Slot)) (position : Nat)
    (met : List String) (layout : List Template.LayoutNode) :
    Checks allowed (placedSlots specs position met layout)
      ((∀ name ∈ layout.filterMap LayoutNode.slotName?, name ∈ specs.map Prod.fst) ∧
        AreNew met (layout.filterMap LayoutNode.slotName?)) []
      fun placed => placed = placesFrom position layout := by
  induction layout generalizing position met with
  | nil => exact (checks_pure (Q := (· = [])) rfl).weaken (by simp [AreNew]) fun _ hvalue => hvalue
  | cons node rest ih =>
    cases node with
    | message details => exact ih (position + 1) met
    | slot place =>
      have hnames : (Template.LayoutNode.slot place :: rest).filterMap LayoutNode.slotName? =
          place.name :: rest.filterMap LayoutNode.slotName? := rfl
      rw [placedSlots, hnames, List.forall_mem_cons]
      split
      · next hunknown =>
        refine checks_note _ ?_ fun _ => (ih _ _).grows
        exact fun _ hboth => isNone_lookup_iff.1 hunknown hboth.1.1.1
      · next hknown =>
        have hname : place.name ∈ specs.map Prod.fst := by
          by_contra hout
          exact hknown (isNone_lookup_iff.2 hout)
        split
        · next hmet =>
          refine checks_note _ ?_ fun _ => (ih _ _).grows
          exact fun _ hboth => not_areNew_cons (List.contains_iff_mem.1 hmet) hboth.1.2
        · next hnew =>
          rw [areNew_cons_iff fun hin => hnew (List.contains_iff_mem.2 hin), and_iff_right hname]
          exact (ih _ _).map fun _ hplaced => congrArg ((place.name, position) :: ·) hplaced

/-- The slots are in order if each of them has a place. -/
theorem checks_checkPlaced (placed : List (String × Nat))
    (specs : List (String × Template.Slot)) :
    Checks allowed (checkPlaced placed specs)
      (∀ name ∈ specs.map Prod.fst, name ∈ placed.map Prod.fst) [] fun _ => True := by
  induction specs with
  | nil => exact (covers_pure _).weaken (by simp) fun _ _ => trivial
  | cons spec rest ih =>
    obtain ⟨name, spec⟩ := spec
    rw [checkPlaced, List.map_cons, List.forall_mem_cons]
    split
    · next hunplaced =>
      refine checks_note _ ?_ fun _ => ih.grows
      exact fun _ hboth => isNone_lookup_iff.1 hunplaced hboth.1.1
    · next hplaced =>
      have hname : name ∈ placed.map Prod.fst := by
        by_contra hout
        exact hplaced (isNone_lookup_iff.2 hout)
      rw [and_iff_right hname]
      exact ih

/-- A place is in order if the frames around it are. -/
theorem covers_placeholder (here : Location) (number : Nat) (place : Template.Placeholder) :
    Covers allowed (placeholder here number place)
      (frameParts place.header ++ frameParts place.footer) := by
  rw [placeholder]
  exact (covers_frame? _ place.header).bind fun _ => (covers_frame? _ place.footer).map _

/-- Whatever places count, the elements of the layout keep up what is known. -/
theorem grows_layoutFrom (placed : List (String × Nat)) (position : Nat)
    (layout : List Template.LayoutNode) : Grows (layoutFrom allowed placed position layout) := by
  induction layout generalizing position with
  | nil => exact grows_pure []
  | cons node rest ih =>
    cases node with
    | message details =>
      rw [layoutFrom]
      exact (covers_layoutMessage _ details).grows.bind fun _ => (ih _).bind fun _ => grows_pure _
    | slot place =>
      rw [layoutFrom]
      split
      · exact ih _
      · next number _ =>
        have hplace : Covers allowed (placeholder [.key "layout", .index position] number place)
            (frameParts place.header ++ frameParts place.footer) := covers_placeholder _ _ _
        exact hplace.grows.bind fun _ => (ih _).bind fun _ => grows_pure _

/-- Where all places count, the elements of the layout are in order if each of them is. -/
theorem covers_layoutFrom {placed : List (String × Nat)} {position : Nat}
    {layout : List Template.LayoutNode}
    (hplaced : ∀ entry ∈ placesFrom position layout, entry ∈ placed) :
    Covers allowed (layoutFrom allowed placed position layout)
      (layout.flatMap Template.LayoutNode.parts) := by
  induction layout generalizing position with
  | nil => exact covers_pure []
  | cons node rest ih =>
    rw [List.flatMap_cons]
    cases node with
    | message details =>
      rw [layoutFrom]
      exact (covers_layoutMessage _ details).bind fun _ => (ih hplaced).map _
    | slot place =>
      obtain ⟨hthis, hrest⟩ := List.forall_mem_cons.1 hplaced
      rw [layoutFrom]
      split
      · next hnone =>
        rw [List.findIdx?_eq_none_iff] at hnone
        have hsame := hnone _ hthis
        simp at hsame
      · next number _ =>
        exact (covers_placeholder _ number place).bind fun _ => (ih hrest).map _

/-- Slots that have a place are in order if their parts are. -/
theorem covers_slots (specs : List (String × Template.Slot)) (placed : List (String × Nat)) :
    Covers allowed (slots allowed specs placed)
      ((placed.map Prod.fst).flatMap (slotParts specs)) := by
  induction placed with
  | nil => exact covers_pure []
  | cons entry rest ih =>
    obtain ⟨name, layoutIndex⟩ := entry
    rw [slots, List.map_cons, List.flatMap_cons, slotParts]
    cases specs.lookup name with
    | none => exact ih
    | some spec =>
      rw [Option.toList_some, List.flatMap_singleton, Slot.parts, List.append_assoc]
      exact (covers_condition? _ spec.condition).bind fun _ =>
        (covers_planFrom _ false 0 spec.plan).bind fun _ => ih.map _

/-- A template goes through where its places are for slots that exist and are met once, each
slot has a place, the names of lanes and groups are different, and all parts are in order. -/
theorem checks_template (source : Template) :
    Checks allowed (template allowed source)
      (((∀ name ∈ source.placeNames, name ∈ source.slots.map Prod.fst) ∧
          source.placeNames.Nodup) ∧
        (∀ name ∈ source.slots.map Prod.fst, name ∈ source.placeNames) ∧
        (source.attachments.map Template.Lane.id).Nodup ∧
        ∀ lane ∈ source.attachments, (lane.groups.map Template.LaneGroup.id).Nodup)
      source.parts fun _ => True := by
  have hnames := names_placesFrom 0 source.layout
  have hcheck : ∀ placed, Checks allowed (checkPlaced placed source.slots)
      (∀ name ∈ source.slots.map Prod.fst, name ∈ placed.map Prod.fst) [] fun _ => True :=
    fun placed => checks_checkPlaced placed source.slots
  have hslots : ∀ placed, Covers allowed (slots allowed source.slots placed)
      ((placed.map Prod.fst).flatMap (slotParts source.slots)) := covers_slots source.slots
  have hlanes : ∀ finish : List Lane → Blueprint,
      Checks allowed (lanes 0 [] source.attachments >>= fun made => pure (finish made))
        (AreNew [] (source.attachments.map Template.Lane.id) ∧
          ∀ lane ∈ source.attachments, (lane.groups.map Template.LaneGroup.id).Nodup)
        (source.attachments.flatMap Lane.parts) fun _ => True :=
    fun _ => (checks_lanes 0 [] source.attachments).map fun _ _ => trivial
  rw [template, ← areNew_nil_iff, ← areNew_nil_iff, Template.parts]
  refine (checks_placedSlots source.slots 0 [] source.layout).bind ?_ ?_
  · intro placed
    exact (hcheck placed).grows.bind fun _ => (grows_layoutFrom placed 0 source.layout).bind
      fun _ => (hslots placed).grows.bind fun _ => (hlanes _).grows
  · rintro _ rfl
    have hplaced := hcheck (placesFrom 0 source.layout)
    have hparts := hslots (placesFrom 0 source.layout)
    have hlayout : Covers allowed
        (layoutFrom allowed (placesFrom 0 source.layout) 0 source.layout)
        (source.layout.flatMap Template.LayoutNode.parts) :=
      covers_layoutFrom fun _ hentry => hentry
    rw [hnames] at hplaced hparts
    exact hplaced.followedBy fun _ => hlayout.bind fun _ => hparts.bind fun _ => hlanes _

/-- A compilation from nothing makes something exactly where no issue is noted. -/
theorem run_isOk_iff {α : Type} {compilation : Compilation α} {C : Prop} {parts : List Part}
    {Q : α → Prop} (h : Checks allowed compilation C parts Q) {leaves : Leaf.Cache}
    (hleaves : leaves.IsFaithful) :
    (∃ made, (compilation.run leaves).1 = .ok made) ↔ C ∧ InOrder allowed [] parts := by
  have hiff := h.issues_eq_iff ⟨leaves, [], []⟩ hleaves
  rw [← hiff]
  constructor
  · rintro ⟨made, hrun⟩
    exact (run_eq_ok_iff.1 hrun).1
  · exact fun hissues => ⟨_, run_eq_ok_iff.2 ⟨hissues, rfl⟩⟩

/-- A compilation keeps a cache right. -/
theorem isFaithful_run {α : Type} {compilation : Compilation α} (h : Grows compilation)
    {leaves : Leaf.Cache} (hleaves : leaves.IsFaithful) :
    (compilation.run leaves).2.IsFaithful := by
  rw [snd_run]
  exact (h ⟨leaves, [], []⟩ hleaves).1

/-- What a template needs to go through is to be well formed. -/
theorem isWellFormed_iff {source : Template} :
    ((((∀ name ∈ source.placeNames, name ∈ source.slots.map Prod.fst) ∧
          source.placeNames.Nodup) ∧
        (∀ name ∈ source.slots.map Prod.fst, name ∈ source.placeNames) ∧
        (source.attachments.map Template.Lane.id).Nodup ∧
        ∀ lane ∈ source.attachments, (lane.groups.map Template.LaneGroup.id).Nodup) ∧
      InOrder allowed [] source.parts) ↔ source.IsWellFormed allowed := by
  constructor
  · rintro ⟨⟨⟨hknown, hnodup⟩, hplaced, hlanes, hgroups⟩, hparts⟩
    exact ⟨hknown, fun name hname => List.count_eq_one_of_mem hnodup (hplaced name hname),
      hparts.each, hparts.keys_nodup, hlanes, hgroups⟩
  · intro h
    refine ⟨⟨⟨h.place_known, ?_⟩, ?_, h.lanes_nodup, h.groups_nodup⟩, h.parts_inOrder,
      h.keys_nodup, fun _ _ => List.not_mem_nil⟩
    · rw [List.nodup_iff_count_le_one]
      intro name
      by_cases hname : name ∈ source.placeNames
      · exact Nat.le_of_eq (h.placed_once name (h.place_known name hname))
      · rw [List.count_eq_zero_of_not_mem hname]
        exact Nat.zero_le 1
    · intro name hname
      have hone := h.placed_once name hname
      exact List.count_pos_iff.1 (by omega)

end Blueprint.Compilation

/-- A compiler that there can be: a new one, or one after a compilation or a use of its
leaves. -/
inductive Compiler.IsReached : Compiler → Prop where
  /-- It has read nothing. -/
  | fresh (allowed : Option (List String)) : IsReached (Compiler.fresh allowed)
  /-- It has compiled a template. -/
  | compiled {compiler : Compiler} (h : IsReached compiler) (allowed : Option (List String))
    (template : Template) : IsReached (compiler.compileAllowing allowed template).2
  /-- A leaf was taken from its cache. -/
  | fetched {compiler : Compiler} (h : IsReached compiler) (source : String) :
    IsReached { compiler with leaves := (compiler.leaves.fetch source).2 }
  /-- A leaf of its cache was rendered. -/
  | rendered {compiler : Compiler} (h : IsReached compiler) (serial : Nat) (scope : Scope) :
    IsReached { compiler with leaves := (compiler.leaves.render serial scope).2 }
  /-- Its cache was emptied. -/
  | cleared {compiler : Compiler} (h : IsReached compiler) :
    IsReached { compiler with leaves := compiler.leaves.clear }

open Blueprint.Compilation in
/-- The cache of a compiler holds nothing wrong. -/
theorem Compiler.IsReached.isFaithful {compiler : Compiler} (h : compiler.IsReached) :
    compiler.leaves.IsFaithful := by
  induction h with
  | fresh allowed => exact Leaf.Cache.isFaithful_empty
  | @compiled compiler _ allowed template ih =>
    have hchecks : Checks allowed (Blueprint.Compilation.template allowed template) _
        template.parts fun _ => True := checks_template template
    exact isFaithful_run hchecks.grows ih
  | fetched _ source ih => exact Leaf.Cache.isFaithful_fetch ih source
  | @rendered compiler _ serial scope ih =>
    have hentries : (compiler.leaves.render serial scope).2.entries = compiler.leaves.entries := by
      rw [Leaf.Cache.render]
      split
      · rfl
      · rfl
    intro source found hfound
    rw [hentries] at hfound
    exact ih source found hfound
  | cleared _ _ => exact Leaf.Cache.isFaithful_empty

open Blueprint.Compilation in
/-- A compiler makes a blueprint of a template exactly where the template is well formed, with
the sources that the compiler allows or with others, whatever it has read before. -/
theorem Compiler.compile_isOk_iff {compiler : Compiler} (h : compiler.IsReached)
    (template : Template) :
    ((∃ blueprint, (compiler.compile template).1 = .ok blueprint) ↔
      template.IsWellFormed compiler.allowed) ∧
    ∀ allowed, (∃ blueprint, (compiler.compileAllowing allowed template).1 = .ok blueprint) ↔
      template.IsWellFormed allowed := by
  have hall : ∀ allowed,
      (∃ blueprint, (compiler.compileAllowing allowed template).1 = .ok blueprint) ↔
        template.IsWellFormed allowed := by
    intro allowed
    have hchecks : Checks allowed (Blueprint.Compilation.template allowed template) _
        template.parts fun _ => True := checks_template template
    exact (run_isOk_iff hchecks h.isFaithful).trans isWellFormed_iff
  exact ⟨hall compiler.allowed, hall⟩

/-- A new compiler makes a blueprint of the sample, which is well formed, and none of the sample
with its lane given twice. -/
theorem Compiler.compile_isOk_iff_sample :
    Sample.template.IsWellFormed none ∧
      ¬ ∃ blueprint, ((Compiler.fresh none).compile { Sample.template with
        attachments := Sample.template.attachments ++ Sample.template.attachments }).1 =
          .ok blueprint := by
  constructor
  · exact (Compiler.compile_isOk_iff (.fresh none) Sample.template).1.1 ⟨Sample.blueprint, by cbv⟩
  · intro hmade
    have hformed := (Compiler.compile_isOk_iff (.fresh none) _).1.1 hmade
    exact absurd hformed.lanes_nodup (by decide)

end ChatPrompt
