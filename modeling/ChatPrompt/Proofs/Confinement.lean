import ChatPrompt.Proofs.Acceptance
import ChatPrompt.Proofs.Consultation

/-!
# A list of allowed sources confines a render

Compilation brings no source into a blueprint that the template does not name: it goes from a
part of the template to the part of the blueprint that means the same, and a source of the
second is one of the first. What a compilation with a list of sources accepts names only those of
the list, so a render of it never asks another source, and a registry could have anything under
the other names.
-/

namespace ChatPrompt

namespace Blueprint

/-- Sources are among those that some parts of a template name. -/
def AreNamedIn (parts : List Template.Part) (sources : List String) : Prop :=
  ∀ name ∈ sources, ∃ way, Template.Part.target (some name) way ∈ parts

namespace AreNamedIn

variable {parts more : List Template.Part} {sources others : List String}

theorem nil : AreNamedIn parts [] := fun _ hname => nomatch hname

/-- Sources of two kinds are named where both are. -/
theorem append (hsources : AreNamedIn parts sources) (hothers : AreNamedIn parts others) :
    AreNamedIn parts (sources ++ others) :=
  fun name hname => (List.mem_append.1 hname).elim (hsources name) (hothers name)

/-- More parts name more sources. -/
theorem mono (h : AreNamedIn parts sources) (hsubset : ∀ part ∈ parts, part ∈ more) :
    AreNamedIn more sources :=
  fun name hname => (h name hname).imp fun _ hpart => hsubset _ hpart

theorem left (h : AreNamedIn parts sources) : AreNamedIn (parts ++ more) sources :=
  h.mono fun _ hpart => List.mem_append_left more hpart

theorem right (h : AreNamedIn more sources) : AreNamedIn (parts ++ more) sources :=
  h.mono fun _ hpart => List.mem_append_right parts hpart

/-- Parts that are in order name only sources that are allowed. -/
theorem mem_of_isInOrder {names : List String} (h : AreNamedIn parts sources)
    (hparts : ∀ part ∈ parts, part.IsInOrder (some names)) : ∀ name ∈ sources, name ∈ names := by
  intro name hname
  obtain ⟨way, hpart⟩ := h name hname
  exact (hparts _ hpart).2 name rfl names rfl

end AreNamedIn

/-- The steps of two plans name what either of them names. -/
theorem planSources_append (nodes others : List PlanNode) :
    planSources (nodes ++ others) = planSources nodes ++ planSources others := by
  induction nodes with
  | nil => rw [List.nil_append, planSources, List.nil_append]
  | cons node rest ih => rw [List.cons_append, planSources, ih, planSources, List.append_assoc]

/-- A plan of one step, or of none, names what the step names. -/
theorem planSources_toList (node : Option PlanNode) :
    planSources node.toList = node.toList.flatMap PlanNode.sources := by
  cases node with
  | none => rw [Option.toList_none, planSources, List.flatMap_nil]
  | some node => rw [Option.toList_some, planSources, planSources, List.flatMap_singleton,
      List.append_nil]

namespace Compilation

open Template

variable (allowed : Option (List String))

/-- Of what is made, if anything is, the sources are named in some parts. -/
def NamesOf {α : Type} (sources : α → List String) (parts : List Part) (made : Option α) : Prop :=
  ∀ value ∈ made, AreNamedIn parts (sources value)

/-- Of one thing or none, the sources are named in some parts. -/
theorem areNamedIn_toList {α : Type} {sources : α → List String} {parts : List Part}
    {made : Option α} (h : NamesOf sources parts made) :
    AreNamedIn parts (made.toList.flatMap sources) := by
  cases made with
  | none => exact .nil
  | some value =>
    rw [Option.toList_some, List.flatMap_singleton]
    exact h value rfl

/-- The source that a reference is made to read from is the one that it names. -/
theorem target_returns (here : Location) (source way : Option String)
    (arguments : Blueprint.Arguments) :
    (target allowed here source way).Returns
      (NamesOf (fun made => (⟨made, arguments⟩ : Blueprint.Reference).sources)
        [.target source way]) := by
  have hscope : ∀ path, AreNamedIn [.target source way]
      (⟨.scope path, arguments⟩ : Blueprint.Reference).sources := fun _ => .nil
  cases source with
  | none =>
    cases way with
    | none =>
      refine returns_of_bind fun _ => returns_pure ?_
      exact fun _ hmade => nomatch hmade
    | some way =>
      refine returns_of_bind fun path => returns_pure ?_
      intro made hmade
      obtain ⟨path, -, rfl⟩ := Option.map_eq_some_iff.1 hmade
      exact hscope path
  | some name =>
    have hsource : ∀ steps, AreNamedIn [.target (some name) way]
        (⟨.source name steps, arguments⟩ : Blueprint.Reference).sources := by
      intro steps other hother
      rw [List.mem_singleton.1 hother]
      exact ⟨way, List.mem_cons_self⟩
    cases way with
    | none =>
      refine returns_of_bind fun _ => returns_pure ?_
      intro made hmade
      obtain rfl := Option.some.inj hmade
      exact hsource []
    | some way =>
      refine returns_of_bind fun _ => returns_of_bind fun path => returns_pure ?_
      intro made hmade
      obtain ⟨path, -, rfl⟩ := Option.map_eq_some_iff.1 hmade
      exact hsource path.asSteps

/-- A reference is made to ask a source that it names. -/
theorem reference_returns (here : Location) (source : Template.Reference) :
    (reference allowed here source).Returns
      (NamesOf Blueprint.Reference.sources source.parts) := by
  rw [reference]
  refine returns_of_bind fun arguments => ?_
  refine returns_bind (target_returns allowed here source.source source.path arguments) ?_
  intro target htarget
  refine returns_pure ?_
  intro made hmade
  obtain ⟨target, hsome, rfl⟩ := Option.map_eq_some_iff.1 hmade
  refine (htarget target hsome).mono fun part hpart => ?_
  rw [List.mem_singleton.1 hpart]
  exact List.mem_append_right _ List.mem_cons_self

/-- What is made of a reference names what the reference does. -/
theorem reference_map_returns {α : Type} {sources : α → List String}
    {make : Blueprint.Reference → α}
    (hmake : ∀ reference, sources (make reference) = reference.sources) (here : Location)
    (source : Template.Reference) :
    (reference allowed here source >>= fun made => pure (made.map make)).Returns
      (NamesOf sources source.parts) := by
  refine returns_bind (reference_returns allowed here source) fun made hmade => returns_pure ?_
  intro value hvalue
  obtain ⟨reference, hsome, rfl⟩ := Option.map_eq_some_iff.1 hvalue
  rw [hmake]
  exact hmade reference hsome

mutual

theorem condition_returns (here : Location) (test : Template.Condition) :
    (condition allowed here test).Returns
      (NamesOf Blueprint.Condition.sources test.parts) := by
  cases test with
  | present target | nonEmpty target | compare target op value =>
    rw [condition, Template.Condition.parts]
    refine reference_map_returns allowed (fun reference => ?_) _ target
    rw [Blueprint.Condition.sources]
  | expression source =>
    rw [condition]
    refine returns_of_bind fun expr => returns_pure ?_
    intro made hmade
    obtain ⟨expr, -, rfl⟩ := Option.map_eq_some_iff.1 hmade
    rw [Blueprint.Condition.sources]
    exact .nil
  | all conditions =>
    rw [condition, Template.Condition.parts]
    refine returns_bind (conditionList_returns _ 0 conditions) fun tests htests => returns_pure ?_
    intro made hmade
    obtain ⟨tests, hsome, rfl⟩ := Option.map_eq_some_iff.1 hmade
    rw [Blueprint.Condition.sources]
    exact htests tests hsome
  | any conditions =>
    rw [condition, Template.Condition.parts]
    refine returns_bind (conditionList_returns _ 0 conditions) fun tests htests => returns_pure ?_
    intro made hmade
    obtain ⟨tests, hsome, rfl⟩ := Option.map_eq_some_iff.1 hmade
    rw [Blueprint.Condition.sources]
    exact htests tests hsome
  | negation inner =>
    rw [condition, Template.Condition.parts]
    refine returns_bind (condition_returns _ inner) fun test htest => returns_pure ?_
    intro made hmade
    obtain ⟨test, hsome, rfl⟩ := Option.map_eq_some_iff.1 hmade
    rw [Blueprint.Condition.sources]
    exact htest test hsome

theorem conditionList_returns (here : Location) (position : Nat)
    (conditions : List Template.Condition) :
    (conditionList allowed here position conditions).Returns
      (NamesOf conditionSources (conditionParts conditions)) := by
  cases conditions with
  | nil =>
    rw [conditionList]
    refine returns_pure ?_
    intro made hmade
    obtain rfl := Option.some.inj hmade
    rw [conditionSources]
    exact .nil
  | cons first rest =>
    rw [conditionList, conditionParts]
    refine returns_bind (condition_returns _ first) fun test htest => ?_
    refine returns_bind (conditionList_returns here _ rest) fun others hothers => returns_pure ?_
    intro made hmade
    obtain ⟨test, hsome, hmade⟩ := Option.bind_eq_some_iff.1 hmade
    obtain ⟨others, hrest, rfl⟩ := Option.map_eq_some_iff.1 hmade
    rw [conditionSources]
    exact (htest test hsome).left.append (hothers others hrest).right

end

/-- What a message is made to say names what it names. -/
theorem content_returns (here : Location) (own : Option String)
    (source : Option Template.Reference) :
    (content allowed here own source).Returns
      (NamesOf Content.sources (contentParts own source)) := by
  cases own with
  | none =>
    cases source with
    | none => exact returns_of_bind fun _ => returns_pure fun _ hmade => nomatch hmade
    | some source =>
      rw [content]
      have hparts : contentParts none (some source) =
          .content none (some source) :: source.parts := by
        simp [contentParts]
      rw [hparts, ← List.singleton_append]
      have hvalue : (reference allowed (here.field "from") source >>= fun made =>
          pure (made.map Content.value)).Returns (NamesOf Content.sources source.parts) :=
        reference_map_returns allowed (fun reference =>
          show (Content.value reference).sources = reference.sources from rfl) _ source
      exact fun progress made hmade => (hvalue progress made hmade).right
  | some own =>
    cases source with
    | none =>
      rw [content]
      refine returns_of_bind fun leaf => returns_pure ?_
      intro made hmade
      obtain ⟨leaf, -, rfl⟩ := Option.map_eq_some_iff.1 hmade
      exact .nil
    | some source => exact returns_of_bind fun _ => returns_pure fun _ hmade => nomatch hmade

/-- A message that is made of what it says and a key names what it says names. -/
theorem namesOf_message {parts : List Part} {content : Option Content}
    (hcontent : NamesOf Content.sources parts content) {anchor : Option (Option Leaf)}
    {make : Content → Option Leaf → Message}
    (hmake : ∀ content anchor, (make content anchor).content = content) :
    NamesOf (fun message => message.content.sources) parts
      (content.bind fun content => anchor.map fun anchor => make content anchor) := by
  intro message hmessage
  obtain ⟨content, hsome, hmessage⟩ := Option.bind_eq_some_iff.1 hmessage
  obtain ⟨anchor, -, rfl⟩ := Option.map_eq_some_iff.1 hmessage
  dsimp only
  rw [hmake]
  exact hcontent content hsome

theorem layoutMessage_returns (here : Location) (message : LayoutMessage) :
    (layoutMessage allowed here message).Returns
      (NamesOf (fun made => made.content.sources) message.parts) := by
  have hrest : (do
      let content ← content allowed here message.content message.source
      let anchor ← anchor? (here.field "anchor") false message.anchor
      return content.bind fun content => anchor.map fun anchor =>
        ⟨message.role, content, message.openEnded, anchor, none⟩ :
          Compilation (Option Message)).Returns
      (NamesOf (fun made => made.content.sources) message.parts) := by
    refine returns_bind (content_returns allowed here _ _) fun content hcontent => ?_
    refine returns_of_bind fun anchor => returns_pure ?_
    refine namesOf_message (fun made hmade => ?_) fun _ _ => rfl
    exact (hcontent made hmade).left.mono fun _ hpart => List.mem_cons_of_mem _ hpart
  rw [layoutMessage]
  split
  · exact returns_of_bind fun _ => hrest
  · exact hrest

theorem planMessage_returns (here : Location) (inLoop : Bool) (message : PlanMessage) :
    (planMessage allowed here inLoop message).Returns
      (NamesOf (fun made => made.content.sources) (message.parts inLoop)) := by
  rw [planMessage]
  refine returns_bind (content_returns allowed here _ _) fun content hcontent => ?_
  refine returns_of_bind fun anchor => returns_pure ?_
  rw [PlanMessage.parts]
  exact namesOf_message (fun made hmade => (hcontent made hmade).left) fun _ _ => rfl

mutual

/-- A step of a plan is made to ask sources that it names. -/
theorem planNode_returns (here : Location) (inLoop : Bool) (node : Template.PlanNode) :
    (planNode allowed here inLoop node).Returns
      (NamesOf Blueprint.PlanNode.sources (node.parts inLoop)) := by
  cases node with
  | message details =>
    rw [planNode, PlanNode.parts]
    refine returns_bind (planMessage_returns allowed here inLoop details) ?_
    intro message hmessage
    refine returns_pure ?_
    intro made hmade
    obtain ⟨message, hsome, rfl⟩ := Option.map_eq_some_iff.1 hmade
    rw [Blueprint.PlanNode.sources]
    exact hmessage message hsome
  | forEach header body =>
    rw [planNode, PlanNode.parts]
    refine returns_bind (reference_returns allowed _ header.source) fun source hsource => ?_
    refine returns_of_bind fun sortBy => ?_
    cases sortBy with
    | none => exact returns_pure fun _ hmade => nomatch hmade
    | some sortBy =>
      refine returns_bind (planFrom_returns _ true 0 body) fun nodes hnodes => ?_
      refine returns_of_bind fun separator => returns_pure ?_
      intro made hmade
      obtain ⟨source, hsome, rfl⟩ := Option.map_eq_some_iff.1 hmade
      rw [Blueprint.PlanNode.sources]
      exact (hsource source hsome).left.append hnodes.left.right.right
  | branch test whenTrue whenFalse =>
    rw [planNode, PlanNode.parts]
    refine returns_bind (condition_returns allowed _ test) fun condition hcondition => ?_
    refine returns_bind (planFrom_returns _ inLoop 0 whenTrue) fun first hfirst => ?_
    refine returns_bind (planFrom_returns _ inLoop 0 whenFalse) fun second hsecond => ?_
    refine returns_pure ?_
    intro made hmade
    obtain ⟨condition, hsome, rfl⟩ := Option.map_eq_some_iff.1 hmade
    rw [Blueprint.PlanNode.sources]
    exact (hcondition condition hsome).left.append (hfirst.left.append hsecond.right).right

theorem planFrom_returns (here : Location) (inLoop : Bool) (position : Nat)
    (nodes : List Template.PlanNode) :
    (planFrom allowed here inLoop position nodes).Returns fun made =>
      AreNamedIn (planParts inLoop nodes) (planSources made) := by
  cases nodes with
  | nil =>
    rw [planFrom]
    refine returns_pure ?_
    rw [planSources]
    exact .nil
  | cons node rest =>
    rw [planFrom, planParts]
    refine returns_bind (planNode_returns _ inLoop node) fun first hfirst => ?_
    refine returns_bind (planFrom_returns here inLoop _ rest) fun others hothers => ?_
    refine returns_pure ?_
    rw [planSources_append, planSources_toList]
    exact (areNamedIn_toList hfirst).left.append hothers.right

end

/-- The elements of the layout are made to ask sources that they name, whatever places count. -/
theorem layoutFrom_names (placed : List (String × Nat)) (position : Nat)
    (layout : List Template.LayoutNode) :
    (layoutFrom allowed placed position layout).Returns fun made =>
      AreNamedIn (layout.flatMap Template.LayoutNode.parts)
        (made.flatMap Blueprint.LayoutNode.sources) := by
  induction layout generalizing position with
  | nil => exact returns_pure .nil
  | cons node rest ih =>
    rw [List.flatMap_cons]
    cases node with
    | message details =>
      rw [layoutFrom]
      refine returns_bind (layoutMessage_returns allowed _ details) fun message hmessage => ?_
      refine returns_bind (ih (position + 1)) fun others hothers => returns_pure ?_
      have hfirst : NamesOf Blueprint.LayoutNode.sources (Template.LayoutNode.message details).parts
          (message.map Blueprint.LayoutNode.message) := by
        intro made hmade
        obtain ⟨message, hsome, rfl⟩ := Option.map_eq_some_iff.1 hmade
        exact hmessage message hsome
      rw [List.flatMap_append]
      exact (areNamedIn_toList hfirst).left.append hothers.right
    | slot place =>
      rw [layoutFrom]
      split
      · intro progress
        exact (ih (position + 1) progress).right
      · next number _ =>
        have hplace : (placeholder [.key "layout", .index position] number place).Returns
            fun made => made.sources = [] := fun _ => rfl
        refine returns_bind hplace fun made hmade => ?_
        refine returns_bind (ih (position + 1)) fun others hothers => returns_pure ?_
        rw [List.flatMap_cons, hmade, List.nil_append]
        exact hothers.right

theorem condition?_returns (here : Location) (test : Option Template.Condition) :
    (condition? allowed here test).Returns
      (NamesOf Blueprint.Condition.sources (test.toList.flatMap Template.Condition.parts)) := by
  cases test with
  | none => exact returns_pure fun _ hmade => nomatch hmade
  | some test =>
    rw [condition?, Option.toList_some, List.flatMap_singleton]
    exact condition_returns allowed here test

/-- Slots are made to ask sources that they name. -/
theorem slots_names (specs : List (String × Template.Slot)) (placed : List (String × Nat)) :
    (slots allowed specs placed).Returns fun made =>
      AreNamedIn ((placed.map Prod.fst).flatMap (slotParts specs))
        (made.flatMap Blueprint.Slot.sources) := by
  induction placed with
  | nil => exact returns_pure .nil
  | cons entry rest ih =>
    obtain ⟨name, layoutIndex⟩ := entry
    rw [slots, List.map_cons, List.flatMap_cons, slotParts]
    cases specs.lookup name with
    | none => exact ih
    | some spec =>
      rw [Option.toList_some, List.flatMap_singleton, Slot.parts]
      refine returns_bind (condition?_returns allowed _ spec.condition) fun test htest => ?_
      refine returns_bind (planFrom_returns allowed _ false 0 spec.plan) fun plan hplan => ?_
      refine returns_bind ih fun others hothers => returns_pure ?_
      rw [List.flatMap_cons]
      exact ((areNamedIn_toList htest).left.append hplan.right).left.append hothers.right

/-- The places that count are for slots that the layout has places for. -/
theorem Places.names_sublist {position : Nat} {layout : List Template.LayoutNode}
    {placed : List (String × Nat)} (h : Places position layout placed) :
    (placed.map Prod.fst).Sublist (layout.filterMap Template.LayoutNode.slotName?) := by
  induction h with
  | nil position => exact List.Sublist.slnil
  | message _ ih => exact ih
  | passed _ ih => exact ih.cons _
  | counted _ ih => exact ih.cons_cons _

/-- What is compiled of a template asks sources that the template names. -/
theorem template_names (source : Template) :
    (template allowed source).Returns fun made => AreNamedIn source.parts made.sources := by
  rw [template]
  refine returns_bind (placedSlots_returns source.slots 0 [] source.layout) ?_
  rintro placed ⟨hplaces, -, -⟩
  refine returns_of_bind fun _ => ?_
  refine returns_bind (layoutFrom_names allowed placed 0 source.layout) fun layout hlayout => ?_
  refine returns_bind (slots_names allowed source.slots placed) fun slots hslots => ?_
  refine returns_of_bind fun lanes => returns_pure ?_
  have hplaced : AreNamedIn (source.placeNames.flatMap (slotParts source.slots))
      (slots.flatMap Blueprint.Slot.sources) := by
    refine hslots.mono fun part hpart => ?_
    obtain ⟨name, hname, hpart⟩ := List.mem_flatMap.1 hpart
    exact List.mem_flatMap.2 ⟨name, hplaces.names_sublist.subset hname, hpart⟩
  exact hlayout.left.append hplaced.left.right

end Compilation

end Blueprint

open Blueprint.Compilation in
/-- A blueprint that a compiler makes with a list of allowed sources names only those. -/
theorem Compiler.mem_of_mem_sources {compiler : Compiler} (h : compiler.IsReached)
    {names : List String} {source : Template} {blueprint : Blueprint}
    (hcompile : (compiler.compileAllowing (some names) source).1 = .ok blueprint) :
    ∀ name ∈ blueprint.sources, name ∈ names := by
  have hchecks : Checks (some names) (Blueprint.Compilation.template (some names) source) _
      source.parts fun _ => True := checks_template source
  obtain ⟨-, horder⟩ := (run_isOk_iff hchecks h.isFaithful).1 ⟨blueprint, hcompile⟩
  have hnamed := template_names (some names) source ⟨compiler.leaves, [], []⟩
  rw [compileAllowing, run_eq_ok_iff] at hcompile
  obtain ⟨-, rfl⟩ := hcompile
  exact hnamed.mem_of_isInOrder horder.each

namespace Render

/-- A list of allowed sources confines what a render consults: a blueprint compiled with it names
no other sources, so registries that agree on the list give the same prompt, or fail alike. The
list is that of the compiler, or one that was given for the template. -/
theorem render_eq_of_agreeOn {compiler : Compiler} (h : compiler.IsReached)
    {names : List String} {template : Template} {blueprint : Blueprint}
    (hcompile : compiler.allowed = some names ∧ (compiler.compile template).1 = .ok blueprint ∨
      (compiler.compileAllowing (some names) template).1 = .ok blueprint) :
    (∀ name ∈ blueprint.sources, name ∈ names) ∧
      ∀ registry other : Registry, registry.AgreeOn names other →
        ∀ (context : Json) (estimate : Estimator) (options : RenderOptions) (capacity : Tokens),
          render ⟨registry, context, estimate⟩ blueprint options capacity =
            render ⟨other, context, estimate⟩ blueprint options capacity := by
  have hallowed : (compiler.compileAllowing (some names) template).1 = .ok blueprint := by
    rcases hcompile with ⟨hnames, hmade⟩ | hmade
    · rw [Compiler.compile, hnames] at hmade
      exact hmade
    · exact hmade
  have hsources := Compiler.mem_of_mem_sources h hallowed
  refine ⟨hsources, fun registry other hagree context estimate options capacity => ?_⟩
  exact (render_reading ⟨registry, context, estimate⟩ (hagree.mono hsources) options
    capacity).symm

end Render

namespace Sample

/-- The answer of the source that the sample may name. -/
def loreSource : Source := fun _ _ => .array [.string "a", .string "b"]

/-- A reference to the source that the sample may name. -/
def loreReference : Template.Reference := ⟨some "lore", .null, none⟩

/-- A template that names a source in its layout, in a nested condition, in a loop and in a
message of the loop. -/
def loreTemplate : Template where
  id := "lore"
  task := "chat"
  name := "Lore"
  version := 1
  layout := [.message ⟨.system, none, some loreReference, false, none⟩,
    .slot ⟨"facts", none, none, none⟩]
  slots := [("facts", ⟨0, some (.all [.any [.negation (.present ⟨some "lore", .null, some "x"⟩),
      .nonEmpty loreReference]]), none,
    [.forEach ⟨loreReference, .ascending, none, none, .appending, none, none, false⟩
      [.message ⟨.user, none, some ⟨some "lore", .null, some "y"⟩, none, none⟩]], .null⟩)]
  attachments := []

/-- The blueprint of the template that names a source. -/
def loreBlueprint : Blueprint where
  id := "lore"
  task := "chat"
  name := "Lore"
  version := 1
  layout := [.message ⟨.system, .value ⟨.source "lore" [], .literal .null⟩, false, none, none⟩,
    .slot ⟨"facts", 0, none, none, true⟩]
  slots := [⟨"facts", 0,
    some (.all [.any [.negation (.present ⟨.source "lore" [.key "x"], .literal .null⟩),
      .nonEmpty ⟨.source "lore" [], .literal .null⟩]]), none,
    [.forEach ⟨⟨.source "lore" [], .literal .null⟩, .ascending, none, none, .appending, none, none,
        false⟩
      [.message ⟨.user, .value ⟨.source "lore" [.key "y"], .literal .null⟩, false, none, none⟩]],
    .null, 1⟩]
  order := [0]
  lanes := []

end Sample

namespace Render

/-- The template that names one source is compiled with only that allowed. Its prompt has the same
messages where there is another source as where there is none. -/
theorem render_eq_of_agreeOn_sample :
    ((Compiler.fresh (some ["lore"])).compile Sample.loreTemplate).1 = .ok Sample.loreBlueprint ∧
      Sample.loreBlueprint.sources ≠ [] ∧ (∀ name ∈ Sample.loreBlueprint.sources, name ∈ ["lore"]) ∧
      (Registry.mk [("lore", Sample.loreSource)]).get? "other" = none ∧
      render ⟨⟨[("lore", Sample.loreSource)]⟩, .null, Estimator.characters⟩ Sample.loreBlueprint
          .none 100 =
        render ⟨⟨[("lore", Sample.loreSource), ("other", fun context _ => context)]⟩, .null,
          Estimator.characters⟩ Sample.loreBlueprint .none 100 := by
  have hcompile : ((Compiler.fresh (some ["lore"])).compile Sample.loreTemplate).1 =
      .ok Sample.loreBlueprint := by cbv
  obtain ⟨hsources, hrender⟩ := render_eq_of_agreeOn (.fresh (some ["lore"]))
    (.inl ⟨rfl, hcompile⟩)
  refine ⟨hcompile, by decide, hsources, rfl, hrender _ _ ?_ _ _ _ _⟩
  intro name hname
  rw [List.mem_singleton.1 hname]
  rfl

end Render

end ChatPrompt
