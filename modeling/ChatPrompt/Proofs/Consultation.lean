import ChatPrompt.Proofs.Charging
import ChatPrompt.Render.Prompt

/-!
# What a render can consult

The sources that a blueprint names can be listed without rendering it: they stand in what its
messages say, in the items of its loops and in its conditions, however deep these are nested.
A render asks no others. So two registries that have the same sources under the listed names
give the same prompt, whatever else either of them has. Each function of a render has one lemma
that says so of the part of the blueprint that it reads.
-/

namespace ChatPrompt

/-- Two registries have the same source, or both none, under each of some names. -/
def Registry.AgreeOn (names : List String) (registry other : Registry) : Prop :=
  ∀ name ∈ names, registry.get? name = other.get? name

namespace Registry.AgreeOn

variable {registry other : Registry} {names more : List String}

/-- Registries that agree on some names agree on fewer. -/
theorem mono (h : AgreeOn names registry other) (hsubset : ∀ name ∈ more, name ∈ names) :
    AgreeOn more registry other := fun name hname => h name (hsubset name hname)

/-- Registries that agree on two lists of names agree on the first. -/
theorem left (h : AgreeOn (names ++ more) registry other) : AgreeOn names registry other :=
  h.mono fun _ hname => List.mem_append_left more hname

/-- Registries that agree on two lists of names agree on the second. -/
theorem right (h : AgreeOn (names ++ more) registry other) : AgreeOn more registry other :=
  h.mono fun _ hname => List.mem_append_right names hname

end Registry.AgreeOn

namespace Blueprint

/-- The source that a reference names, if it names one. -/
def Reference.sources (reference : Reference) : List String :=
  match reference.target with
  | .source name _ => [name]
  | .scope _ => []

mutual

/-- The sources that a condition names. -/
def Condition.sources : Condition → List String
  | .present target => target.sources
  | .nonEmpty target => target.sources
  | .compare target _ _ => target.sources
  | .expression _ => []
  | .all conditions => conditionSources conditions
  | .any conditions => conditionSources conditions
  | .negation condition => condition.sources

/-- The sources that some conditions name. -/
def conditionSources : List Condition → List String
  | [] => []
  | condition :: rest => condition.sources ++ conditionSources rest

end

/-- The sources that what a message says names. -/
def Content.sources : Content → List String
  | .text _ => []
  | .value reference => reference.sources

mutual

/-- The sources that a step of a plan names. -/
def PlanNode.sources : PlanNode → List String
  | .message details => details.content.sources
  | .forEach header body => header.source.sources ++ planSources body
  | .branch condition whenTrue whenFalse =>
    condition.sources ++ (planSources whenTrue ++ planSources whenFalse)

/-- The sources that the steps of a plan name. -/
def planSources : List PlanNode → List String
  | [] => []
  | node :: rest => node.sources ++ planSources rest

end

/-- The sources that an element of the layout names. -/
def LayoutNode.sources : LayoutNode → List String
  | .message details => details.content.sources
  | .slot _ => []

/-- The sources that a slot names. -/
def Slot.sources (slot : Slot) : List String :=
  slot.condition.toList.flatMap Condition.sources ++ planSources slot.plan

end Blueprint

/-- The sources that a blueprint names. -/
def Blueprint.sources (blueprint : Blueprint) : List String :=
  blueprint.layout.flatMap LayoutNode.sources ++ blueprint.slots.flatMap Slot.sources

namespace Render

/-- The same data and costs with the sources of another registry. -/
def Environment.reading (env : Environment) (registry : Registry) : Environment :=
  { env with sources := registry }

variable (env : Environment) {other : Registry}

/-- A reference finds the same where the sources agree on the one that it names. -/
theorem find_reading (scope : Scope) {reference : Blueprint.Reference}
    (h : env.sources.AgreeOn reference.sources other) :
    (env.reading other).find scope reference = env.find scope reference := by
  obtain ⟨target, arguments⟩ := reference
  cases target with
  | scope path => rfl
  | source name steps =>
    have hname : env.sources.get? name = other.get? name := h name List.mem_cons_self
    simp only [Environment.find, Environment.reading, Registry.resolve, hname]

/-- A reference has the same value. -/
theorem resolve_reading (scope : Scope) {reference : Blueprint.Reference}
    (h : env.sources.AgreeOn reference.sources other) :
    (env.reading other).resolve scope reference = env.resolve scope reference := by
  rw [Environment.resolve, find_reading env scope h, Environment.resolve]

mutual

/-- A condition holds alike. -/
theorem holds_reading (scope : Scope) (condition : Blueprint.Condition)
    (h : env.sources.AgreeOn condition.sources other) :
    (env.reading other).holds scope condition = env.holds scope condition := by
  cases condition with
  | present target | nonEmpty target | compare target op value =>
    rw [Environment.holds, resolve_reading env scope h, Environment.holds]
  | expression expr => rw [Environment.holds, Environment.holds]
  | all conditions =>
    rw [Environment.holds, Environment.holds]
    exact holdsAll_reading scope conditions h
  | any conditions =>
    rw [Environment.holds, Environment.holds]
    exact holdsAny_reading scope conditions h
  | negation inner => rw [Environment.holds, holds_reading scope inner h, Environment.holds]

theorem holdsAll_reading (scope : Scope) (conditions : List Blueprint.Condition)
    (h : env.sources.AgreeOn (Blueprint.conditionSources conditions) other) :
    (env.reading other).holdsAll scope conditions = env.holdsAll scope conditions := by
  cases conditions with
  | nil => rw [Environment.holdsAll, Environment.holdsAll]
  | cons first rest =>
    rw [Environment.holdsAll, holds_reading scope first h.left, holdsAll_reading scope rest h.right,
      Environment.holdsAll]

theorem holdsAny_reading (scope : Scope) (conditions : List Blueprint.Condition)
    (h : env.sources.AgreeOn (Blueprint.conditionSources conditions) other) :
    (env.reading other).holdsAny scope conditions = env.holdsAny scope conditions := by
  cases conditions with
  | nil => rw [Environment.holdsAny, Environment.holdsAny]
  | cons first rest =>
    rw [Environment.holdsAny, holds_reading scope first h.left, holdsAny_reading scope rest h.right,
      Environment.holdsAny]

end

/-- A message says the same. -/
theorem text_reading (scope : Scope) {content : Blueprint.Content}
    (h : env.sources.AgreeOn content.sources other) :
    (env.reading other).text scope content = env.text scope content := by
  cases content with
  | text leaf => rfl
  | value reference => rw [Environment.text, resolve_reading env scope h, Environment.text]

theorem say_reading (scope : Scope) {details : Blueprint.Message}
    (h : env.sources.AgreeOn details.content.sources other) (ledger : Ledger) :
    say (env.reading other) scope details ledger = say env scope details ledger := by
  rw [say, text_reading env scope h, say]
  rfl

/-- A loop has the same items. -/
theorem loopItems_reading (scope : Scope) {header : Blueprint.Loop}
    (h : env.sources.AgreeOn header.source.sources other) :
    loopItems (env.reading other) scope header = loopItems env scope header := by
  rw [loopItems, Environment.items, resolve_reading env scope h, loopItems, Environment.items]

/-- Items are taken alike, given that they are run alike. -/
theorem takeItems_reading (header : Blueprint.Loop) (own : Option Nat) (scope : Scope)
    (body : Scope → Ledger → Step) (items : List Json) (index : Nat) (state : LoopState) :
    takeItems (env.reading other) header own scope body items index state =
      takeItems env header own scope body items index state := by
  have hrun : ∀ item index state, itemRun (env.reading other) header scope body index item state =
      itemRun env header scope body index item state := fun _ _ _ => rfl
  induction items generalizing index state with
  | nil => rfl
  | cons item rest ih => simp only [takeItems_cons, hrun, ih]

mutual

/-- A node of a plan does the same. -/
theorem runNode_reading (scope : Scope) (atomic : Bool) (node : Blueprint.PlanNode)
    (h : env.sources.AgreeOn node.sources other) (ledger : Ledger) :
    runNode (env.reading other) scope atomic node ledger =
      runNode env scope atomic node ledger := by
  cases node with
  | message details =>
    rw [runNode, runNode]
    exact say_reading env scope h ledger
  | forEach header body =>
    rw [Blueprint.PlanNode.sources] at h
    have hbody : (fun inner before => runNodes (env.reading other) inner true body before) =
        fun inner before => runNodes env inner true body before :=
      funext fun inner => funext fun before => runNodes_reading inner true body h.right before
    rw [runNode, runNode, hbody, runLoop, loopItems_reading env scope h.left, runLoop]
    simp only [takeItems_reading]
  | branch condition whenTrue whenFalse =>
    rw [Blueprint.PlanNode.sources] at h
    rw [runNode, holds_reading env scope condition h.left,
      runNodes_reading scope atomic whenTrue h.right.left,
      runNodes_reading scope atomic whenFalse h.right.right, runNode]

theorem runNodes_reading (scope : Scope) (atomic : Bool) (nodes : List Blueprint.PlanNode)
    (h : env.sources.AgreeOn (Blueprint.planSources nodes) other) (ledger : Ledger) :
    runNodes (env.reading other) scope atomic nodes ledger =
      runNodes env scope atomic nodes ledger := by
  cases nodes with
  | nil => rw [runNodes, runNodes]
  | cons node rest =>
    rw [Blueprint.planSources] at h
    rw [runNodes_cons, runNodes_cons, runNode_reading scope atomic node h.left,
      runNodes_reading scope atomic rest h.right]

end

/-- A slot is filled alike. -/
theorem fillSlot_reading {slot : Blueprint.Slot} (h : env.sources.AgreeOn slot.sources other)
    (ledger : Ledger) : fillSlot (env.reading other) slot ledger = fillSlot env slot ledger := by
  have hwanted : isWanted (env.reading other) slot = isWanted env slot := by
    rw [Blueprint.Slot.sources] at h
    rw [isWanted, isWanted]
    cases hcondition : slot.condition with
    | none => rfl
    | some condition =>
      rw [hcondition, Option.toList_some, List.flatMap_singleton] at h
      exact holds_reading env env.root condition h.left
  have hplan := runNodes_reading env env.root false slot.plan h.right
  have hroot : (env.reading other).root = env.root := rfl
  rw [fillSlot, hwanted, hroot, fillSlot]
  simp only [hplan]

theorem fillSlots_reading {blueprint : Blueprint}
    (h : env.sources.AgreeOn (blueprint.slots.flatMap Blueprint.Slot.sources) other)
    (prepared : PreparedLayout) (order : List Nat) (ledger : Ledger) :
    fillSlots (env.reading other) blueprint prepared order ledger =
      fillSlots env blueprint prepared order ledger := by
  induction order generalizing ledger with
  | nil => rfl
  | cons number rest ih =>
    rw [fillSlots, fillSlots]
    cases hslot : blueprint.slots[number]? with
    | none => exact ih ledger
    | some slot =>
      have hin : slot ∈ blueprint.slots := List.mem_of_getElem? hslot
      have hslot : fillSlot (env.reading other) slot ledger = fillSlot env slot ledger :=
        fillSlot_reading env
          (h.mono fun name hname => List.mem_flatMap.2 ⟨slot, hin, hname⟩) ledger
      simp only [hslot, ih]

/-- An element of the layout has the same texts. -/
theorem prepareNode_reading (index : Nat) {node : Blueprint.LayoutNode}
    (h : env.sources.AgreeOn node.sources other) :
    prepareNode (env.reading other) index node = prepareNode env index node := by
  cases node with
  | slot place => rfl
  | message details =>
    have hroot : (env.reading other).root = env.root := rfl
    rw [prepareNode, hroot, text_reading env env.root h, prepareNode]

theorem prepare_reading {blueprint : Blueprint}
    (h : env.sources.AgreeOn (blueprint.layout.flatMap Blueprint.LayoutNode.sources) other)
    (ledger : Ledger) :
    prepare (env.reading other) blueprint ledger = prepare env blueprint ledger := by
  have hnodes : (blueprint.layout.mapIdx fun index node =>
      prepareNode (env.reading other) index node) =
        blueprint.layout.mapIdx fun index node => prepareNode env index node := by
    simp only [List.mapIdx_eq_zipIdx_map]
    refine List.map_congr_left fun entry hentry => ?_
    have hin : entry.1 ∈ blueprint.layout := List.fst_mem_of_mem_zipIdx hentry
    exact prepareNode_reading env entry.2
      (h.mono fun name hname => List.mem_flatMap.2 ⟨entry.1, hin, hname⟩)
  rw [prepare, hnodes, prepare]
  rfl

theorem assemble_reading (nodes : List PreparedNode) (buffers : Buffers) (ledger : Ledger) :
    assemble (env.reading other) nodes buffers ledger = assemble env nodes buffers ledger := by
  have hsettle : settleText (env.reading other) = settleText env := rfl
  induction nodes generalizing buffers ledger with
  | nil => rfl
  | cons node rest ih =>
    cases node with
    | omitted => exact ih buffers ledger
    | message held openEnded anchor => simp only [assemble, hsettle, ih]
    | slot name number omitIfEmpty header footer => simp only [assemble, hsettle, ih]

/-- A render gives the same prompt, or fails alike, with registries that agree on the sources
that the blueprint names. -/
theorem render_reading {blueprint : Blueprint} (h : env.sources.AgreeOn blueprint.sources other)
    (options : RenderOptions) (capacity : Tokens) :
    render (env.reading other) blueprint options capacity =
      render env blueprint options capacity := by
  have hestimate : (env.reading other).estimate = env.estimate := rfl
  rw [Blueprint.sources] at h
  rw [render, renderOver, prepare_reading env h.left, render, renderOver]
  simp only [fillSlots_reading env h.right, assemble_reading, hestimate]

end Render

end ChatPrompt
