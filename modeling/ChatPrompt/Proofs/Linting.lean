import ChatPrompt.Command.Run
import ChatPrompt.Proofs.Translation

/-!
# What is checked can be rendered

A check of a template and a render hold it to different lists of sources: the check to every list
that the settings have, the render only to one that they enforce. So the render allows at least as
much. A longer list of sources only lets more templates through, and the blueprint of a template
does not depend on the list; so what passes the check is compiled for the render as well, and as
the same blueprint. Where the settings enforce their list, or have none, both ways are the same.
-/

namespace ChatPrompt

/-- All sources that are allowed by the first of two lists, which may be missing, are allowed by
the second. -/
def AllowsMore (allowed more : Option (List String)) : Prop :=
  ∀ names ∈ more, ∃ fewer ∈ allowed, fewer ⊆ names

/-- A list that is missing allows all sources. -/
theorem allowsMore_none (allowed : Option (List String)) : AllowsMore allowed none :=
  fun _ hnames => nomatch hnames

theorem AllowsMore.refl (allowed : Option (List String)) : AllowsMore allowed allowed :=
  fun names hnames => ⟨names, hnames, List.Subset.refl names⟩

variable {allowed more : Option (List String)}

namespace Template

/-- A part that is in order stays so where more sources are allowed. Only what a reference reads
from is looked up in the list. -/
theorem Part.IsInOrder.mono {part : Part} (h : part.IsInOrder allowed)
    (hmore : AllowsMore allowed more) : part.IsInOrder more := by
  cases part with
  | target source way =>
    refine ⟨h.1, fun name hname names hnames => ?_⟩
    obtain ⟨fewer, hfewer, hsubset⟩ := hmore names hnames
    exact hsubset (h.2 name hname fewer hfewer)
  | text | path | expression | content | opening | anchor => exact h

/-- A template that is well formed stays so where more sources are allowed. -/
theorem IsWellFormed.mono {template : Template} (h : template.IsWellFormed allowed)
    (hmore : AllowsMore allowed more) : template.IsWellFormed more where
  place_known := h.place_known
  placed_once := h.placed_once
  parts_inOrder part hpart := (h.parts_inOrder part hpart).mono hmore
  keys_nodup := h.keys_nodup
  lanes_nodup := h.lanes_nodup
  groups_nodup := h.groups_nodup

end Template

namespace Compiler

/-- A template that goes through becomes the same blueprint where more sources are allowed. -/
theorem compile_fresh_mono (hmore : AllowsMore allowed more) {template : Template}
    {blueprint : Blueprint} (h : ((fresh allowed).compile template).1 = .ok blueprint) :
    ((fresh more).compile template).1 = .ok blueprint := by
  have hreached := IsReached.fresh allowed
  have hreached' := IsReached.fresh more
  have hformed := (hreached.makes_iff allowed template).1 ⟨blueprint, h⟩
  obtain ⟨made, hmade⟩ := (hreached'.makes_iff more template).2 (hformed.mono hmore)
  rw [(hreached.becomes h).unique (hreached'.becomes hmade)]
  exact hmade

/-- A document that goes through becomes the same blueprint where more sources are allowed. -/
theorem compileDocument_fresh_mono (hmore : AllowsMore allowed more) {document : Json}
    {blueprint : Blueprint} (h : ((fresh allowed).compileDocument document).1 = .ok blueprint) :
    ((fresh more).compileDocument document).1 = .ok blueprint := by
  rw [compileDocument] at h ⊢
  split at h
  · split at h
    · cases h
    · next template _ =>
      dsimp only at h ⊢
      cases hmade : ((fresh allowed).compile template).1 with
      | error issue =>
        rw [hmade] at h
        cases h
      | ok made =>
        rw [hmade] at h
        rw [compile_fresh_mono hmore hmade]
        exact h
  · cases h

end Compiler

namespace Settings

variable (settings : Settings)

/-- A render allows at least the sources that a check allows which is told none. -/
theorem allowsMore_enforcedSources :
    AllowsMore (settings.checkedSources none) settings.enforcedSources := by
  rw [enforcedSources]
  split
  · exact .refl settings.allowedSources
  · exact allowsMore_none _

/-- Both allow the same where the settings enforce their list or have none. -/
theorem enforcedSources_eq
    (h : settings.strictSources = true ∨ settings.allowedSources = none) :
    settings.enforcedSources = settings.checkedSources none := by
  rw [enforcedSources]
  split
  · rfl
  · next hlax =>
    have hnone := h.resolve_left hlax
    rw [checkedSources, hnone]
    rfl

end Settings

namespace Command

variable (files : Files Id) (settings : Settings) (template : String)

/-- The template in a file, as a check and a render find it. -/
def documentOf : Except Failure Json :=
  (readDocument files (templatePath files settings template)).run

/-- A check shows what it found of the document, if there is one. -/
theorem runLint_eq (sources : Option (List String)) :
    runLint files settings template sources =
      match documentOf files settings template with
      | .error failure => ⟨checkTitle (templatePath files settings template), some failure⟩
      | .ok document =>
        ⟨checkTitle (templatePath files settings template) ++
            checkLines (settings.check sources document),
          match settings.check sources document with
          | .ok _ => none
          | .error fault => some (.template fault)⟩ := by
  change (match documentOf files settings template with
      | .error failure => _
      | .ok document => _ : Outcome) = _
  cases documentOf files settings template with
  | error failure => rfl
  | ok document => rfl

/-- A check goes well where there is a document and the document passes. -/
theorem failure_runLint_eq_none_iff (sources : Option (List String)) :
    (runLint files settings template sources).failure = none ↔
      ∃ document blueprint, documentOf files settings template = .ok document ∧
        settings.check sources document = .ok blueprint := by
  rw [runLint_eq]
  cases documentOf files settings template with
  | error failure => simp
  | ok document =>
    cases hcheck : settings.check sources document with
    | error fault => simp [hcheck]
    | ok blueprint => simp [hcheck]

/-- What is rendered is compiled from the document, if there is one. -/
theorem run_readTemplate_eq (files : Files Id) (settings : Settings) (template : String) :
    (readTemplate files settings template).run =
      (documentOf files settings template).bind fun document =>
        (settings.compile document).mapError .template := by
  change ExceptT.bindCont (fun document => orFail .template (settings.compile document))
    (documentOf files settings template) = _
  cases documentOf files settings template with
  | error failure => rfl
  | ok document => rfl

/-- A template is read where there is a document and the document is compiled. -/
theorem run_readTemplate_eq_ok_iff (blueprint : Blueprint) :
    (readTemplate files settings template).run = Except.ok blueprint ↔
      ∃ document, documentOf files settings template = .ok document ∧
        settings.compile document = .ok blueprint := by
  rw [run_readTemplate_eq]
  cases documentOf files settings template with
  | error failure => simp [Except.bind]
  | ok document =>
    cases hcompile : settings.compile document with
    | error fault => simp [Except.bind, Except.mapError, hcompile]
    | ok made =>
      simp only [Except.bind, hcompile, Except.mapError, Except.ok.injEq, exists_eq_left']
      exact ⟨Except.ok.inj, congrArg Except.ok⟩

/-- What passes a check is compiled for a render, as the same blueprint, where the check is told
no sources. If the settings enforce their list of sources, or have none, what is compiled for a
render passes the check too. This holds of every document, and so of the template in a file. -/
theorem runLint_agrees :
    (∀ document blueprint, settings.check none document = .ok blueprint →
      settings.compile document = .ok blueprint) ∧
    ((runLint files settings template none).failure = none →
      ∃ document blueprint, documentOf files settings template = .ok document ∧
        settings.check none document = .ok blueprint ∧
        (readTemplate files settings template).run = Except.ok blueprint) ∧
    (settings.strictSources = true ∨ settings.allowedSources = none →
      (∀ document, settings.check none document = settings.compile document) ∧
      ((runLint files settings template none).failure = none ↔
        ∃ blueprint, (readTemplate files settings template).run = Except.ok blueprint)) := by
  have hall : ∀ document blueprint, settings.check none document = .ok blueprint →
      settings.compile document = .ok blueprint :=
    fun _ _ => Compiler.compileDocument_fresh_mono settings.allowsMore_enforcedSources
  refine ⟨hall, fun hpassed => ?_, fun hsame => ?_⟩
  · obtain ⟨document, blueprint, hdocument, hcheck⟩ :=
      (failure_runLint_eq_none_iff files settings template none).1 hpassed
    exact ⟨document, blueprint, hdocument, hcheck,
      (run_readTemplate_eq_ok_iff files settings template blueprint).2
        ⟨document, hdocument, hall document blueprint hcheck⟩⟩
  · have hboth : ∀ document, settings.check none document = settings.compile document := by
      intro document
      rw [Settings.check, Settings.compile, settings.enforcedSources_eq hsame]
    refine ⟨hboth, ?_⟩
    simp only [failure_runLint_eq_none_iff, run_readTemplate_eq_ok_iff, hboth]
    exact exists_comm

end Command

namespace Sample

open Command

/-- The text of a template with one message, which says what a source answers. -/
def sayingText (source : String) : String :=
  "\x7b\"id\":\"saying\",\"name\":\"Saying\",\"version\":1,\"layout\":[" ++
    "\x7b\"kind\":\"message\",\"role\":\"user\",\"from\":\"" ++ source ++ "\"\x7d]\x7d"

/-- Two files, of which one says the notes and one the plans. -/
def sayings : Files Id where
  text? path :=
    if path = "notes.json" then some (sayingText "notes")
    else if path = "plans.json" then some (sayingText "plans")
    else none
  has path := path == "notes.json" || path == "plans.json"
  names? _ := none

/-- Settings that list the notes only, and may enforce that. -/
def listingNotes (strict : Bool) : Settings :=
  { Settings.standard with allowedSources := some ["notes"], strictSources := strict }

end Sample

open Sample in
/-- The notes pass the check and are rendered where the list is not enforced. The plans do not pass,
so they are not rendered either where it is; where it is not, they are. -/
theorem Command.runLint_agrees_sayings :
    (∃ blueprint, (readTemplate sayings (listingNotes false) "notes.json").run =
        Except.ok blueprint) ∧
      (¬ ∃ blueprint, (readTemplate sayings (listingNotes true) "plans.json").run =
        Except.ok blueprint) ∧
      (runLint sayings (listingNotes false) "plans.json" none).failure.isSome ∧
      (readTemplate sayings (listingNotes false) "plans.json").run.isOk := by
  have hpassed : (runLint sayings (listingNotes false) "notes.json" none).failure = none :=
    Option.isNone_iff_eq_none.1 (by decide +kernel)
  have hfailed : (runLint sayings (listingNotes true) "plans.json" none).failure ≠ none :=
    Option.isSome_iff_ne_none.1 (by decide +kernel)
  obtain ⟨-, hlax, -⟩ := runLint_agrees sayings (listingNotes false) "notes.json"
  obtain ⟨-, -, hstrict⟩ := runLint_agrees sayings (listingNotes true) "plans.json"
  obtain ⟨_, blueprint, -, -, hread⟩ := hlax hpassed
  refine ⟨⟨blueprint, hread⟩, fun hmade => hfailed ((hstrict (.inl rfl)).2.2 hmade), ?_, ?_⟩
  · decide +kernel
  · decide +kernel

end ChatPrompt
