import ChatPrompt.Blueprint.Cache
import ChatPrompt.Proofs.Indifference

/-!
# Caches cannot be seen

What was done with a compiler or with a cache of blueprints before is a list of uses, in any order
and with any outcome. None of them changes what is made of a template: a compiler makes the same
blueprint of it, or finds the same issues, as one that has read nothing. So does a cache of
blueprints, as long as templates of one identity and version are one template. Both caches hold
only what was made: a text or a template that does not go through leaves nothing under its name.
-/

namespace ChatPrompt

namespace Compiler

/-- A use of a compiler. -/
inductive Use where
  /-- A template is compiled. -/
  | compile (template : Template)
  /-- A template is compiled with a list of sources of its own. -/
  | compileAllowing (allowed : Option (List String)) (template : Template)
  /-- A document is compiled. -/
  | compileDocument (document : Json)
  /-- A text is compiled. -/
  | compileText (source : String)
  /-- A leaf is taken from its cache. -/
  | fetch (source : String)
  /-- A leaf of its cache is rendered. -/
  | render (serial : Nat) (scope : Scope)
  /-- Its cache is emptied. -/
  | clear

/-- A compiler after a use. -/
def afterUse (compiler : Compiler) : Use → Compiler
  | .compile template => (compiler.compile template).2
  | .compileAllowing allowed template => (compiler.compileAllowing allowed template).2
  | .compileDocument document => (compiler.compileDocument document).2
  | .compileText source => (compiler.compileText source).2
  | .fetch source => { compiler with leaves := (compiler.leaves.fetch source).2 }
  | .render serial scope => { compiler with leaves := (compiler.leaves.render serial scope).2 }
  | .clear => { compiler with leaves := compiler.leaves.clear }

/-- A compiler after some uses. -/
def after (compiler : Compiler) (uses : List Use) : Compiler := uses.foldl afterUse compiler

variable {compiler : Compiler}

/-- A compiler after a document is the one after the template that is read from it, if there is
one. -/
theorem compileDocument_snd (document : Json) :
    (compiler.compileDocument document).2 = compiler ∨
      ∃ template, (compiler.compileDocument document).2 = (compiler.compile template).2 := by
  rw [compileDocument]
  split
  · split
    · exact .inl rfl
    · exact .inr ⟨_, rfl⟩
  · exact .inl rfl

/-- A compiler after a text is the one after the document that is read from it, if there is one. -/
theorem compileText_snd (source : String) :
    (compiler.compileText source).2 = compiler ∨
      ∃ document, (compiler.compileText source).2 = (compiler.compileDocument document).2 := by
  rw [compileText]
  split
  · exact .inl rfl
  · exact .inr ⟨_, rfl⟩

/-- What a property of compilers has to be kept by: all that a document or a text can do to a
compiler is to have it compile a template. -/
theorem afterUse_induction {motive : Compiler → Prop} (hcompiler : motive compiler)
    (hcompile : ∀ allowed template, motive (compiler.compileAllowing allowed template).2)
    (hfetch : ∀ source, motive { compiler with leaves := (compiler.leaves.fetch source).2 })
    (hrender : ∀ serial scope,
      motive { compiler with leaves := (compiler.leaves.render serial scope).2 })
    (hclear : motive { compiler with leaves := compiler.leaves.clear }) (use : Use) :
    motive (compiler.afterUse use) := by
  have hdocument : ∀ document, motive (compiler.compileDocument document).2 := by
    intro document
    rcases compileDocument_snd document with hsame | ⟨template, hread⟩
    · rwa [hsame]
    · rw [hread]
      exact hcompile _ template
  cases use with
  | compile template => exact hcompile _ template
  | compileAllowing allowed template => exact hcompile allowed template
  | compileDocument document => exact hdocument document
  | compileText source =>
    rcases compileText_snd source with hsame | ⟨document, hread⟩
    · rwa [afterUse, hsame]
    · rw [afterUse, hread]
      exact hdocument document
  | fetch source => exact hfetch source
  | render serial scope => exact hrender serial scope
  | clear => exact hclear

/-- A compiler that was used is one that there can be. -/
theorem IsReached.afterUse (h : compiler.IsReached) (use : Use) :
    (compiler.afterUse use).IsReached :=
  afterUse_induction h h.compiled h.fetched h.rendered h.cleared use

/-- The sources that a compiler allows stay. -/
theorem allowed_afterUse (use : Use) : (compiler.afterUse use).allowed = compiler.allowed :=
  afterUse_induction (motive := fun used => used.allowed = compiler.allowed) rfl
    (fun _ _ => rfl) (fun _ => rfl) (fun _ _ => rfl) rfl use

/-- A compiler after some uses is one that there can be. -/
theorem IsReached.after (h : compiler.IsReached) (uses : List Use) :
    (compiler.after uses).IsReached := by
  induction uses generalizing compiler with
  | nil => exact h
  | cons use rest ih => exact ih (h.afterUse use)

theorem allowed_after (uses : List Use) : (compiler.after uses).allowed = compiler.allowed := by
  induction uses generalizing compiler with
  | nil => rfl
  | cons use rest ih => exact ih.trans (allowed_afterUse use)

open Blueprint.Compilation in
/-- A compiler does with a template what one does that has read nothing. -/
theorem IsReached.compileAllowing_eq (h : compiler.IsReached) (allowed : Option (List String))
    (template : Template) :
    (compiler.compileAllowing allowed template).1 =
      ((Compiler.fresh allowed).compile template).1 :=
  (isIndifferent_template template).run_eq Leaf.Cache.isFaithful_empty h.isFaithful

end Compiler

/-- A compiler does with each template what one does that has read nothing, and no text that
cannot be read has left anything in its cache. -/
structure Compiler.IsLikeNew (allowed : Option (List String)) (compiler : Compiler) : Prop where
  /-- A template becomes the same blueprint, or has the same issues. -/
  compile_eq : ∀ template,
    (compiler.compile template).1 = ((fresh allowed).compile template).1
  /-- So does a template with a list of sources of its own. -/
  compileAllowing_eq : ∀ others template,
    (compiler.compileAllowing others template).1 = ((fresh others).compile template).1
  /-- A text that cannot be read is not in the cache, and does not get into it. -/
  fetch_eq : ∀ source fault, Leaf.ofText source = .error fault →
    compiler.leaves.entries.lookup source = none ∧
      compiler.leaves.fetch source = (.error fault, compiler.leaves)

/-- A text that cannot be read is not in a cache, and leaves it as it is. -/
theorem Leaf.Cache.fetch_of_ofText_error {cache : Cache} (h : cache.IsFaithful) {source : String}
    {fault : Fault} (hread : ofText source = .error fault) :
    cache.entries.lookup source = none ∧ cache.fetch source = (.error fault, cache) := by
  have hnone : cache.entries.lookup source = none := by
    rw [Option.eq_none_iff_forall_ne_some]
    intro found hfound
    rw [h source found hfound] at hread
    cases hread
  refine ⟨hnone, ?_⟩
  rw [fetch, hnone, hread]

/-- A compiler that there can be is like a new one. -/
theorem Compiler.IsReached.isLikeNew {compiler : Compiler} (h : compiler.IsReached) :
    compiler.IsLikeNew compiler.allowed where
  compile_eq := h.compileAllowing_eq compiler.allowed
  compileAllowing_eq := h.compileAllowing_eq
  fetch_eq _ _ hread := Leaf.Cache.fetch_of_ofText_error h.isFaithful hread

namespace Blueprint.Cache

/-- A use of a cache of blueprints. -/
inductive Use where
  /-- A blueprint is taken from it. -/
  | fetch (template : Template)
  /-- A blueprint is removed. -/
  | evict (key : Key)
  /-- All blueprints are removed. -/
  | clear
  /-- Its compiler is used. -/
  | onCompiler (use : Compiler.Use)

/-- A cache after a use. -/
def afterUse (cache : Cache) : Use → Cache
  | .fetch template => (cache.fetch template).2
  | .evict key => (cache.evict key).2
  | .clear => cache.clear
  | .onCompiler use => { cache with compiler := cache.compiler.afterUse use }

/-- A cache after some uses. -/
def after (cache : Cache) (uses : List Use) : Cache := uses.foldl afterUse cache

/-- The template of which a use asks the blueprint. -/
def Use.template? : Use → Option Template
  | .fetch template => some template
  | _ => none

/-- The name under which the blueprint of a template is kept. -/
def keyOf (template : Template) : Key := (template.id, template.version)

/-- A cache holds what a new compiler makes of some templates, each under its name. -/
structure Holds (allowed : Option (List String)) (templates : List Template) (cache : Cache) :
    Prop where
  /-- Its compiler is one that there can be. -/
  reached : cache.compiler.IsReached
  /-- The sources that it allows. -/
  allowed_eq : cache.compiler.allowed = allowed
  /-- What is kept under a name was made of a template of that name. -/
  entries : ∀ entry ∈ cache.entries, ∃ template ∈ templates, keyOf template = entry.1 ∧
    ((Compiler.fresh allowed).compile template).1 = .ok entry.2.2

variable {allowed : Option (List String)} {templates : List Template} {cache : Cache}

theorem holds_empty {compiler : Compiler} (h : compiler.IsReached) :
    (empty compiler).Holds compiler.allowed [] :=
  ⟨h, rfl, fun _ hentry => nomatch hentry⟩

/-- The compiler of a cache is like a new one. -/
theorem Holds.isLikeNew (h : cache.Holds allowed templates) :
    cache.compiler.IsLikeNew allowed := by
  rw [← h.allowed_eq]
  exact h.reached.isLikeNew

/-- What comes from some templates comes from these and others. -/
theorem Holds.append (h : cache.Holds allowed templates) (others : List Template) :
    cache.Holds allowed (templates ++ others) := by
  refine ⟨h.reached, h.allowed_eq, fun entry hentry => ?_⟩
  obtain ⟨template, htemplate, hmade⟩ := h.entries entry hentry
  exact ⟨template, List.mem_append_left _ htemplate, hmade⟩

/-- A blueprint that is taken from a cache is put into it, if it can be made. -/
theorem Holds.fetch (h : cache.Holds allowed templates) (template : Template) :
    (cache.fetch template).2.Holds allowed (templates ++ [template]) := by
  have hbefore := (h.append [template]).entries
  have hcompile := h.isLikeNew.compile_eq template
  have hreached : (cache.compiler.compile template).2.IsReached := h.reached.compiled _ template
  have hallowed : (cache.compiler.compile template).2.allowed = allowed := h.allowed_eq
  rw [Cache.fetch]
  split
  · exact ⟨h.reached, h.allowed_eq, hbefore⟩
  · split
    · next issue compiler hfailed =>
      rw [hfailed] at hreached hallowed
      exact ⟨hreached, hallowed, hbefore⟩
    · next blueprint compiler hmade =>
      rw [hmade] at hcompile hreached hallowed
      refine ⟨hreached, hallowed, fun entry hentry => ?_⟩
      rcases List.mem_append.1 hentry with hin | hin
      · exact hbefore entry hin
      · rw [List.mem_singleton.1 hin]
        exact ⟨template, List.mem_append_right _ List.mem_cons_self, rfl, hcompile.symm⟩

/-- What a cache holds after a use comes from the templates before it and that of the use. -/
theorem Holds.afterUse (h : cache.Holds allowed templates) (use : Use) :
    (cache.afterUse use).Holds allowed (templates ++ use.template?.toList) := by
  cases use with
  | fetch template => exact h.fetch template
  | evict key =>
    have hmore := h.append []
    exact ⟨h.reached, h.allowed_eq,
      fun entry hentry => hmore.entries entry (List.mem_of_mem_filter hentry)⟩
  | clear => exact ⟨h.reached, h.allowed_eq, fun _ hentry => nomatch hentry⟩
  | onCompiler use =>
    have hmore := h.append []
    exact ⟨h.reached.afterUse use, (Compiler.allowed_afterUse use).trans h.allowed_eq,
      hmore.entries⟩

/-- What a cache holds after some uses comes from the templates before them and those of the
uses. -/
theorem Holds.after (h : cache.Holds allowed templates) (uses : List Use) :
    (cache.after uses).Holds allowed (templates ++ uses.filterMap Use.template?) := by
  induction uses generalizing cache templates with
  | nil =>
    rw [List.filterMap_nil, List.append_nil]
    exact h
  | cons use rest ih =>
    have hrest := ih (h.afterUse use)
    have htemplates : templates ++ use.template?.toList ++ rest.filterMap Use.template? =
        templates ++ (use :: rest).filterMap Use.template? := by
      rw [List.filterMap_cons, List.append_assoc]
      cases use.template? <;> rfl
    rwa [htemplates] at hrest

/-- A cache gives of a template what a new compiler makes of it, if no other template of its name
was compiled. -/
theorem Holds.fetch_eq (h : cache.Holds allowed templates) {template : Template}
    (hsame : ∀ other ∈ templates, keyOf other = keyOf template → other = template) :
    (cache.fetch template).1.map Prod.snd = ((Compiler.fresh allowed).compile template).1 := by
  have hcompile := h.isLikeNew.compile_eq template
  rw [Cache.fetch]
  split
  · next found hfound =>
    obtain ⟨before, after, hsplit, -⟩ := List.lookup_eq_some_iff.1 hfound
    obtain ⟨other, hother, hkey, hmade⟩ := h.entries ((template.id, template.version), found)
      (hsplit ▸ List.mem_append_right _ List.mem_cons_self)
    rw [← hsame other hother hkey, hmade]
    rfl
  · split
    · next issue compiler hfailed =>
      rw [← hcompile, hfailed]
      rfl
    · next blueprint compiler hmade =>
      rw [← hcompile, hmade]
      rfl

/-- A template that does not go through is not in a cache, and leaves its blueprints as they
are. -/
theorem fetch_of_error {template : Template} {issue : Issue}
    (h : (cache.fetch template).1 = .error issue) :
    cache.get? (keyOf template) = none ∧ (cache.fetch template).2.entries = cache.entries := by
  rw [Cache.fetch] at h ⊢
  split at h
  · cases h
  · next hnone =>
    split at h
    · exact ⟨hnone, rfl⟩
    · cases h

end Blueprint.Cache

open Blueprint (Cache Issue) in
/-- What was done with a compiler, and with a cache that has it, makes no difference to what they
do with a template afterwards: the compiler, before and in the cache, is like a new one that allows
the same sources, and the cache gives what a new compiler makes of the template, if no other
template of its name was compiled. A template that does not go through leaves no blueprint. -/
theorem Compiler.compile_after (allowed : Option (List String)) (before : List Use)
    (uses : List Cache.Use) :
    let compiler := (fresh allowed).after before
    let cache := (Cache.empty compiler).after uses
    compiler.IsLikeNew allowed ∧ cache.compiler.IsLikeNew allowed ∧
    (∀ template : Template,
      (∀ other ∈ uses.filterMap Cache.Use.template?,
        Cache.keyOf other = Cache.keyOf template → other = template) →
      (cache.fetch template).1.map Prod.snd = ((fresh allowed).compile template).1) ∧
    ∀ (template : Template) (issue : Issue), (cache.fetch template).1 = .error issue →
      cache.get? (Cache.keyOf template) = none ∧
        (cache.fetch template).2.entries = cache.entries := by
  have hreached := (IsReached.fresh allowed).after before
  have hlike := hreached.isLikeNew
  have hholds := (Cache.holds_empty hreached).after uses
  rw [allowed_after] at hlike hholds
  exact ⟨hlike, hholds.isLikeNew, fun _ hsame => hholds.fetch_eq hsame,
    fun _ _ hfailed => Cache.fetch_of_error hfailed⟩

namespace Sample

/-- The sample with its lane given twice, which does not go through. -/
def doubled : Template :=
  { template with version := 2, attachments := template.attachments ++ template.attachments }

/-- Some uses of a compiler: of the sample as it is and with its lane given twice, and its cache
emptied in between. -/
def compilerUses : List Compiler.Use :=
  [.compile doubled, .clear, .compileAllowing (some []) template, .fetch "\x7b\x7b"]

/-- Some uses of a cache with that compiler: of the sample as it is and with its lane given twice,
once with a blueprint removed. -/
def cacheUses : List Blueprint.Cache.Use :=
  [.fetch doubled, .fetch template, .onCompiler .clear, .evict ("chat", 1), .fetch template]

end Sample

open Blueprint (Cache) in
/-- After these uses the cache gives the blueprint of the sample, and has none of the sample with
its lane given twice. -/
theorem Compiler.compile_after_sample :
    let cache := (Cache.empty ((fresh none).after Sample.compilerUses)).after Sample.cacheUses
    (cache.fetch Sample.template).1.map Prod.snd = .ok Sample.blueprint ∧
      cache.get? (Cache.keyOf Sample.doubled) = none := by
  obtain ⟨-, -, hfetch, hfailed⟩ :=
    Compiler.compile_after none Sample.compilerUses Sample.cacheUses
  have htemplates : ∀ other ∈ Sample.cacheUses.filterMap Cache.Use.template?,
      other = Sample.doubled ∨ other = Sample.template := by
    intro other hother
    have hin : other ∈ [Sample.doubled, Sample.template, Sample.template] := hother
    simpa only [List.mem_cons, List.not_mem_nil, or_false, or_self] using hin
  have hone : ∀ other ∈ Sample.cacheUses.filterMap Cache.Use.template?,
      Cache.keyOf other = Cache.keyOf Sample.template → other = Sample.template := by
    intro other hother hkey
    rcases htemplates other hother with rfl | rfl
    · exact absurd hkey (by decide)
    · rfl
  have htwo : ∀ other ∈ Sample.cacheUses.filterMap Cache.Use.template?,
      Cache.keyOf other = Cache.keyOf Sample.doubled → other = Sample.doubled := by
    intro other hother hkey
    rcases htemplates other hother with rfl | rfl
    · rfl
    · exact absurd hkey (by decide)
  have hissue : ((fresh none).compile Sample.doubled).1 = .error (.repeatedLane "lore") := by cbv
  refine ⟨(hfetch Sample.template hone).trans (by cbv), ?_⟩
  have hmade := (hfetch Sample.doubled htwo).trans hissue
  cases hfetched : (((Cache.empty ((fresh none).after Sample.compilerUses)).after
      Sample.cacheUses).fetch Sample.doubled).1 with
  | error issue => exact (hfailed Sample.doubled issue hfetched).1
  | ok found =>
    rw [hfetched] at hmade
    cases hmade

end ChatPrompt
