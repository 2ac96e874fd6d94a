import ChatPrompt.Blueprint.Compilation
import ChatPrompt.Proofs.WellFormed
import Mathlib

/-!
# What a compilation checks

A part of a compilation notes no issue exactly where the parts of the template that it goes
through are in order and their fixed keys are all new; it notes issues behind those found
before, and never takes one back. This is said of each part of a compilation by one condition
that fits together: two parts one after the other check the parts of both. The leaves come
from a cache, which has to hold for each text what reading it gives.
-/

namespace ChatPrompt

/-- Each text of a cache is there with the leaf that it is read as. -/
def Leaf.Cache.IsFaithful (cache : Cache) : Prop :=
  ∀ source found, cache.entries.lookup source = some found → ofText source = .ok found.2

namespace Leaf.Cache

/-- A cache with nothing in it holds nothing wrong. -/
theorem isFaithful_empty : empty.IsFaithful :=
  fun _ _ hfound => absurd hfound (by simp [empty])

variable {cache : Cache} (h : cache.IsFaithful)

include h

/-- A fetched leaf is what its text is read as. -/
theorem fetch_eq_ofText (source : String) :
    (cache.fetch source).1.map Prod.snd = ofText source := by
  rw [fetch]
  split
  · next found hfound => exact (h source found hfound).symm
  · split
    · next fault hfault => exact hfault.symm
    · next leaf hleaf => exact hleaf.symm

/-- Fetching a leaf puts nothing wrong into a cache. -/
theorem isFaithful_fetch (source : String) : (cache.fetch source).2.IsFaithful := by
  rw [fetch]
  split
  · exact h
  · split
    · exact h
    · next hnone leaf hleaf =>
      intro other found hfound
      rw [List.lookup_append] at hfound
      cases hother : cache.entries.lookup other with
      | some kept =>
        rw [hother, Option.some_or] at hfound
        exact h other found (hother.trans hfound)
      | none =>
        rw [hother, Option.none_or, List.lookup_cons] at hfound
        split at hfound
        · next hsame =>
          rw [beq_iff_eq] at hsame
          rw [← Option.some.inj hfound, hsame]
          exact hleaf
        · cases hfound

end Leaf.Cache

namespace Blueprint.Compilation

open Template

variable {α β : Type}

/-- What a part of a compilation keeps up, whatever it finds: the cache holds nothing wrong,
and the issues found before stay. -/
def Grows (compilation : Compilation α) : Prop :=
  ∀ progress : Progress, progress.leaves.IsFaithful →
    (compilation progress).2.leaves.IsFaithful ∧
      progress.issues <+: (compilation progress).2.issues

/-- A value that is made at once finds nothing. -/
theorem grows_pure (value : α) : Grows (pure value : Compilation α) :=
  fun _ hleaves => ⟨hleaves, List.prefix_refl _⟩

/-- Two parts one after the other. -/
theorem Grows.bind {first : Compilation α} {next : α → Compilation β} (hfirst : Grows first)
    (hnext : ∀ value, Grows (next value)) : Grows (first >>= next) := by
  intro progress hleaves
  obtain ⟨hfaithful, hissues⟩ := hfirst progress hleaves
  obtain ⟨hlater, hmore⟩ := hnext (first progress).1 (first progress).2 hfaithful
  exact ⟨hlater, hissues.trans hmore⟩

/-- Noting an issue keeps those found before. -/
theorem grows_note (issue : Issue) : Grows (note issue) :=
  fun _ hleaves => ⟨hleaves, List.prefix_append _ _⟩

/-- Parts are in order and their fixed keys are new after some keys. -/
structure InOrder (allowed : Option (List String)) (met : List String) (parts : List Part) :
    Prop where
  /-- Each part is in order. -/
  each : ∀ part ∈ parts, part.IsInOrder allowed
  /-- No two of their fixed keys are the same. -/
  keys_nodup : (fixedKeys parts).Nodup
  /-- None of their fixed keys was met. -/
  keys_new : ∀ key ∈ fixedKeys parts, key ∉ met

variable {allowed : Option (List String)}

/-- Parts are in order after some keys where the first ones are, and the others after the
fixed keys of those. -/
theorem inOrder_append_iff {met : List String} {first others : List Part} :
    InOrder allowed met (first ++ others) ↔
      InOrder allowed met first ∧ InOrder allowed (met ++ fixedKeys first) others := by
  have hkeys : fixedKeys (first ++ others) = fixedKeys first ++ fixedKeys others :=
    List.filterMap_append
  constructor
  · rintro ⟨heach, hnodup, hnew⟩
    rw [hkeys] at hnodup hnew
    obtain ⟨hfirst, hothers, hapart⟩ := List.nodup_append.1 hnodup
    refine ⟨⟨fun part hpart => heach part (List.mem_append_left _ hpart), hfirst,
      fun key hkey => hnew key (List.mem_append_left _ hkey)⟩,
      fun part hpart => heach part (List.mem_append_right _ hpart), hothers, ?_⟩
    intro key hkey hmet
    rcases List.mem_append.1 hmet with hin | hin
    · exact hnew key (List.mem_append_right _ hkey) hin
    · exact hapart key hin key hkey rfl
  · rintro ⟨⟨heach, hfirst, hnew⟩, hothers⟩
    refine ⟨?_, ?_, ?_⟩
    · intro part hpart
      exact (List.mem_append.1 hpart).elim (heach part) (hothers.each part)
    · rw [hkeys, List.nodup_append]
      refine ⟨hfirst, hothers.keys_nodup, ?_⟩
      rintro key hkey other hother rfl
      exact hothers.keys_new key hother (List.mem_append_right _ hkey)
    · intro key hkey hmet
      rw [hkeys] at hkey
      rcases List.mem_append.1 hkey with hin | hin
      · exact hnew key hin hmet
      · exact hothers.keys_new key hin (List.mem_append_left _ hmet)

/-- A part of a compilation notes no issue exactly where a condition holds and some parts of
the template are in order; then their fixed keys are met, and what it makes satisfies another
condition. -/
structure Checks (allowed : Option (List String)) (compilation : Compilation α)
    (condition : Prop) (parts : List Part) (Q : α → Prop) : Prop where
  /-- The cache and the issues found before are kept up. -/
  grows : Grows compilation
  /-- No issue is noted exactly where everything is in order. -/
  issues_eq_iff : ∀ progress : Progress, progress.leaves.IsFaithful →
    ((compilation progress).2.issues = progress.issues ↔
      condition ∧ InOrder allowed progress.anchors parts)
  /-- The fixed keys are met then. -/
  anchors_eq : ∀ progress : Progress, progress.leaves.IsFaithful →
    (compilation progress).2.issues = progress.issues →
      (compilation progress).2.anchors = progress.anchors ++ fixedKeys parts
  /-- What is made satisfies the condition then. -/
  returns : ∀ progress : Progress, progress.leaves.IsFaithful →
    (compilation progress).2.issues = progress.issues → Q (compilation progress).1

/-- Two parts one after the other, of which the second relies on what the first makes. -/
theorem Checks.bind {first : Compilation α} {next : α → Compilation β} {C D : Prop}
    {parts others : List Part} {Q : α → Prop} {R : β → Prop}
    (hfirst : Checks allowed first C parts Q) (hgrows : ∀ value, Grows (next value))
    (hnext : ∀ value, Q value → Checks allowed (next value) D others R) :
    Checks allowed (first >>= next) (C ∧ D) (parts ++ others) R := by
  -- no issue is noted altogether where none is noted by the first part and none by the second
  have hsplit : ∀ progress : Progress, progress.leaves.IsFaithful →
      (((first >>= next) progress).2.issues = progress.issues ↔
        (first progress).2.issues = progress.issues ∧
          (next (first progress).1 (first progress).2).2.issues = (first progress).2.issues) := by
    intro progress hleaves
    obtain ⟨hfaithful, hissues⟩ := hfirst.grows progress hleaves
    obtain ⟨-, hmore⟩ := hgrows (first progress).1 (first progress).2 hfaithful
    refine ⟨fun hall => ?_, fun ⟨hone, htwo⟩ => htwo.trans hone⟩
    have hone : (first progress).2.issues = progress.issues :=
      (hissues.eq_of_length_le (hall ▸ hmore.length_le)).symm
    exact ⟨hone, hall.trans hone.symm⟩
  refine ⟨hfirst.grows.bind hgrows, ?_, ?_, ?_⟩
  · intro progress hleaves
    obtain ⟨hfaithful, -⟩ := hfirst.grows progress hleaves
    rw [hsplit progress hleaves, inOrder_append_iff]
    constructor
    · rintro ⟨hone, htwo⟩
      obtain ⟨hC, hparts⟩ := (hfirst.issues_eq_iff progress hleaves).1 hone
      have hD := ((hnext _ (hfirst.returns progress hleaves hone)).issues_eq_iff _ hfaithful).1 htwo
      rw [hfirst.anchors_eq progress hleaves hone] at hD
      exact ⟨⟨hC, hD.1⟩, hparts, hD.2⟩
    · rintro ⟨⟨hC, hD⟩, hparts, hothers⟩
      have hone := (hfirst.issues_eq_iff progress hleaves).2 ⟨hC, hparts⟩
      refine ⟨hone, ?_⟩
      rw [← hfirst.anchors_eq progress hleaves hone] at hothers
      exact ((hnext _ (hfirst.returns progress hleaves hone)).issues_eq_iff _ hfaithful).2
        ⟨hD, hothers⟩
  · intro progress hleaves hall
    obtain ⟨hfaithful, -⟩ := hfirst.grows progress hleaves
    obtain ⟨hone, htwo⟩ := (hsplit progress hleaves).1 hall
    have hlater := hnext _ (hfirst.returns progress hleaves hone)
    have hkeys : fixedKeys (parts ++ others) = fixedKeys parts ++ fixedKeys others :=
      List.filterMap_append
    rw [hkeys, ← List.append_assoc, ← hfirst.anchors_eq progress hleaves hone]
    exact hlater.anchors_eq _ hfaithful htwo
  · intro progress hleaves hall
    obtain ⟨hfaithful, -⟩ := hfirst.grows progress hleaves
    obtain ⟨hone, htwo⟩ := (hsplit progress hleaves).1 hall
    exact (hnext _ (hfirst.returns progress hleaves hone)).returns _ hfaithful htwo

/-- A part of a compilation notes no issue exactly where some parts of the template are in
order. -/
abbrev Covers (allowed : Option (List String)) (compilation : Compilation α)
    (parts : List Part) : Prop :=
  Checks allowed compilation True parts fun _ => True

/-- What is checked, said of other parts with the same fixed keys. -/
theorem Checks.restate {compilation : Compilation α} {C D : Prop} {parts others : List Part}
    {Q : α → Prop} (h : Checks allowed compilation C parts Q)
    (hiff : ∀ met, C ∧ InOrder allowed met parts ↔ D ∧ InOrder allowed met others)
    (hkeys : fixedKeys parts = fixedKeys others) : Checks allowed compilation D others Q where
  grows := h.grows
  issues_eq_iff progress hleaves := (h.issues_eq_iff progress hleaves).trans (hiff _)
  anchors_eq progress hleaves hnone := hkeys ▸ h.anchors_eq progress hleaves hnone
  returns := h.returns

/-- What is checked, said in other words. -/
theorem Checks.weaken {compilation : Compilation α} {C D : Prop} {parts : List Part}
    {Q R : α → Prop} (h : Checks allowed compilation C parts Q) (hcondition : C ↔ D)
    (hreturns : ∀ value, Q value → R value) : Checks allowed compilation D parts R where
  grows := h.grows
  issues_eq_iff progress hleaves := by rw [h.issues_eq_iff progress hleaves, hcondition]
  anchors_eq := h.anchors_eq
  returns progress hleaves hnone := hreturns _ (h.returns progress hleaves hnone)

/-- Nothing is in order always. -/
theorem inOrder_nil (met : List String) : InOrder allowed met [] :=
  ⟨fun _ hpart => (nomatch hpart), List.nodup_nil, fun _ hkey => (nomatch hkey)⟩

/-- A value that is made at once checks nothing. -/
theorem checks_pure {Q : α → Prop} {value : α} (h : Q value) :
    Checks allowed (pure value : Compilation α) True [] Q where
  grows := grows_pure value
  issues_eq_iff _ _ := iff_of_true rfl ⟨trivial, inOrder_nil _⟩
  anchors_eq _ _ _ := (List.append_nil _).symm
  returns _ _ _ := h

theorem covers_pure (value : α) : Covers allowed (pure value : Compilation α) [] :=
  checks_pure trivial

/-- Two parts one after the other check the parts of both. -/
theorem Checks.followedBy {first : Compilation α} {next : α → Compilation β} {C D : Prop}
    {parts others : List Part} {Q : α → Prop} {R : β → Prop}
    (hfirst : Checks allowed first C parts Q)
    (hnext : ∀ value, Checks allowed (next value) D others R) :
    Checks allowed (first >>= next) (C ∧ D) (parts ++ others) R :=
  hfirst.bind (fun value => (hnext value).grows) fun value _ => hnext value

theorem Covers.bind {first : Compilation α} {next : α → Compilation β} {D : Prop}
    {parts others : List Part} {R : β → Prop} (hfirst : Covers allowed first parts)
    (hnext : ∀ value, Checks allowed (next value) D others R) :
    Checks allowed (first >>= next) D (parts ++ others) R :=
  (Checks.followedBy hfirst hnext).weaken (and_iff_right trivial) fun _ hvalue => hvalue

theorem Checks.map {first : Compilation α} {C : Prop} {parts : List Part} {Q : α → Prop}
    {R : β → Prop} {f : α → β} (hfirst : Checks allowed first C parts Q)
    (hmade : ∀ value, Q value → R (f value)) :
    Checks allowed (first >>= fun value => pure (f value)) C parts R := by
  have hboth : Checks allowed (first >>= fun value => pure (f value)) (C ∧ True)
      (parts ++ []) R :=
    hfirst.bind (fun value => grows_pure (f value))
      fun value hvalue => checks_pure (hmade value hvalue)
  rw [List.append_nil] at hboth
  exact hboth.weaken (and_iff_left trivial) fun _ hvalue => hvalue

theorem Covers.map {first : Compilation α} {parts : List Part}
    (hfirst : Covers allowed first parts) (f : α → β) :
    Covers allowed (first >>= fun value => pure (f value)) parts :=
  Checks.map hfirst fun _ _ => trivial

/-- An issue is noted where something is not in order. -/
theorem checks_note {next : Unit → Compilation α} {C : Prop} {parts : List Part}
    {Q : α → Prop} (issue : Issue) (hrefused : ∀ met, ¬(C ∧ InOrder allowed met parts))
    (hnext : ∀ value, Grows (next value)) :
    Checks allowed (note issue >>= next) C parts Q := by
  have hnoted : ∀ progress : Progress, progress.leaves.IsFaithful →
      ((note issue >>= next) progress).2.issues ≠ progress.issues := by
    intro progress hleaves heq
    obtain ⟨-, hmore⟩ := hnext () (note issue progress).2 hleaves
    have hle := hmore.length_le
    have hlonger : (note issue progress).2.issues.length = progress.issues.length + 1 :=
      List.length_append
    have hsame := congrArg List.length heq
    change ((next () (note issue progress).2).2.issues).length = _ at hsame
    omega
  exact ⟨(grows_note issue).bind hnext,
    fun progress hleaves => iff_of_false (hnoted progress hleaves) (hrefused _),
    fun progress hleaves heq => absurd heq (hnoted progress hleaves),
    fun progress hleaves heq => absurd heq (hnoted progress hleaves)⟩

/-- An issue is noted where a part is not in order. -/
theorem covers_note {next : Unit → Compilation α} {parts : List Part} (issue : Issue)
    (part : Part) (hpart : ¬ part.IsInOrder allowed) (hin : part ∈ parts)
    (hnext : ∀ value, Grows (next value)) : Covers allowed (note issue >>= next) parts :=
  checks_note issue (fun _ hboth => hpart (hboth.2.each part hin)) hnext

/-- One part without a fixed key is in order by itself. -/
theorem inOrder_singleton_iff {met : List String} {part : Part} (hkey : part.fixedKey? = none) :
    InOrder allowed met [part] ↔ part.IsInOrder allowed := by
  have hkeys : fixedKeys [part] = [] := by rw [fixedKeys, List.filterMap_cons, hkey]; rfl
  refine ⟨fun h => h.each part List.mem_cons_self, fun h => ⟨?_, ?_, ?_⟩⟩
  · intro other hother
    rw [List.mem_singleton.1 hother]
    exact h
  · rw [hkeys]
    exact List.nodup_nil
  · rw [hkeys]
    exact fun _ hin => nomatch hin

/-- A part that is in order, without a fixed key, is passed over. -/
theorem checks_pure_of_isInOrder {Q : α → Prop} {value : α} {part : Part}
    (hpart : part.IsInOrder allowed) (hkey : part.fixedKey? = none) (h : Q value) :
    Checks allowed (pure value : Compilation α) True [part] Q where
  grows := grows_pure value
  issues_eq_iff _ _ := iff_of_true rfl ⟨trivial, (inOrder_singleton_iff hkey).2 hpart⟩
  anchors_eq progress _ _ := by
    rw [fixedKeys, List.filterMap_cons, hkey]
    exact (List.append_nil _).symm
  returns _ _ _ := h

/-- A part that is in order, without a fixed key, may come first. -/
theorem Covers.cons {compilation : Compilation α} {part : Part} {parts : List Part}
    (h : Covers allowed compilation parts) (hpart : part.IsInOrder allowed)
    (hkey : part.fixedKey? = none) : Covers allowed compilation (part :: parts) := by
  have hfirst : Covers allowed (pure () : Compilation Unit) [part] :=
    checks_pure_of_isInOrder hpart hkey trivial
  exact hfirst.bind fun _ => h

/-- Taking a text as a leaf gives what it is read as and notes nothing, or notes why it cannot
be read. -/
theorem leaf_apply (here : Location) (source : String) {progress : Progress}
    (hleaves : progress.leaves.IsFaithful) :
    (∃ found, Leaf.ofText source = .ok found ∧ leaf here source progress =
      (some found, { progress with leaves := (progress.leaves.fetch source).2 })) ∨
    ∃ fault, Leaf.ofText source = .error fault ∧ leaf here source progress =
      (none, { progress with
        leaves := (progress.leaves.fetch source).2
        issues := progress.issues ++ [.leaf here fault] }) := by
  have hread := Leaf.Cache.fetch_eq_ofText hleaves source
  rw [leaf]
  cases hfetch : (progress.leaves.fetch source).1 with
  | ok found =>
    rw [hfetch] at hread
    refine .inl ⟨found.2, hread.symm, ?_⟩
    simp only [bind, StateT.bind, get, getThe, MonadStateOf.get, StateT.get, set, StateT.set, pure,
      hfetch]
    rfl
  | error fault =>
    rw [hfetch] at hread
    refine .inr ⟨fault, hread.symm, ?_⟩
    simp only [bind, StateT.bind, get, getThe, MonadStateOf.get, StateT.get, set, StateT.set, pure,
      hfetch]
    rfl

/-- A text is in order if it is a leaf. -/
theorem checks_leaf (here : Location) (source : String) :
    Checks allowed (leaf here source) True [.text source]
      fun made => ∃ found, made = some found ∧ Leaf.ofText source = .ok found := by
  have hin : ∀ met, (True ∧ InOrder allowed met [.text source]) ↔
      ∃ found, Leaf.ofText source = .ok found := by
    intro met
    rw [true_and, inOrder_singleton_iff rfl]
    rfl
  refine ⟨?_, ?_, ?_, ?_⟩
  · intro progress hleaves
    have hfaithful := Leaf.Cache.isFaithful_fetch hleaves source
    rcases leaf_apply here source hleaves with ⟨found, -, happly⟩ | ⟨fault, -, happly⟩
    · rw [happly]
      exact ⟨hfaithful, List.prefix_refl _⟩
    · rw [happly]
      exact ⟨hfaithful, List.prefix_append _ _⟩
  · intro progress hleaves
    rw [hin]
    rcases leaf_apply here source hleaves with ⟨found, hread, happly⟩ | ⟨fault, hread, happly⟩
    · rw [happly]
      exact iff_of_true rfl ⟨found, hread⟩
    · rw [happly, hread]
      exact iff_of_false (by simp) (by simp)
  · intro progress hleaves hnone
    rcases leaf_apply here source hleaves with ⟨found, -, happly⟩ | ⟨fault, -, happly⟩
    · rw [happly]
      exact (List.append_nil _).symm
    · rw [happly] at hnone
      simp at hnone
  · intro progress hleaves hnone
    rcases leaf_apply here source hleaves with ⟨found, hread, happly⟩ | ⟨fault, -, happly⟩
    · rw [happly]
      exact ⟨found, rfl, hread⟩
    · rw [happly] at hnone
      simp at hnone

theorem covers_leaf (here : Location) (source : String) :
    Covers allowed (leaf here source) [.text source] :=
  (checks_leaf here source).weaken Iff.rfl fun _ _ => trivial

/-- An optional text is in order if it is a leaf. -/
theorem covers_leaf? (here : Location) (source : Option String) :
    Covers allowed (leaf? here source) (source.toList.map .text) := by
  cases source with
  | none => exact covers_pure none
  | some source => exact covers_leaf here source

theorem checks_path (here : Location) (source : String) :
    Checks allowed (path here source) True [.path source] fun made => made.isSome := by
  rw [path]
  cases hread : Path.ofText source with
  | ok found => exact checks_pure_of_isInOrder ⟨found, hread⟩ rfl rfl
  | error fault =>
    refine checks_note _ ?_ fun _ => grows_pure none
    intro met hboth
    obtain ⟨found, hfound⟩ := hboth.2.each _ List.mem_cons_self
    rw [hread] at hfound
    cases hfound

theorem covers_path (here : Location) (source : String) :
    Covers allowed (path here source) [.path source] :=
  (checks_path here source).weaken Iff.rfl fun _ _ => trivial

theorem covers_expression (here : Location) (source : String) :
    Covers allowed (expression here source) [.expression source] := by
  rw [expression]
  cases hread : Expr.ofText source with
  | ok found => exact checks_pure_of_isInOrder ⟨found, hread⟩ rfl trivial
  | error fault =>
    refine covers_note _ (.expression source) ?_ List.mem_cons_self fun _ => grows_pure none
    rintro ⟨found, hfound⟩
    rw [hread] at hfound
    cases hfound

end Blueprint.Compilation

end ChatPrompt
