import ChatPrompt.Injection.Position
import ChatPrompt.Proofs.Sorting

/-!
# Weaving messages into gaps

A woven list is told apart into what stood there and what was put in. What stood there is as it
was, and what was put in comes in the order of its gaps; so the number of those that stand before
something that was put in is its gap, provided that it is a gap of the list at all.
-/

namespace ChatPrompt.Injection

open Render

section Woven

variable {α β : Type}

/-- What stood there before something was put in. -/
def standing (woven : List (β ⊕ α)) : List β := woven.filterMap Sum.getLeft?

/-- What was put in. -/
def added (woven : List (β ⊕ α)) : List α := woven.filterMap Sum.getRight?

@[simp] theorem standing_nil : standing ([] : List (β ⊕ α)) = [] := rfl

@[simp] theorem standing_inl (entry : β) (woven : List (β ⊕ α)) :
    standing (.inl entry :: woven) = entry :: standing woven := rfl

@[simp] theorem standing_inr (item : α) (woven : List (β ⊕ α)) :
    standing (.inr item :: woven) = standing woven := rfl

@[simp] theorem added_nil : added ([] : List (β ⊕ α)) = [] := rfl

@[simp] theorem added_inl (entry : β) (woven : List (β ⊕ α)) :
    added (.inl entry :: woven) = added woven := rfl

@[simp] theorem added_inr (item : α) (woven : List (β ⊕ α)) :
    added (.inr item :: woven) = item :: added woven := rfl

/-- Where nothing but new things comes first, what stood there is behind them. -/
@[simp] theorem standing_map_inr_append (items : List α) (woven : List (β ⊕ α)) :
    standing (items.map .inr ++ woven) = standing woven := by
  induction items with
  | nil => rfl
  | cons item rest ih => exact ih

/-- What is put in first comes first of what is put in. -/
@[simp] theorem added_map_inr_append (items : List α) (woven : List (β ⊕ α)) :
    added (items.map .inr ++ woven) = items ++ added woven := by
  induction items with
  | nil => rfl
  | cons item rest ih => exact congrArg (List.cons item) ih

/-- A woven list holds what stood there and what was put in. -/
theorem woven_perm (woven : List (β ⊕ α)) :
    woven.Perm ((standing woven).map .inl ++ (added woven).map .inr) := by
  induction woven with
  | nil => exact .refl _
  | cons first rest ih =>
    cases first with
    | inl entry => exact ih.cons _
    | inr item => exact (ih.cons _).trans List.perm_middle.symm

/-- The gap of whatever was put in is the number of those before it that stood there, counted from
an index on. -/
def StandsAt (gap : α → Nat) (index : Nat) (woven : List (β ⊕ α)) : Prop :=
  ∀ front item back, woven = front ++ .inr item :: back →
    gap item = index + (standing front).length

theorem standsAt_nil (gap : α → Nat) (index : Nat) : StandsAt gap index ([] : List (β ⊕ α)) := by
  intro front item back h
  cases front <;> cases h

/-- Behind one that stood there the index is the next. -/
theorem StandsAt.inl {gap : α → Nat} {index : Nat} {woven : List (β ⊕ α)} (entry : β)
    (h : StandsAt gap (index + 1) woven) : StandsAt gap index (.inl entry :: woven) := by
  intro front item back hsplit
  cases front with
  | nil => cases hsplit
  | cons first front =>
    obtain ⟨rfl, hrest⟩ := List.cons.inj hsplit
    rw [h front item back hrest, standing_inl, List.length_cons]
    omega

/-- Behind one that was put in the index is the same. -/
theorem StandsAt.inr {gap : α → Nat} {index : Nat} {woven : List (β ⊕ α)} {item : α}
    (hitem : gap item = index) (h : StandsAt gap index woven) :
    StandsAt gap index (.inr item :: woven) := by
  intro front other back hsplit
  cases front with
  | nil =>
    cases hsplit
    exact hitem
  | cons first front =>
    obtain ⟨rfl, hrest⟩ := List.cons.inj hsplit
    exact h front other back hrest

/-- All that is put into the gap at an index stands there. -/
theorem StandsAt.map_inr_append {gap : α → Nat} {index : Nat} {woven : List (β ⊕ α)}
    {items : List α} (hitems : ∀ item ∈ items, gap item = index) (h : StandsAt gap index woven) :
    StandsAt gap index (items.map .inr ++ woven) := by
  induction items with
  | nil => exact h
  | cons item rest ih =>
    obtain ⟨hitem, hrest⟩ := List.forall_mem_cons.1 hitems
    exact (ih hrest).inr hitem

end Woven

section Weaving

variable {α β : Type} (gap : α → Nat)

theorem gap_trans (a b c : α) (hab : decide (gap a ≤ gap b) = true)
    (hbc : decide (gap b ≤ gap c) = true) : decide (gap a ≤ gap c) = true :=
  decide_eq_true (Nat.le_trans (of_decide_eq_true hab) (of_decide_eq_true hbc))

theorem gap_total (a b : α) : (decide (gap a ≤ gap b) || decide (gap b ≤ gap a)) = true := by
  simpa using Nat.le_total (gap a) (gap b)

/-- Puts items into gaps, given in the order of the gaps, from an entry on. -/
def weavingFrom (index : Nat) : List β → List α → List (β ⊕ α)
  | [], items => items.map .inr
  | entry :: rest, items =>
    (items.takeWhile fun item => gap item ≤ index).map .inr ++
      .inl entry :: weavingFrom (index + 1) rest (items.dropWhile fun item => gap item ≤ index)

/-- Puts items into gaps. Those that share a gap keep their order. -/
def weaving (entries : List β) (items : List α) : List (β ⊕ α) :=
  weavingFrom gap 0 entries (items.mergeSort fun a b => gap a ≤ gap b)

/-- The entries stay as they are. -/
theorem standing_weavingFrom (index : Nat) (entries : List β) (items : List α) :
    standing (weavingFrom gap index entries items) = entries := by
  induction entries generalizing index items with
  | nil => simpa [weavingFrom] using standing_map_inr_append items ([] : List (β ⊕ α))
  | cons entry rest ih => rw [weavingFrom, standing_map_inr_append, standing_inl, ih]

/-- The items are put in as they come. -/
theorem added_weavingFrom (index : Nat) (entries : List β) (items : List α) :
    added (weavingFrom gap index entries items) = items := by
  induction entries generalizing index items with
  | nil => simpa [weavingFrom] using added_map_inr_append items ([] : List (β ⊕ α))
  | cons entry rest ih =>
    rw [weavingFrom, added_map_inr_append, added_inl, ih, List.takeWhile_append_dropWhile]

/-- Messages are put into gaps as their sources are. -/
theorem map_weavingFrom (index : Nat) (entries : List β) (items : List α) (old : β → Placed)
    (new : α → Placed) :
    (weavingFrom gap index entries items).map (Sum.elim old new) =
      weaveFrom index (entries.map old) (items.map fun item => (gap item, new item)) := by
  induction entries generalizing index items with
  | nil =>
    simp only [weavingFrom, List.map_nil, weaveFrom, List.map_map]
    rfl
  | cons entry rest ih =>
    simp only [weavingFrom, List.map_append, List.map_cons, Sum.elim_inl, weaveFrom, ih,
      List.takeWhile_map, List.dropWhile_map, List.map_map]
    rfl

/-- What is left of items in the order of their gaps goes into later gaps. -/
theorem lt_gap_of_mem_dropWhile {index : Nat} {items : List α}
    (hsorted : items.Pairwise fun a b => gap a ≤ gap b) :
    ∀ item ∈ items.dropWhile fun item => gap item ≤ index, index < gap item := by
  induction items with
  | nil => simp
  | cons first rest ih =>
    obtain ⟨hfirst, hrest⟩ := List.pairwise_cons.1 hsorted
    rw [List.dropWhile_cons]
    split
    · exact ih hrest
    · next hgap =>
      have hlt : index < gap first := by simpa using hgap
      intro item hitem
      rcases List.mem_cons.1 hitem with rfl | hin
      · exact hlt
      · exact Nat.lt_of_lt_of_le hlt (hfirst item hin)

/-- Items in the order of their gaps stand in them. -/
theorem standsAt_weavingFrom {index : Nat} {entries : List β} {items : List α}
    (hsorted : items.Pairwise fun a b => gap a ≤ gap b)
    (hbounds : ∀ item ∈ items, index ≤ gap item ∧ gap item ≤ index + entries.length) :
    StandsAt gap index (weavingFrom gap index entries items) := by
  induction entries generalizing index items with
  | nil =>
    have hgap : ∀ item ∈ items, gap item = index := by
      intro item hitem
      obtain ⟨hge, hle⟩ := hbounds item hitem
      rw [List.length_nil] at hle
      omega
    simpa [weavingFrom] using (standsAt_nil gap index).map_inr_append hgap
  | cons entry rest ih =>
    refine .map_inr_append (fun item hitem => ?_) (.inl entry (ih ?_ fun item hitem => ?_))
    · have hle : gap item ≤ index := by
        simpa using List.all_eq_true.1 List.all_takeWhile item hitem
      have hge := (hbounds item ((List.takeWhile_sublist _).subset hitem)).1
      omega
    · exact hsorted.sublist (List.dropWhile_sublist _)
    · have hlt := lt_gap_of_mem_dropWhile gap hsorted item hitem
      have hle := (hbounds item ((List.dropWhile_sublist _).subset hitem)).2
      rw [List.length_cons] at hle
      omega

/-- The entries stay as they are. -/
theorem standing_weaving (entries : List β) (items : List α) :
    standing (weaving gap entries items) = entries := standing_weavingFrom gap 0 entries _

theorem added_weaving_perm (entries : List β) (items : List α) :
    (added (weaving gap entries items)).Perm items := by
  rw [weaving, added_weavingFrom]
  exact List.mergeSort_perm _ _

/-- The items of one gap are put in as they come. -/
theorem filter_added_weaving (entries : List β) (items : List α) (index : Nat) :
    (added (weaving gap entries items)).filter (fun item => gap item == index) =
      items.filter fun item => gap item == index := by
  rw [weaving, added_weavingFrom]
  refine filter_mergeSort (gap_trans gap) (gap_total gap) (fun a b ha hb => ?_) items
  exact decide_eq_true (Nat.le_of_eq ((eq_of_beq ha).trans (eq_of_beq hb).symm))

/-- Messages are put into gaps as their sources are. -/
theorem map_weaving (entries : List β) (items : List α) (old : β → Placed) (new : α → Placed) :
    (weaving gap entries items).map (Sum.elim old new) =
      weave (entries.map old) (items.map fun item => (gap item, new item)) := by
  rw [weaving, map_weavingFrom, weave]
  exact congrArg _ (List.map_mergeSort fun _ _ _ _ => rfl)

/-- Items stand in their gaps, if these are gaps of the list. -/
theorem standsAt_weaving {entries : List β} {items : List α}
    (hbounds : ∀ item ∈ items, gap item ≤ entries.length) :
    StandsAt gap 0 (weaving gap entries items) := by
  have hsorted : (items.mergeSort fun a b => gap a ≤ gap b).Pairwise fun a b => gap a ≤ gap b :=
    (List.pairwise_mergeSort (gap_trans gap) (gap_total gap) items).imp of_decide_eq_true
  refine standsAt_weavingFrom gap hsorted fun item hitem => ⟨Nat.zero_le _, ?_⟩
  rw [Nat.zero_add]
  exact hbounds item ((List.mergeSort_perm _ _).mem_iff.1 hitem)

end Weaving

/-- Weaving loses no message and makes none. -/
theorem weave_perm (placed : List Placed) (inserts : List (Nat × Placed)) :
    (weave placed inserts).Perm (placed ++ inserts.map Prod.snd) := by
  have hmap : (weaving Prod.fst placed inserts).map (Sum.elim id Prod.snd) =
      weave placed inserts := by
    rw [map_weaving, List.map_id]
    exact congrArg _ (List.map_id inserts)
  rw [← hmap]
  refine ((woven_perm _).map _).trans ?_
  rw [standing_weaving, List.map_append, List.map_map, List.map_map, Sum.elim_comp_inl,
    Sum.elim_comp_inr, List.map_id]
  exact ((added_weaving_perm _ _ _).map _).append_left _

end ChatPrompt.Injection
