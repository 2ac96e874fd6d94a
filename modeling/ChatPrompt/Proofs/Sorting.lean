import ChatPrompt.Proofs.Rounding
import ChatPrompt.Render.Plan
import Mathlib

/-!
# Loops take their items in a stable order

The order by which values are sorted is total: it compares first the kinds of two values and then,
within numbers, texts and truth values, the values themselves. Sorting by it is stable, so values
that the order does not tell apart stay as they were. The items of a loop are said here without the
algorithm that sorts them: what the source gives, sorted if the loop says so, turned around if it
goes from the last to the first, and cut off at the limit.
-/

namespace ChatPrompt

/-- A stable sort leaves the items of a kind as they were if the order ties all of them. -/
theorem filter_mergeSort {α : Type} {le : α → α → Bool}
    (htrans : ∀ a b c, le a b = true → le b c = true → le a c = true)
    (htotal : ∀ a b, (le a b || le b a) = true) {kind : α → Bool}
    (htied : ∀ a b, kind a = true → kind b = true → le a b = true) (items : List α) :
    (items.mergeSort le).filter kind = items.filter kind := by
  -- the items of the kind are sorted already, so they are a part of the sorted items
  have hsame : (items.filter kind).Pairwise fun a b => le a b = true := by
    refine List.Pairwise.imp_of_mem ?_ (List.pairwise_of_forall fun _ _ => trivial)
    exact fun ha hb _ => htied _ _ (List.mem_filter.1 ha).2 (List.mem_filter.1 hb).2
  have hkept := (List.sublist_mergeSort htrans htotal hsame List.filter_sublist).filter kind
  rw [List.filter_filter] at hkept
  simp only [Bool.and_self] at hkept
  have hlength := ((List.mergeSort_perm items le).filter kind).length_eq
  exact (hkept.eq_of_length hlength.symm).symm

section Sorted

variable {α : Type} {le : α → α → Bool} {items others : List α}

/-- Items are the same if those that are tied with each item are. -/
theorem mem_iff_of_filter_eq (hrefl : ∀ a, le a a = true)
    (hsame : ∀ a, others.filter (fun b => le a b && le b a) =
      items.filter fun b => le a b && le b a) (item : α) : item ∈ others ↔ item ∈ items := by
  have hin := congrArg (item ∈ ·) (hsame item)
  simpa [List.mem_filter, hrefl] using hin

/-- The first of sorted items comes before all of them. -/
theorem le_of_mem_sorted (hrefl : ∀ a, le a a = true) {first item : α}
    (hsorted : (first :: items).Pairwise fun a b => le a b = true) (hin : item ∈ first :: items) :
    le first item = true := by
  rcases List.mem_cons.1 hin with rfl | hlater
  · exact hrefl _
  · exact (List.pairwise_cons.1 hsorted).1 item hlater

variable (le) in
/-- Sorted items are known from those that the order ties, taken in their order. -/
theorem eq_of_sorted_of_filter_eq (hrefl : ∀ a, le a a = true)
    (hitems : items.Pairwise fun a b => le a b = true)
    (hothers : others.Pairwise fun a b => le a b = true)
    (hsame : ∀ a, others.filter (fun b => le a b && le b a) =
      items.filter fun b => le a b && le b a) : others = items := by
  have hmem := mem_iff_of_filter_eq hrefl hsame
  induction items generalizing others with
  | nil => exact List.eq_nil_iff_forall_not_mem.2 fun item h => nomatch (hmem item).1 h
  | cons first rest ih =>
    cases others with
    | nil => exact nomatch (hmem first).2 List.mem_cons_self
    | cons other more =>
      -- the first item of each of the two is among the other, so the order ties them
      have hafter := le_of_mem_sorted hrefl hothers ((hmem first).2 List.mem_cons_self)
      have hbefore := le_of_mem_sorted hrefl hitems ((hmem other).1 List.mem_cons_self)
      have hheads := hsame first
      rw [List.filter_cons_of_pos (by simp [hafter, hbefore]),
        List.filter_cons_of_pos (by simp [hrefl])] at hheads
      obtain ⟨rfl, -⟩ := List.cons.inj hheads
      have hkept : ∀ a, more.filter (fun b => le a b && le b a) =
          rest.filter fun b => le a b && le b a := by
        intro a
        have hall := hsame a
        rw [List.filter_cons, List.filter_cons] at hall
        split at hall
        · exact (List.cons.inj hall).2
        · exact hall
      rw [ih hitems.of_cons hothers.of_cons hkept (mem_iff_of_filter_eq hrefl hkept)]

end Sorted

namespace Value

open Number

/-- The number that a value is, and zero for values of other kinds. -/
def sortNumber : Option Json → Int
  | some (.number n) => n.toDouble.value
  | _ => 0

/-- The text that a value is, and the empty text for values of other kinds. -/
def sortText : Option Json → String
  | some (.string s) => s
  | _ => ""

/-- The truth value that a value is, and `false` for values of other kinds. -/
def sortFlag : Option Json → Bool
  | some (.bool b) => b
  | _ => false

/-- Values are compared by their kinds and then as what they are. -/
theorem sortOrder_eq_compareLex : sortOrder =
    compareLex (compareOn rank) (compareLex (compareOn sortNumber)
      (compareLex (compareOn sortText) (compareOn sortFlag))) := by
  funext left right
  rcases left with _ | left
  · cases right with
    | none => rfl
    | some right => cases right <;> rfl
  · rcases right with _ | right
    · cases left <;> rfl
    · cases left with
      | number m =>
        cases right with
        | number n =>
          simp [sortOrder, compareLex, compareOn, rank, sortNumber, sortText, sortFlag,
            Double.compare]
        | _ => rfl
      | string s =>
        cases right with
        | string t =>
          simp [sortOrder, compareLex, compareOn, rank, sortNumber, sortText, sortFlag]
        | _ => rfl
      | bool a =>
        cases right with
        | bool b => simp [sortOrder, compareLex, compareOn, rank, sortNumber, sortText, sortFlag]
        | _ => rfl
      | _ => cases right <;> rfl

/-- The order by which values are sorted is total and transitive. -/
instance : Std.TransCmp sortOrder := by
  rw [sortOrder_eq_compareLex]
  infer_instance

/-- Some items are others in the order of their keys, and those with equal keys are as before. -/
structure IsSortedBy {α : Type} (key : α → Option Json) (items sorted : List α) : Prop where
  /-- The items are the same. -/
  perm : sorted.Perm items
  /-- No item comes after one with a greater key. -/
  ordered : sorted.Pairwise fun a b => sortOrder (key a) (key b) ≠ .gt
  /-- The items whose keys are equal to a value are in the same order as before. -/
  stable : ∀ value, sorted.filter (fun item => sortOrder value (key item) == .eq) =
    items.filter fun item => sortOrder value (key item) == .eq

/-- Sorting is stable. -/
theorem isSortedBy_sortBy {α : Type} (key : α → Option Json) (items : List α) :
    IsSortedBy key items (sortBy key items) := by
  have htrans : ∀ a b c : α, (sortOrder (key a) (key b) != .gt) = true →
      (sortOrder (key b) (key c) != .gt) = true → (sortOrder (key a) (key c) != .gt) = true := by
    simp only [bne_iff_ne, ← Ordering.isLE_iff_ne_gt]
    exact fun a b c => Std.TransCmp.isLE_trans
  have htotal : ∀ a b : α, (sortOrder (key a) (key b) != .gt ||
      sortOrder (key b) (key a) != .gt) = true := by
    intro a b
    rw [@Std.OrientedCmp.eq_swap _ sortOrder _ (key b) (key a)]
    cases sortOrder (key a) (key b) <;> rfl
  refine ⟨sortBy_perm key items, ?_, fun value => ?_⟩
  · exact (List.pairwise_mergeSort htrans htotal items).imp fun hle => bne_iff_ne.1 hle
  · refine filter_mergeSort htrans htotal (fun a b ha hb => ?_) items
    have hbefore : (sortOrder (key a) value).isLE := by
      rw [@Std.OrientedCmp.eq_swap _ sortOrder _ (key a) value, eq_of_beq ha]
      rfl
    have hafter : (sortOrder value (key b)).isLE := by
      rw [eq_of_beq hb]
      rfl
    have hle : (sortOrder (key a) (key b)).isLE := Std.TransCmp.isLE_trans hbefore hafter
    exact bne_iff_ne.2 (Ordering.isLE_iff_ne_gt.1 hle)

/-- Values whose keys come neither before nor after each other have equal keys. -/
theorem sortOrder_eq_iff (left right : Option Json) :
    (sortOrder left right != .gt && sortOrder right left != .gt) =
      (sortOrder left right == .eq) := by
  rw [@Std.OrientedCmp.eq_swap _ sortOrder _ right left]
  cases sortOrder left right <;> rfl

/-- There is only one stable way to sort. -/
theorem IsSortedBy.eq {α : Type} {key : α → Option Json} {items sorted others : List α}
    (hsorted : IsSortedBy key items sorted) (hothers : IsSortedBy key items others) :
    others = sorted := by
  refine eq_of_sorted_of_filter_eq (fun a b => sortOrder (key a) (key b) != .gt) ?_
    (hsorted.ordered.imp bne_iff_ne.2) (hothers.ordered.imp bne_iff_ne.2) fun a => ?_
  · intro a
    have hself : sortOrder (key a) (key a) = .eq := Std.ReflCmp.compare_self
    rw [hself]
    rfl
  · simp only [sortOrder_eq_iff]
    rw [hothers.stable, hsorted.stable]

/-- Whole numbers are never sorted against their order, although large ones are compared after they
are rounded. -/
theorem sortOrder_ofInt {m n : Int} (h : m ≤ n) :
    sortOrder (some (.ofInt m)) (some (.ofInt n)) ≠ .gt := by
  have hvalues := Double.value_ofInt_le h
  change Ord.compare (Double.ofInt m).value (Double.ofInt n).value ≠ .gt
  rw [Ne, Int.compare_eq_gt]
  omega

end Value

namespace Render

open Value in
/-- The order by which values are sorted is total: every value is equal to itself, two values compare
the other way round when they change their places, and what is not greater than a value that is not
greater than another is not greater than that one, of whatever kinds the three are; whole numbers are
never compared against their order. So there is one stable way to sort items by the values under a
path. A loop that sorts goes through them in just that way; it goes through them in just the opposite
way if it goes from the last to the first; and a limit keeps the first of them. -/
theorem loopItems_sorted :
    (∀ value, sortOrder value value = .eq) ∧
    (∀ left right, sortOrder right left = (sortOrder left right).swap) ∧
    (∀ left middle right, sortOrder left middle ≠ .gt → sortOrder middle right ≠ .gt →
      sortOrder left right ≠ .gt) ∧
    (∀ m n : Int, m ≤ n → sortOrder (some (.ofInt m)) (some (.ofInt n)) ≠ .gt) ∧
    ∀ (env : Environment) (scope : Scope) (header : Blueprint.Loop) (path : Path),
      let walk := fun order limit =>
        loopItems env scope { header with sortBy := some path, order := order, limit := limit }
      (∀ items, IsSortedBy (Segment.walk path.asSteps) (env.items scope header.source) items ↔
        items = walk .ascending none) ∧
      walk .descending none = (walk .ascending none).reverse ∧
      ∀ order limit, walk order (some limit) = (walk order none).take limit := by
  refine ⟨fun _ => Std.ReflCmp.compare_self, fun _ _ => Std.OrientedCmp.eq_swap, ?_,
    fun _ _ => sortOrder_ofInt, fun env scope header path => ?_⟩
  · simp only [← Ordering.isLE_iff_ne_gt]
    exact fun _ _ _ => Std.TransCmp.isLE_trans
  · intro walk
    have hsorted : IsSortedBy (Segment.walk path.asSteps) (env.items scope header.source)
        (walk .ascending none) := isSortedBy_sortBy _ _
    refine ⟨fun items => ⟨hsorted.eq, ?_⟩, rfl, fun order limit => rfl⟩
    rintro rfl
    exact hsorted

end Render

namespace Sample

/-- Turns with ranks of several kinds, of which one has none. -/
def turns : Render.Environment where
  sources := Registry.empty
  context := .object [("turns", .array [
    .object [("rank", .string "low"), ("text", .string "a")],
    .object [("rank", .bool true), ("text", .string "b")],
    .object [("text", .string "c")],
    .object [("rank", .string "high"), ("text", .string "d")],
    .object [("rank", .bool true), ("text", .string "e")]])]
  estimate := fun _ => 0

/-- A loop over the turns. -/
def turnsLoop : Blueprint.Loop :=
  ⟨⟨.scope ⟨"turns", []⟩, .literal .null⟩, .ascending, none, none, .appending, none, none, true⟩

end Sample

namespace Render

open Sample Value in
/-- A turn without a rank comes before the truth values and these before the texts; turns of one rank
stay in their order, and are in the opposite one from the last to the first. -/
theorem loopItems_sorted_turns :
    let walk := fun order limit => loopItems turns turns.root
      { turnsLoop with sortBy := some ⟨"rank", []⟩, order := order, limit := limit }
    sortOrder none (some (.string "low")) ≠ .gt ∧
      (walk .ascending none).map (fun item => text (item.field? "text")) =
        ["c", "b", "e", "d", "a"] ∧
      walk .descending (some 3) = (walk .ascending none).reverse.take 3 := by
  intro walk
  obtain ⟨-, -, htrans, -, hloops⟩ := loopItems_sorted
  obtain ⟨-, hreverse, hlimit⟩ := hloops turns turns.root turnsLoop ⟨"rank", []⟩
  refine ⟨htrans none (some (.ofInt 1)) (some (.string "low")) (by decide) (by decide), ?_, ?_⟩
  · simp only [walk]
    cbv
  · rw [← hreverse]
    exact hlimit .descending 3

end Render

end ChatPrompt
