import ChatPrompt.Value.Comparison
import Mathlib

/-!
# Comparisons agree with each other

Equality and order are two functions, with coercions of their own: the one is asked for `==` and
`!=`, the other for `<`, `>`, `<=` and `>=`. Three facts tie them together. Changing the places of
two values turns their order around and does not change their equality; where two values have an
order, it says also whether they are equal; and there is an order exactly between two numbers, two
texts, and a number and a text that writes one. The laws of the six comparisons follow from these
without another look at the values.
-/

namespace ChatPrompt

namespace Number

/-- Changing the places of two values turns their order around; values without an order have none
either way. -/
theorem Extended.compare?_swap (x y : Extended) :
    (x.compare? y).map Ordering.swap = y.compare? x := by
  cases x with
  | nan => cases y <;> rfl
  | infinite a =>
    cases y with
    | nan => rfl
    | infinite b => cases a <;> cases b <;> rfl
    | finite y => cases a <;> rfl
  | finite x =>
    cases y with
    | nan => rfl
    | infinite b => cases b <;> rfl
    | finite y => exact congrArg some (x.compare_swap y)

/-- There is an order between all values but the one that is not a number. -/
theorem Extended.isSome_compare?_iff (x y : Extended) :
    (x.compare? y).isSome = true ↔ x ≠ .nan ∧ y ≠ .nan := by
  cases x with
  | nan => cases y <;> simp [Extended.compare?]
  | infinite a => cases a <;> cases y <;> simp [Extended.compare?]
  | finite x =>
    cases y with
    | infinite b => cases b <;> simp [Extended.compare?]
    | nan | finite _ => simp [Extended.compare?]

theorem Extended.sameValue_comm (x y : Extended) : x.sameValue y = y.sameValue x := by
  rw [sameValue, sameValue, ← compare?_swap x y]
  cases x.compare? y with
  | none => rfl
  | some order => cases order <;> rfl

/-- Finite numbers are equal where neither comes before the other. -/
theorem Double.sameValue_eq (x y : Double) : x.sameValue y = (x.compare y == .eq) := by
  rw [Bool.eq_iff_iff, sameValue_iff, beq_iff_eq]
  exact Int.compare_eq_eq.symm

theorem Double.sameValue_comm (x y : Double) : x.sameValue y = y.sameValue x := Bool.beq_comm

end Number

namespace Json

theorem Numeral.same_comm (m n : Numeral) : m.same n = n.same m := by
  cases m with
  | whole m =>
    cases n with
    | whole n => exact Bool.beq_comm
    | floating y => rfl
  | floating x =>
    cases n with
    | whole n => rfl
    | floating y => exact Number.Double.sameValue_comm x y

mutual

/-- Whether two values are the same does not depend on their places. -/
theorem same_comm (left right : Json) : left.same right = right.same left := by
  cases left with
  | null => cases right <;> rfl
  | bool a =>
    cases right with
    | bool b =>
      rw [same, same]
      exact Bool.beq_comm
    | _ => rfl
  | number m =>
    cases right with
    | number n =>
      rw [same, same]
      exact m.same_comm n
    | _ => rfl
  | string s =>
    cases right with
    | string t =>
      rw [same, same]
      exact Bool.beq_comm
    | _ => rfl
  | array xs =>
    cases right with
    | array ys =>
      rw [same, same]
      exact sameItems_comm xs ys
    | _ => rfl
  | object xs =>
    cases right with
    | object ys =>
      rw [same, same]
      exact sameFields_comm xs ys
    | _ => rfl

theorem sameItems_comm (left right : List Json) : sameItems left right = sameItems right left := by
  cases left with
  | nil => cases right <;> rfl
  | cons x xs =>
    cases right with
    | nil => rfl
    | cons y ys => rw [sameItems, sameItems, same_comm x y, sameItems_comm xs ys]

theorem sameFields_comm (left right : Fields) : sameFields left right = sameFields right left := by
  cases left with
  | nil => cases right <;> rfl
  | cons x xs =>
    cases right with
    | nil => rfl
    | cons y ys =>
      obtain ⟨k, x⟩ := x
      obtain ⟨l, y⟩ := y
      rw [sameFields, sameFields, same_comm x y, sameFields_comm xs ys,
        Bool.beq_comm (a := k) (b := l)]

end

end Json

namespace Value

open Number

/-- Equality does not depend on the places of the values. -/
theorem looseEq_comm (left right : Option Json) : looseEq left right = looseEq right left := by
  cases left with
  | none => cases right <;> rfl
  | some left =>
    cases right with
    | none => rfl
    | some right =>
      cases left with
      | number m =>
        cases right with
        | number n => exact m.toDouble.sameValue_comm n.toDouble
        | _ => rfl
      | string s =>
        cases right with
        | number n => rfl
        | _ => exact Json.same_comm _ _
      | _ => cases right <;> exact Json.same_comm _ _

/-- Changing the places of two values turns their order around; values without an order have none
either way. -/
theorem order?_swap (left right : Option Json) :
    (order? left right).map Ordering.swap = order? right left := by
  cases left with
  | none => rcases right with _ | (_ | _ | _ | _ | _ | _) <;> rfl
  | some left =>
    cases right with
    | none => cases left <;> rfl
    | some right =>
      cases left with
      | number m =>
        cases right with
        | number n => exact congrArg some (m.toDouble.compare_swap n.toDouble)
        | string s =>
          rw [order?, order?, Option.map_bind]
          exact congrArg (Option.bind (numberOfText? s))
            (funext fun x => Extended.compare?_swap _ x)
        | _ => rfl
      | string s =>
        cases right with
        | number n =>
          rw [order?, order?, Option.map_bind]
          exact congrArg (Option.bind (numberOfText? s)) (funext fun x => x.compare?_swap _)
        | string t => exact congrArg some Std.OrientedOrd.eq_swap.symm
        | _ => rfl
      | _ => cases right <;> rfl

/-- Where two values have an order, they are equal if neither comes before the other. -/
theorem looseEq_of_order?_eq_some {left right : Option Json} {order : Ordering}
    (h : order? left right = some order) : looseEq left right = (order == .eq) := by
  revert h
  fun_cases order? left right with
  | case1 m n =>
    rintro ⟨⟩
    exact Double.sameValue_eq _ _
  | case2 s t =>
    rintro ⟨⟩
    change (s == t) = (compare s t == .eq)
    rw [Bool.eq_iff_iff, beq_iff_eq, beq_iff_eq, Std.compare_eq_iff_eq]
  | case3 n s =>
    intro h
    obtain ⟨x, hread, hcompare⟩ := Option.bind_eq_some_iff.1 h
    change equalsText n s = _
    rw [equalsText, hread, Option.any_some, Extended.sameValue_comm, Extended.sameValue, hcompare]
    rfl
  | case4 s n =>
    intro h
    obtain ⟨x, hread, hcompare⟩ := Option.bind_eq_some_iff.1 h
    change equalsText _ _ = _
    rw [equalsText, hread, Option.any_some, Extended.sameValue, hcompare]
    rfl
  | case5 => exact fun h => nomatch h

/-- Two values have an order: they are two numbers, two texts, or a number and a text that writes
one. -/
inductive AreOrdered : Option Json → Option Json → Prop where
  /-- Two numbers. -/
  | numbers (m n : Json.Numeral) : AreOrdered (some (.number m)) (some (.number n))
  /-- Two texts. -/
  | texts (s t : String) : AreOrdered (some (.string s)) (some (.string t))
  /-- A number and a text. -/
  | numberText (n : Json.Numeral) {s : String} {x : Extended} (hread : numberOfText? s = some x)
    (hnumber : x ≠ .nan) : AreOrdered (some (.number n)) (some (.string s))
  /-- A text and a number. -/
  | textNumber (n : Json.Numeral) {s : String} {x : Extended} (hread : numberOfText? s = some x)
    (hnumber : x ≠ .nan) : AreOrdered (some (.string s)) (some (.number n))

/-- An order is found exactly where two values have one. -/
theorem isSome_order?_iff {left right : Option Json} :
    (order? left right).isSome = true ↔ AreOrdered left right := by
  constructor
  · intro h
    revert h
    fun_cases order? left right with
    | case1 m n => exact fun _ => .numbers m n
    | case2 s t => exact fun _ => .texts s t
    | case3 n s =>
      intro h
      obtain ⟨order, horder⟩ := Option.isSome_iff_exists.1 h
      obtain ⟨x, hread, hcompare⟩ := Option.bind_eq_some_iff.1 horder
      exact .numberText n hread
        ((Extended.isSome_compare?_iff _ x).1 (Option.isSome_of_eq_some hcompare)).2
    | case4 s n =>
      intro h
      obtain ⟨order, horder⟩ := Option.isSome_iff_exists.1 h
      obtain ⟨x, hread, hcompare⟩ := Option.bind_eq_some_iff.1 horder
      exact .textNumber n hread
        ((Extended.isSome_compare?_iff x _).1 (Option.isSome_of_eq_some hcompare)).1
    | case5 => exact fun h => nomatch h
  · rintro (⟨m, n⟩ | ⟨s, t⟩ | ⟨n, hread, hnumber⟩ | ⟨n, hread, hnumber⟩)
    · rfl
    · rfl
    · rw [order?, hread]
      exact (Extended.isSome_compare?_iff _ _).2 ⟨nofun, hnumber⟩
    · rw [order?, hread]
      exact (Extended.isSome_compare?_iff _ _).2 ⟨hnumber, nofun⟩

/-- Whether a comparison holds between values of which the first comes before, at or after the
second. -/
def Comparison.admits (order : Ordering) : Comparison → Bool
  | .eq => order == .eq
  | .ne => order != .eq
  | .lt => order == .lt
  | .gt => order == .gt
  | .le => order != .gt
  | .ge => order != .lt

/-- All six comparisons of two values that have an order are decided by it. -/
theorem AreOrdered.exists_order {left right : Option Json} (h : AreOrdered left right) :
    ∃ order, ∀ comparison, holds left comparison right = Comparison.admits order comparison := by
  obtain ⟨order, horder⟩ := Option.isSome_iff_exists.1 (isSome_order?_iff.2 h)
  have hequal := looseEq_of_order?_eq_some horder
  refine ⟨order, fun comparison => ?_⟩
  cases comparison <;> simp only [holds, horder, hequal] <;> cases order <;> rfl

/-- Between values without an order only equality and its opposite can hold. -/
theorem holds_eq_false_of_not_areOrdered {left right : Option Json} (h : ¬ AreOrdered left right)
    {comparison : Comparison} (hasks : comparison ∈ [.lt, .gt, .le, .ge]) :
    holds left comparison right = false := by
  have hnone : order? left right = none :=
    Option.not_isSome_iff_eq_none.1 fun hsome => h (isSome_order?_iff.1 hsome)
  simp only [List.mem_cons, List.not_mem_nil, or_false] at hasks
  rcases hasks with rfl | rfl | rfl | rfl <;> simp [holds, hnone]

/-- What is asked of the order from left to right can be asked of the order from right to left. -/
theorem order?_beq_swap (left right : Option Json) (order : Ordering) :
    (order? left right == some order) = (order? right left == some order.swap) := by
  rw [← order?_swap left right]
  cases order? left right with
  | none => rfl
  | some found => cases found <;> cases order <;> rfl

/-- What the six comparisons of two values have to do with each other. -/
structure AreCoherent (left right : Option Json) : Prop where
  /-- Equality does not depend on the places of the values. -/
  eq_comm : holds left .eq right = holds right .eq left
  /-- Values are either equal or not. -/
  ne_eq_not : holds left .ne right = !holds left .eq right
  /-- What comes before a value is what that value comes after. -/
  lt_eq_gt : holds left .lt right = holds right .gt left
  /-- The same for values that may be equal. -/
  le_eq_ge : holds left .le right = holds right .ge left
  /-- No two of less, equal and greater hold. -/
  at_most_one : [Comparison.lt, .eq, .gt].countP (holds left · right) ≤ 1
  /-- One of them holds if the values have an order. -/
  exactly_one : AreOrdered left right →
    [Comparison.lt, .eq, .gt].countP (holds left · right) = 1
  /-- Less or equal is then less, or equal. -/
  le_eq_or : AreOrdered left right →
    holds left .le right = (holds left .lt right || holds left .eq right)
  /-- Greater or equal is then greater, or equal. -/
  ge_eq_or : AreOrdered left right →
    holds left .ge right = (holds left .gt right || holds left .eq right)
  /-- Values without an order do not come before or after each other. -/
  not_holds : ¬ AreOrdered left right →
    ∀ comparison ∈ [Comparison.lt, .gt, .le, .ge], holds left comparison right = false

/-- **The comparisons are coherent.** Any two values, there or not and of whatever kinds, are equal
or not whichever of them is named first; one comes before the other exactly if the other comes after
it; and at most one of less, equal and greater holds. Between two numbers, between two texts, and
between a number and a text that writes one exactly one of them holds, and the comparisons that
allow equality are made of it and the strict ones. Between all other values nothing holds but
equality or its opposite. -/
theorem areCoherent (left right : Option Json) : AreCoherent left right := by
  have hordered : AreOrdered left right →
      [Comparison.lt, .eq, .gt].countP (holds left · right) = 1 ∧
        holds left .le right = (holds left .lt right || holds left .eq right) ∧
        holds left .ge right = (holds left .gt right || holds left .eq right) := by
    intro h
    obtain ⟨order, hholds⟩ := h.exists_order
    simp only [hholds]
    cases order <;> exact ⟨rfl, rfl, rfl⟩
  have hunordered : ¬ AreOrdered left right →
      ∀ comparison ∈ [Comparison.lt, .gt, .le, .ge], holds left comparison right = false :=
    fun h _ hasks => holds_eq_false_of_not_areOrdered h hasks
  refine ⟨looseEq_comm left right, rfl, order?_beq_swap left right .lt,
    congrArg₂ (· || ·) (order?_beq_swap left right .lt) (order?_beq_swap left right .eq),
    ?_, fun h => (hordered h).1, fun h => (hordered h).2.1, fun h => (hordered h).2.2, hunordered⟩
  by_cases h : AreOrdered left right
  · exact (hordered h).1.le
  · -- without an order only equality is left of the three
    have hlt := hunordered h .lt (by decide)
    have hgt := hunordered h .gt (by decide)
    cases hequal : holds left .eq right <;> simp [hlt, hgt, hequal]

end Value

end ChatPrompt
