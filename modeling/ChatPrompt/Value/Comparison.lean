import ChatPrompt.Json.Basic
import ChatPrompt.Number.Reading
import ChatPrompt.Text.Blank

/-!
# Comparing and sorting values

Comparison in expressions is loose: numbers compare by value, and a text beside a number
counts as the number it writes. Values of other kinds are equal or not, and never ordered.
Sorting needs an order between any two values, so it ranks the kinds and compares within a
kind only numbers, texts and truth values.
-/

namespace ChatPrompt.Value

open Number

/-- A comparison of two values. -/
inductive Comparison where
  /-- Equal. -/
  | eq
  /-- Not equal. -/
  | ne
  /-- Less. -/
  | lt
  /-- Greater. -/
  | gt
  /-- Less or equal. -/
  | le
  /-- Greater or equal. -/
  | ge
  deriving DecidableEq, Repr

/-- The number that a text writes, apart from blanks around it. -/
def numberOfText? (s : String) : Option Extended := floatOfText? (Text.trim s.toList)

/-- Whether a number and a text are equal: the text writes that number. -/
def equalsText (n : Json.Numeral) (s : String) : Bool :=
  (numberOfText? s).any fun x => x.sameValue (.finite n.toDouble)

/-- Equality in expressions. Nothing and `null` are equal to each other and to nothing
else. -/
def looseEq : Option Json → Option Json → Bool
  | none, none => true
  | none, some value => value.isNull
  | some value, none => value.isNull
  | some (.number m), some (.number n) => m.toDouble.sameValue n.toDouble
  | some (.number n), some (.string s) => equalsText n s
  | some (.string s), some (.number n) => equalsText n s
  | some a, some b => a.same b

/-- The order in expressions: between numbers, between texts, and between a number and a
text that writes one. -/
def order? : Option Json → Option Json → Option Ordering
  | some (.number m), some (.number n) => some (m.toDouble.compare n.toDouble)
  | some (.string s), some (.string t) => some (compare s t)
  | some (.number n), some (.string s) =>
    (numberOfText? s).bind fun x => (Extended.finite n.toDouble).compare? x
  | some (.string s), some (.number n) =>
    (numberOfText? s).bind fun x => x.compare? (Extended.finite n.toDouble)
  | _, _ => none

/-- Whether a comparison holds between two values. -/
def holds (left : Option Json) (comparison : Comparison) (right : Option Json) : Bool :=
  match comparison with
  | .eq => looseEq left right
  | .ne => !looseEq left right
  | .lt => order? left right == some .lt
  | .gt => order? left right == some .gt
  | .le => order? left right == some .lt || order? left right == some .eq
  | .ge => order? left right == some .gt || order? left right == some .eq

/-- The place of a kind of value among the kinds; nothing and `null` come first. -/
def rank : Option Json → Nat
  | none => 0
  | some .null => 0
  | some (.bool _) => 1
  | some (.number _) => 2
  | some (.string _) => 3
  | some (.array _) => 4
  | some (.object _) => 5

/-- The order that sorting uses. Arrays stand together, and so do objects, without an order
among them. -/
def sortOrder : Option Json → Option Json → Ordering
  | some (.number m), some (.number n) => m.toDouble.compare n.toDouble
  | some (.string s), some (.string t) => compare s t
  | some (.bool a), some (.bool b) => compare a b
  | left, right => compare (rank left) (rank right)

/-- Elements sorted by a key, those with equal keys in the order they had. -/
def sortBy {α : Type} (key : α → Option Json) (items : List α) : List α :=
  items.mergeSort fun a b => sortOrder (key a) (key b) != .gt

/-- Sorting rearranges. -/
theorem sortBy_perm {α : Type} (key : α → Option Json) (items : List α) :
    (sortBy key items).Perm items := List.mergeSort_perm _ _

end ChatPrompt.Value
