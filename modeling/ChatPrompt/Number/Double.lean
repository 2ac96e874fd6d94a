import ChatPrompt.Number.Binary

/-!
# Double precision numbers

A finite double is a sign and a whole number of units of two to the minus 1074, so two
doubles are compared by comparing two integers, and whether a double is whole is a
divisibility. Zero keeps its sign. Text can also name infinities and the value that is not
a number, which the second type adds.
-/

namespace ChatPrompt.Number

/-- A finite double precision number. -/
structure Double where
  /-- The sign; a negative zero is written differently from zero and equal to it. -/
  negative : Bool
  /-- The magnitude, in units of two to the minus 1074. -/
  units : Nat
  deriving DecidableEq, Repr

namespace Double

/-- The value in units, with its sign. Both zeros have value zero. -/
def value (x : Double) : Int := if x.negative then -(x.units : Int) else x.units

/-- The order of two doubles is the order of their values. -/
def compare (x y : Double) : Ordering := Ord.compare x.value y.value

/-- Equality as numbers, which does not see the sign of a zero. -/
def sameValue (x y : Double) : Bool := x.value == y.value

/-- Whether the number has no fraction. -/
def isWhole (x : Double) : Bool := x.units % Format.binary64.one == 0

/-- The magnitude without its fraction. -/
def floorMagnitude (x : Double) : Nat := x.units / Format.binary64.one

/-- The least whole number that is not below the magnitude. -/
def ceilMagnitude (x : Double) : Nat :=
  (x.units + (Format.binary64.one - 1)) / Format.binary64.one

/-- The number without its fraction. -/
def truncate (x : Double) : Int :=
  if x.negative then -(x.floorMagnitude : Int) else x.floorMagnitude

/-- Whether the number is a whole number small enough to be written as an integer: below
nine times ten to the fifteenth in magnitude. -/
def isPlainInteger (x : Double) : Bool :=
  x.isWhole && x.units < 9000000000000000 * Format.binary64.one

/-- The double nearest to an integer. -/
def ofInt (n : Int) : Double := ⟨n < 0, Format.binary64.round n.natAbs 1⟩

end Double

/-- A double, or one of the values outside the number line that text can name. -/
inductive Extended where
  /-- Not a number; equal to nothing and ordered with nothing. -/
  | nan
  /-- An infinity. -/
  | infinite (negative : Bool)
  /-- A finite number. -/
  | finite (x : Double)
  deriving DecidableEq, Repr

namespace Extended

/-- The value with the given sign nearest to a quotient; an infinity where it is out of
range. -/
def ofRatio (negative : Bool) (numerator denominator : Nat) : Extended :=
  let units := Format.binary64.round numerator denominator
  if Format.binary64.inRange units then .finite ⟨negative, units⟩ else .infinite negative

/-- The value of a decimal: a whole number times a power of ten. Decimals whose leading
digit lies far outside the range are settled by its place alone, so that their power of ten
is never computed. -/
def ofDecimal (negative : Bool) (digits : Nat) (exponent : Int) : Extended :=
  let place := exponent + (Nat.toDigits 10 digits).length
  if digits = 0 || place < -400 then .finite ⟨negative, 0⟩
  else if 400 < place then .infinite negative
  else if 0 ≤ exponent then ofRatio negative (digits * Nat.pow 10 exponent.toNat) 1
  else ofRatio negative digits (Nat.pow 10 (-exponent).toNat)

/-- The order of two values, none where one of them is not a number. -/
def compare? : Extended → Extended → Option Ordering
  | .nan, _ => none
  | _, .nan => none
  | .infinite a, .infinite b => some (Ord.compare b a)
  | .infinite true, .finite _ => some .lt
  | .infinite false, .finite _ => some .gt
  | .finite _, .infinite true => some .gt
  | .finite _, .infinite false => some .lt
  | .finite x, .finite y => some (x.compare y)

/-- Whether two values are equal as numbers. -/
def sameValue (x y : Extended) : Bool := x.compare? y == some .eq

end Extended

/-- Comparing doubles is comparing integers, so swapping the operands swaps the answer. -/
theorem Double.compare_swap (x y : Double) : (x.compare y).swap = y.compare x := by
  simp [Double.compare, Int.compare_swap]

/-- Equality of numbers is equality of values. -/
theorem Double.sameValue_iff (x y : Double) : x.sameValue y = true ↔ x.value = y.value := by
  simp [Double.sameValue]

end ChatPrompt.Number
