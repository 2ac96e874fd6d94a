import ChatPrompt.Number.Binary

/-!
# Shortest decimals

The decimal that stands for a floating number in text is the one with the fewest digits
that still reads back as that number, and of those the nearest. All numbers that read back
form an interval around the value; for one digit, then two, and so on, the two neighbours
of the value on that decimal grid are tried, because if any point of a grid lies in the
interval then one of those two does.
-/

namespace ChatPrompt.Number

/-- A decimal: a whole number times a power of ten. -/
structure Decimal where
  /-- The digits as a whole number. -/
  digits : Nat
  /-- The power of ten of the last digit. -/
  exponent : Int
  deriving DecidableEq, Repr

/-- The digits without zeros at their end, whose places move into the exponent. -/
def Decimal.stripZeros (d : Decimal) : Decimal := go d.digits d.digits d.exponent
where
  /-- Divides by ten as long as that is exact; the number itself bounds the divisions. -/
  go : Nat → Nat → Int → Decimal
    | 0, digits, exponent => ⟨digits, exponent⟩
    | bound + 1, digits, exponent =>
      if digits % 10 = 0 then go bound (digits / 10) (exponent + 1) else ⟨digits, exponent⟩

/-- Which of two equally near decimals is taken. -/
inductive Tie where
  /-- The one whose last digit is even. -/
  | even
  /-- The larger one. -/
  | up
  deriving DecidableEq, Repr

/-- Whether the upper of the two neighbours `floor` and `floor + 1` of a quotient is taken,
where both would do: the nearer one, and at the midpoint the one the tie rule names. -/
def Tie.takesUpper (tie : Tie) (floor remainder denominator : Nat) : Bool :=
  match compare (2 * remainder) denominator with
  | .lt => false
  | .gt => true
  | .eq => tie == .up || floor % 2 == 1

/-- A positive quotient compared with a power of ten: whether it is at least that large. -/
def reachesTenTo (numerator denominator : Nat) (power : Int) : Bool :=
  if 0 ≤ power then denominator * Nat.pow 10 power.toNat ≤ numerator
  else denominator ≤ numerator * Nat.pow 10 (-power).toNat

namespace Format

/-- The place of the leading digit of a positive magnitude: the least power of ten above
it. The binary length gives it up to one or two, and comparisons settle it. -/
def decimalPlace (format : Format) (units : Nat) : Int :=
  let guess := ((units.log2 : Int) - format.scale) * 30103 / 100000 - 1
  let above := fun power => !reachesTenTo units format.one power
  if above guess then guess
  else if above (guess + 1) then guess + 1
  else if above (guess + 2) then guess + 2
  else guess + 3

/-- The interval of magnitudes that round to `units`, as its two ends in quarters of a
unit. The lower end is nearer where the value is a power of two with finer spacing below. -/
def roundingInterval (format : Format) (units : Nat) : Nat × Nat :=
  let spacing := format.step units
  let below := if 1 < spacing && units == Nat.pow 2 units.log2 then spacing / 2 else spacing
  (4 * units - 2 * below, 4 * units + 2 * spacing)

/-- Whether the ends of the interval themselves round to `units`: they do where the
significand is even. -/
def ownsEnds (format : Format) (units : Nat) : Bool := units / format.step units % 2 == 0

/-- Whether a decimal reads back as `units`. -/
def readsBack (format : Format) (units : Nat) (d : Decimal) : Bool :=
  let ends := format.roundingInterval units
  let point := 4 * format.one * d.digits * Nat.pow 10 d.exponent.toNat
  let weight := Nat.pow 10 (-d.exponent).toNat
  let low := ends.1 * weight
  let high := ends.2 * weight
  if format.ownsEnds units then low ≤ point && point ≤ high else low < point && point < high

/-- The decimal of least length on the grid with `length` digits, if one reads back. -/
def shortestOn (format : Format) (tie : Tie) (units length : Nat) : Option Decimal :=
  let exponent := format.decimalPlace units - length
  let numerator := units * Nat.pow 10 (-exponent).toNat
  let denominator := format.one * Nat.pow 10 exponent.toNat
  let floor := numerator / denominator
  let remainder := numerator % denominator
  let low : Decimal := ⟨floor, exponent⟩
  let high : Decimal := ⟨floor + 1, exponent⟩
  match format.readsBack units low, format.readsBack units high with
  | true, true => some (if tie.takesUpper floor remainder denominator then high else low)
  | true, false => some low
  | false, true => some high
  | false, false => none

/-- The shortest decimal that reads back as a positive magnitude. Seventeen digits always
suffice for the formats of this library, so the search ends there. -/
def shortest (format : Format) (tie : Tie) (units : Nat) : Decimal :=
  match (List.range 17).findSome? fun short => format.shortestOn tie units (short + 1) with
  | some d => d.stripZeros
  | none => ⟨0, 0⟩

end Format

end ChatPrompt.Number
