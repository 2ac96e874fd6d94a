import ChatPrompt.Number.Double
import ChatPrompt.Number.Shortest

/-!
# Numbers as text

A number is written from its shortest decimal in one of a few styles, which differ in when
an exponent is used, how it is written, and whether a whole number keeps a decimal place.
-/

namespace ChatPrompt.Number

/-- A way of writing a floating number. -/
structure Style where
  /-- The powers of ten, least and greatest, of a leading digit that are written without an
  exponent; none where an exponent is never used. -/
  positional : Option (Int × Int)
  /-- Whether a number without fraction is written with one decimal place, `.0`. -/
  keepsPoint : Bool
  /-- Whether an exponent that is not negative carries a plus sign. -/
  plusSign : Bool
  /-- Which of two equally near decimals is written. -/
  tie : Tie
  deriving DecidableEq, Repr

namespace Style

/-- How a number is written inside a JSON document. -/
def json : Style := ⟨some (-5, 15), true, true, .even⟩

/-- How a number of single precision is written inside a JSON document. -/
def single : Style := ⟨some (-6, 12), true, true, .even⟩

/-- How a number is written in a sentence: all its places and no exponent. -/
def plain : Style := ⟨none, false, false, .up⟩

/-- How a number is written for inspection: always seen to be no integer. -/
def inspected : Style := ⟨some (-4, 15), true, false, .up⟩

/-- How a number is written in a settings file: all its places, and always seen to be no
integer. -/
def settings : Style := ⟨none, true, false, .up⟩

end Style

/-- The digits of a decimal with the point where its exponent puts it. -/
def Decimal.positional (d : Decimal) (keepsPoint : Bool) : List Char :=
  let digits := Nat.toDigits 10 d.digits
  if 0 ≤ d.exponent then
    digits ++ List.replicate d.exponent.toNat '0' ++ (if keepsPoint then ['.', '0'] else [])
  else
    let fraction := (-d.exponent).toNat
    if fraction < digits.length then
      digits.take (digits.length - fraction) ++ '.' :: digits.drop (digits.length - fraction)
    else ['0', '.'] ++ List.replicate (fraction - digits.length) '0' ++ digits

/-- The power of ten of the leading digit. -/
def Decimal.leadingPower (d : Decimal) : Int :=
  d.exponent + (Nat.toDigits 10 d.digits).length - 1

/-- The decimal with one digit before the point and the power of ten behind an `e`. -/
def Decimal.scientific (d : Decimal) (plusSign : Bool) : List Char :=
  let power := d.leadingPower
  let mantissa := match Nat.toDigits 10 d.digits with
    | first :: second :: rest => first :: '.' :: second :: rest
    | short => short
  let sign := if power < 0 then ['-'] else if plusSign then ['+'] else []
  mantissa ++ 'e' :: sign ++ Nat.toDigits 10 power.natAbs

/-- A magnitude of a format in a style. -/
def Format.write (format : Format) (style : Style) (negative : Bool) (units : Nat) : String :=
  let decimal := if units = 0 then ⟨0, 0⟩ else format.shortest style.tie units
  let plainly := match style.positional with
    | none => true
    | some (least, greatest) =>
      units = 0 || (least ≤ decimal.leadingPower && decimal.leadingPower ≤ greatest)
  let body := if plainly then decimal.positional style.keepsPoint
    else decimal.scientific style.plusSign
  String.ofList (if negative then '-' :: body else body)

/-- A double in a style. -/
def Double.write (style : Style) (x : Double) : String :=
  Format.binary64.write style x.negative x.units

/-- A double or an infinity in a style. -/
def Extended.write (style : Style) : Extended → String
  | .nan => "NaN"
  | .infinite true => "-inf"
  | .infinite false => "inf"
  | .finite x => x.write style

end ChatPrompt.Number
