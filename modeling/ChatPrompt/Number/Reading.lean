import ChatPrompt.Number.Double

/-!
# Reading numbers from text

Two readers. A whole number is a run of decimal digits with an optional plus sign, up to a
limit. A floating number is an optional sign and either digits with an optional point and an
optional exponent, or the name of an infinity or of the value that is not a number in any
case; its value is the double nearest to the decimal that is written.
-/

namespace ChatPrompt.Number

/-- The value of one decimal digit. -/
def digitValue (c : Char) : Nat := c.toNat - '0'.toNat

/-- The whole number that a list of decimal digits writes. -/
def digitsValue (digits : List Char) : Nat :=
  digits.foldl (fun sum c => 10 * sum + digitValue c) 0

/-- The text without one leading sign, and whether that sign was a minus. -/
def splitSign : List Char → Bool × List Char
  | '-' :: rest => (true, rest)
  | '+' :: rest => (false, rest)
  | cs => (false, cs)

/-- A whole number below `limit`, written with digits only after an optional plus sign. -/
def wholeOfText? (limit : Nat) (cs : List Char) : Option Nat :=
  let digits := match cs with
    | '+' :: rest => rest
    | rest => rest
  if digits.isEmpty || !digits.all Char.isDigit then none
  else if digitsValue digits < limit then some (digitsValue digits) else none

/-- The names of the values that no digits write. -/
def namedValue? (negative : Bool) (cs : List Char) : Option Extended :=
  let name := cs.map Char.toLower
  if name = ['i', 'n', 'f'] || name = ['i', 'n', 'f', 'i', 'n', 'i', 't', 'y'] then
    some (.infinite negative)
  else if name = ['n', 'a', 'n'] then some .nan
  else none

/-- An exponent: nothing at all, or `e` with an optional sign and at least one digit. -/
def exponentOfText? : List Char → Option Int
  | [] => some 0
  | c :: rest =>
    let (negative, digits) := splitSign rest
    if (c = 'e' || c = 'E') && !digits.isEmpty && digits.all Char.isDigit then
      some (if negative then -(digitsValue digits : Int) else digitsValue digits)
    else none

/-- A decimal with its sign already read. -/
def decimalOfText? (negative : Bool) (cs : List Char) : Option Extended :=
  let whole := cs.takeWhile Char.isDigit
  let afterWhole := cs.dropWhile Char.isDigit
  let (fraction, tail) := match afterWhole with
    | '.' :: rest => (rest.takeWhile Char.isDigit, rest.dropWhile Char.isDigit)
    | rest => ([], rest)
  if whole.isEmpty && fraction.isEmpty then none
  else (exponentOfText? tail).map fun exponent =>
    Extended.ofDecimal negative (digitsValue (whole ++ fraction)) (exponent - fraction.length)

/-- A floating number. -/
def floatOfText? (cs : List Char) : Option Extended :=
  let (negative, body) := splitSign cs
  (namedValue? negative body).or (decimalOfText? negative body)

end ChatPrompt.Number
