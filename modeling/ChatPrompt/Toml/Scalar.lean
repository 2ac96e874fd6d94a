import ChatPrompt.Number.Reading
import ChatPrompt.Toml.Basic

/-!
# Numbers, dates and words of a settings file

A value that is not quoted and has no parts is a run of letters, digits and a few marks. A
number may have underscores between its digits, and a whole number may be written in another
base; it has to fit 64 bits. A date names a day that exists.
-/

namespace ChatPrompt.Toml

open Number

/-- A character of a value that is not quoted. -/
def isScalarChar (c : Char) : Bool :=
  c.isAlphanum || c = '_' || c = '+' || c = '-' || c = '.' || c = ':'

/-- The digits without the underscores between them; nothing where an underscore does not
stand between two digits, or where there is no digit. -/
def ungrouped? (isDigit : Char → Bool) : List Char → Option (List Char)
  | [] => none
  | [c] => if isDigit c then some [c] else none
  | c :: '_' :: rest =>
    if isDigit c then (ungrouped? isDigit rest).map (c :: ·) else none
  | c :: rest => if isDigit c then (ungrouped? isDigit rest).map (c :: ·) else none

/-- The digits of a decimal number before its point, which start with a zero only where they
are that zero. -/
def leadingDigits? (cs : List Char) : Option (List Char) :=
  (ungrouped? Char.isDigit cs).filter fun digits =>
    digits.length = 1 || digits.head? != some '0'

/-- The value of a digit in any base up to sixteen. -/
def baseDigitValue (c : Char) : Nat :=
  if c.isDigit then digitValue c else c.toLower.toNat - 'a'.toNat + 10

/-- The whole number that digits write in a base. -/
def baseValue (base : Nat) (digits : List Char) : Nat :=
  digits.foldl (fun sum c => base * sum + baseDigitValue c) 0

/-- A whole number, if it fits. -/
def fitting? (n : Int) : Option Toml :=
  if -0x8000000000000000 ≤ n && n < 0x8000000000000000 then some (.whole n) else none

/-- Whether a character is a digit of a base. -/
def isBaseDigit (base : Nat) (c : Char) : Bool :=
  c.isAlphanum && baseDigitValue c < base

/-- A whole number in a base that is not ten. -/
def inBase? (base : Nat) (cs : List Char) : Option Toml :=
  (ungrouped? (isBaseDigit base) cs).bind fun digits => fitting? (baseValue base digits)

/-- A whole number. -/
def whole? (cs : List Char) : Option Toml :=
  match cs with
  | '0' :: 'x' :: rest => inBase? 16 rest
  | '0' :: 'o' :: rest => inBase? 8 rest
  | '0' :: 'b' :: rest => inBase? 2 rest
  | cs =>
    let (negative, rest) := splitSign cs
    (leadingDigits? rest).bind fun digits =>
      fitting? (if negative then -(digitsValue digits : Int) else digitsValue digits)

/-- The names of numbers that no digits write. -/
def namedNumber? (cs : List Char) : Option Extended :=
  let (negative, rest) := splitSign cs
  if rest = ['i', 'n', 'f'] then some (.infinite negative)
  else if rest = ['n', 'a', 'n'] then some .nan
  else none

/-- An exponent, after its letter. -/
def exponent? (cs : List Char) : Option Int :=
  let (negative, rest) := splitSign cs
  (ungrouped? Char.isDigit rest).map fun digits =>
    if negative then -(digitsValue digits : Int) else digitsValue digits

/-- Whether a letter introduces an exponent. -/
def isExponentMark (c : Char) : Bool := c = 'e' || c = 'E'

/-- A number with a point or an exponent. One above the range is none. -/
def floating? (cs : List Char) : Option Extended := do
  let (negative, rest) := splitSign cs
  let digits ← leadingDigits? (rest.takeWhile fun c => c != '.' && !isExponentMark c)
  let value ← match rest.dropWhile fun c => c != '.' && !isExponentMark c with
    | '.' :: tail => do
      let fraction ← ungrouped? Char.isDigit (tail.takeWhile fun c => !isExponentMark c)
      let power ← match tail.dropWhile fun c => !isExponentMark c with
        | [] => some 0
        | _ :: written => exponent? written
      some (Extended.ofDecimal negative (digitsValue (digits ++ fraction))
        (power - fraction.length))
    | _ :: written => do
      let power ← exponent? written
      some (Extended.ofDecimal negative (digitsValue digits) power)
    | [] => none
  if value = .infinite false then none else some value

/-- The value of two digits up to a limit, and what follows them. -/
def twoDigits? (least greatest : Nat) : List Char → Option (Nat × List Char)
  | a :: b :: rest =>
    let value := digitsValue [a, b]
    if a.isDigit && b.isDigit && least ≤ value && value ≤ greatest then some (value, rest)
    else none
  | _ => none

/-- What follows a certain character. -/
def after? (c : Char) : List Char → Option (List Char)
  | [] => none
  | d :: rest => if c = d then some rest else none

/-- The number of days of a month. -/
def daysOf (year month : Nat) : Nat :=
  if month = 2 then
    if year % 4 = 0 && (year % 100 != 0 || year % 400 = 0) then 29 else 28
  else if month = 4 || month = 6 || month = 9 || month = 11 then 30
  else 31

/-- What follows a date. -/
def afterDate? (cs : List Char) : Option (List Char) := do
  let year := cs.take 4
  if year.length = 4 && year.all Char.isDigit then
    let rest ← after? '-' (cs.drop 4)
    let (month, rest) ← twoDigits? 1 12 rest
    let rest ← after? '-' rest
    let (_, rest) ← twoDigits? 1 (daysOf (digitsValue year) month) rest
    some rest
  else none

/-- What follows a time of day. -/
def afterTime? (cs : List Char) : Option (List Char) := do
  let (_, rest) ← twoDigits? 0 23 cs
  let rest ← after? ':' rest
  let (_, rest) ← twoDigits? 0 59 rest
  let rest ← after? ':' rest
  let (_, rest) ← twoDigits? 0 60 rest
  match rest with
  | '.' :: digits =>
    if (digits.takeWhile Char.isDigit).isEmpty then none else some (digits.dropWhile Char.isDigit)
  | rest => some rest

/-- Whether the rest of a date and time is a distance from universal time, or nothing. -/
def isOffset : List Char → Bool
  | [] => true
  | ['Z'] => true
  | ['z'] => true
  | c :: rest =>
    (c = '+' || c = '-') && ((do
      let (_, rest) ← twoDigits? 0 23 rest
      let rest ← after? ':' rest
      let (_, rest) ← twoDigits? 0 59 rest
      some rest.isEmpty).getD false)

/-- Whether text is a time of day with an optional distance from universal time. -/
def isZonedTime (cs : List Char) : Bool := (afterTime? cs).any isOffset

/-- Whether text is a date alone. -/
def isDate (cs : List Char) : Bool := (afterDate? cs).any List.isEmpty

/-- Whether text is a date, a time of day, or both with a letter between them. -/
def isMoment (cs : List Char) : Bool :=
  (afterTime? cs).any List.isEmpty ||
    (afterDate? cs).any fun rest =>
      match rest with
      | [] => true
      | c :: time => (c = 'T' || c = 't') && isZonedTime time

/-- The value that a run of characters writes. -/
def scalar? (cs : List Char) : Option Toml :=
  if cs = ['t', 'r', 'u', 'e'] then some (.flag true)
  else if cs = ['f', 'a', 'l', 's', 'e'] then some (.flag false)
  else if isMoment cs then some .moment
  else ((floating? cs).or (namedNumber? cs)).map .floating |>.or (whole? cs)

end ChatPrompt.Toml
