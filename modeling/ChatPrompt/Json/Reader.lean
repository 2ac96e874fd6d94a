import ChatPrompt.Json.Basic
import ChatPrompt.Number.Reading

/-!
# Reading JSON text

A reader for documents. Numbers without point and exponent that fit 64 bits are whole;
every other number is floating, also a negative zero. The digits of a floating number are
gathered into one 64-bit significand, digits beyond that are dropped, and the significand is
scaled once by a power of ten, each of the two rounded to a double first. Nesting is limited,
and of two fields with one key the later one counts.

Every recursive call stands behind at least one character, so the number of characters
bounds the depth of the recursion.
-/

namespace ChatPrompt.Json.Reader

open Number

/-- What a step leaves: what it read and the characters after it. -/
abbrev Step (α : Type) := Option (α × List Char)

/-- The first significand that no longer fits. -/
def significandLimit : Nat := UInt64.size

/-- How many arrays and objects may be open at once. -/
def depthLimit : Nat := 127

/-- The characters from the first that is not white space of JSON. -/
def skipBlanks (cs : List Char) : List Char :=
  cs.dropWhile fun c => c = ' ' || c = '\t' || c = '\n' || c = '\r'

/-- The double nearest to a power of ten. -/
def powerOfTen (power : Nat) : Nat := Format.binary64.round (Nat.pow 10 power) 1

/-- A magnitude divided by a power of ten, in steps of at most three hundred and eight, each
step rounded. Nothing is left to divide once the magnitude is zero. -/
def scaleDown (steps units exponent : Nat) : Nat :=
  match steps with
  | 0 => 0
  | steps + 1 =>
    if units = 0 then 0
    else if exponent ≤ 308 then Format.binary64.round units (powerOfTen exponent)
    else scaleDown steps (Format.binary64.round units (powerOfTen 308)) (exponent - 308)

/-- A significand scaled by a power of ten; nothing where that is out of range. -/
def scaled (negative : Bool) (significand : Nat) (exponent : Int) : Option Json :=
  let units := Format.binary64.round significand 1
  let magnitude : Option Nat :=
    if exponent < 0 then some (scaleDown 4 units (-exponent).toNat)
    else if units = 0 then some 0
    else if 308 < exponent then none
    else
      let product := units * powerOfTen exponent.toNat
      let result := Format.binary64.round product (Format.binary64.one * Format.binary64.one)
      if Format.binary64.inRange result then some result else none
  magnitude.map fun units => .number (.floating ⟨negative, units⟩)

/-- Gathers digits into a significand until one more would not fit, and gives the significand
and the digits that were left. -/
def gather (significand : Nat) : List Char → Nat × List Char
  | [] => (significand, [])
  | c :: rest =>
    let next := 10 * significand + digitValue c
    if next < significandLimit then gather next rest else (significand, c :: rest)

/-- The exponent of a number whose significand is complete, and the characters after it. -/
def readExponent (cs : List Char) : Step Int :=
  let (negative, rest) := splitSign cs
  let digits := rest.takeWhile Char.isDigit
  if digits.isEmpty then none
  else
    let size : Int := digitsValue digits
    some (if negative then -size else size, rest.dropWhile Char.isDigit)

/-- The value of a number whose digits are given, and what follows them. -/
def finishNumber (negative : Bool) (whole : List Char) (cs : List Char) : Step Json :=
  let (significand, dropped) := gather 0 whole
  let withExponent (significand : Nat) (exponent : Int) (cs : List Char) : Step Json :=
    match cs with
    | c :: rest =>
      if c = 'e' || c = 'E' then
        (readExponent rest).bind fun (power, rest) =>
          (scaled negative significand (exponent + power)).map (·, rest)
      else (scaled negative significand exponent).map (·, c :: rest)
    | [] => (scaled negative significand exponent).map (·, [])
  match cs with
  | '.' :: rest =>
    let fraction := rest.takeWhile Char.isDigit
    let (full, unread) := gather significand fraction
    if fraction.isEmpty then none
    else
      let places : Int := fraction.length - unread.length
      withExponent full (dropped.length - places) (rest.dropWhile Char.isDigit)
  | cs =>
    let plain := !(cs.head?.any fun c => c = 'e' || c = 'E')
    if plain && dropped.isEmpty && !negative then some (ofNat significand, cs)
    else if plain && dropped.isEmpty && 0 < significand && significand ≤ 0x8000000000000000 then
      some (ofInt (-(significand : Int)), cs)
    else withExponent significand dropped.length cs

/-- A number; its digits start with a zero only where they are that zero. -/
def readNumber (cs : List Char) : Step Json :=
  let (negative, rest) := match cs with
    | '-' :: rest => (true, rest)
    | cs => (false, cs)
  let whole := rest.takeWhile Char.isDigit
  let tail := rest.dropWhile Char.isDigit
  if whole.isEmpty || (1 < whole.length && whole.head? == some '0') then none
  else finishNumber negative whole tail

/-- The value of one hexadecimal digit. -/
def hexValue? (c : Char) : Option Nat :=
  if c.isDigit then some (c.toNat - '0'.toNat)
  else if 'a' ≤ c && c ≤ 'f' then some (c.toNat - 'a'.toNat + 10)
  else if 'A' ≤ c && c ≤ 'F' then some (c.toNat - 'A'.toNat + 10)
  else none

/-- Four hexadecimal digits. -/
def readHex : List Char → Option (Nat × List Char)
  | a :: b :: c :: d :: rest => do
    let a ← hexValue? a
    let b ← hexValue? b
    let c ← hexValue? c
    let d ← hexValue? d
    some (4096 * a + 256 * b + 16 * c + d, rest)
  | _ => none

/-- A character written by its code, after `\u`. A code above the basic plane is written as
two halves, the second behind a `\u` of its own, and no half stands alone. -/
def readCode (cs : List Char) : Option (Char × List Char) := do
  let (first, rest) ← readHex cs
  if 0xd800 ≤ first && first < 0xdc00 then
    match rest with
    | '\\' :: 'u' :: rest =>
      let (second, rest) ← readHex rest
      if 0xdc00 ≤ second && second < 0xe000 then
        some (Char.ofNat (0x10000 + (first - 0xd800) * 1024 + (second - 0xdc00)), rest)
      else none
    | _ => none
  else if 0xdc00 ≤ first && first < 0xe000 then none
  else some (Char.ofNat first, rest)

/-- An escaped character, after the backslash. -/
def readEscape : List Char → Step Char
  | '"' :: rest => some ('"', rest)
  | '\\' :: rest => some ('\\', rest)
  | '/' :: rest => some ('/', rest)
  | 'b' :: rest => some ('\x08', rest)
  | 'f' :: rest => some ('\x0c', rest)
  | 'n' :: rest => some ('\n', rest)
  | 'r' :: rest => some ('\r', rest)
  | 't' :: rest => some ('\t', rest)
  | 'u' :: rest => readCode rest
  | _ => none

/-- The characters of a string up to its closing quote. `bound` is at least the number of
characters, `before` the characters read so far, last first. -/
def readString (bound : Nat) (before : List Char) (cs : List Char) :
    Option (String × List Char) :=
  match bound, cs with
  | 0, _ => none
  | _, [] => none
  | _ + 1, '"' :: rest => some (String.ofList before.reverse, rest)
  | bound + 1, '\\' :: rest => do
    let (c, rest) ← readEscape rest
    readString bound (c :: before) rest
  | bound + 1, c :: rest =>
    if c.toNat < 0x20 then none else readString bound (c :: before) rest

/-- A word that stands for a value. -/
def readWord (word : List Char) (value : Json) (cs : List Char) : Step Json :=
  if word.isPrefixOf cs then some (value, cs.drop word.length) else none

mutual

/-- A value. `bound` is at least the number of characters, `depth` how many more arrays and
objects may be opened. -/
def readValue (bound depth : Nat) (cs : List Char) : Step Json :=
  match bound with
  | 0 => none
  | bound + 1 =>
    match skipBlanks cs with
    | 'n' :: rest => readWord ['u', 'l', 'l'] .null rest
    | 't' :: rest => readWord ['r', 'u', 'e'] (.bool true) rest
    | 'f' :: rest => readWord ['a', 'l', 's', 'e'] (.bool false) rest
    | '"' :: rest => (readString rest.length.succ [] rest).map fun (s, rest) => (.string s, rest)
    | '[' :: rest =>
      if depth = 0 then none
      else match skipBlanks rest with
        | ']' :: rest => some (.array [], rest)
        | rest => (readItems bound (depth - 1) [] rest).map fun (xs, rest) => (.array xs, rest)
    | '\x7b' :: rest =>
      if depth = 0 then none
      else match skipBlanks rest with
        | '\x7d' :: rest => some (.object [], rest)
        | rest => (readMembers bound (depth - 1) [] rest).map fun (fields, rest) =>
            (.object (Keyed.ordered fields), rest)
    | rest => readNumber rest

/-- The elements of an array that has one more; `before` are those read, last first. -/
def readItems (bound depth : Nat) (before : List Json) (cs : List Char) : Step (List Json) :=
  match bound with
  | 0 => none
  | bound + 1 =>
    match readValue bound depth cs with
    | none => none
    | some (item, rest) =>
      match skipBlanks rest with
      | ',' :: rest => readItems bound depth (item :: before) rest
      | ']' :: rest => some ((item :: before).reverse, rest)
      | _ => none

/-- The fields of an object that has one more; `before` are those read, last first. -/
def readMembers (bound depth : Nat) (before : Fields) (cs : List Char) : Step Fields :=
  match bound with
  | 0 => none
  | bound + 1 =>
    match skipBlanks cs with
    | '"' :: rest =>
      match readString rest.length.succ [] rest with
      | none => none
      | some (key, rest) =>
        match skipBlanks rest with
        | ':' :: rest =>
          match readValue bound depth rest with
          | none => none
          | some (value, rest) =>
            match skipBlanks rest with
            | ',' :: rest => readMembers bound depth ((key, value) :: before) rest
            | '\x7d' :: rest => some (((key, value) :: before).reverse, rest)
            | _ => none
        | _ => none
    | _ => none

end

end Reader

/-- The value a text writes, if it is a JSON document and nothing else. -/
def read? (text : String) : Option Json :=
  let cs := text.toList
  match Reader.readValue (2 * cs.length + 2) Reader.depthLimit cs with
  | some (value, rest) => if (Reader.skipBlanks rest).isEmpty then some value else none
  | none => none

end ChatPrompt.Json
