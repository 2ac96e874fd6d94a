import ChatPrompt.Json.Basic
import ChatPrompt.Number.Text

/-!
# JSON text

Two ways to write a value: compact, on one line without spaces, and indented, with two
spaces for each level and empty arrays and objects closed at once. Strings escape the quote,
the backslash and the controls, and nothing else. An indented value can have its floating
numbers in another style than that of double precision.
-/

namespace ChatPrompt.Json

open Number (Style)

/-- One hexadecimal digit in lower case. -/
def hexDigit (n : Nat) : Char := Nat.digitChar (n % 16)

/-- One character as it stands inside a string. -/
def escapedChar (c : Char) : List Char :=
  if c = '"' then ['\\', '"']
  else if c = '\\' then ['\\', '\\']
  else if c = '\x08' then ['\\', 'b']
  else if c = '\x0c' then ['\\', 'f']
  else if c = '\n' then ['\\', 'n']
  else if c = '\r' then ['\\', 'r']
  else if c = '\t' then ['\\', 't']
  else if c.toNat < 0x20 then ['\\', 'u', '0', '0', hexDigit (c.toNat / 16), hexDigit c.toNat]
  else [c]

/-- A string with its quotes. -/
def escaped (text : String) : String :=
  String.ofList ('"' :: text.toList.flatMap escapedChar ++ ['"'])

/-- The text of a number in a style. -/
def Numeral.writeIn (style : Style) : Numeral → String
  | .whole n => toString n
  | .floating x => x.write style

/-- The text of a number. -/
def Numeral.write (n : Numeral) : String := n.writeIn .json

mutual

/-- The value on one line, without spaces. -/
def compact : Json → String
  | .null => "null"
  | .bool b => if b then "true" else "false"
  | .number n => n.write
  | .string s => escaped s
  | .array items => "[" ++ compactItems items ++ "]"
  | .object fields => "\x7b" ++ compactFields fields ++ "\x7d"

/-- The elements with commas between them. -/
def compactItems : List Json → String
  | [] => ""
  | [item] => compact item
  | item :: rest => compact item ++ "," ++ compactItems rest

/-- The fields with commas between them. -/
def compactFields : Fields → String
  | [] => ""
  | [(key, value)] => escaped key ++ ":" ++ compact value
  | (key, value) :: rest => escaped key ++ ":" ++ compact value ++ "," ++ compactFields rest

end

/-- A new line at a level of indentation. -/
def newLine (level : Nat) : String := "\n" ++ String.ofList (List.replicate (2 * level) ' ')

mutual

/-- The value over several lines, starting at a level of indentation. -/
def indentedAt (style : Style) (level : Nat) : Json → String
  | .array [] => "[]"
  | .array (item :: items) => "[" ++ indentedItems style (level + 1) (item :: items) ++
      newLine level ++ "]"
  | .object [] => "\x7b\x7d"
  | .object (field :: fields) => "\x7b" ++ indentedFields style (level + 1) (field :: fields) ++
      newLine level ++ "\x7d"
  | .null => "null"
  | .bool b => if b then "true" else "false"
  | .number n => n.writeIn style
  | .string s => escaped s

/-- The elements, each on a line of its own. -/
def indentedItems (style : Style) (level : Nat) : List Json → String
  | [] => ""
  | [item] => newLine level ++ indentedAt style level item
  | item :: rest => newLine level ++ indentedAt style level item ++ "," ++
      indentedItems style level rest

/-- The fields, each on a line of its own. -/
def indentedFields (style : Style) (level : Nat) : Fields → String
  | [] => ""
  | [(key, value)] => newLine level ++ escaped key ++ ": " ++ indentedAt style level value
  | (key, value) :: rest => newLine level ++ escaped key ++ ": " ++
      indentedAt style level value ++ "," ++ indentedFields style level rest

end

/-- The value over several lines, with its floating numbers in a style. -/
def indentedIn (style : Style) (value : Json) : String := indentedAt style 0 value

/-- The value over several lines. -/
def indented (value : Json) : String := value.indentedIn .json

end ChatPrompt.Json
