import ChatPrompt.Json.Printer
import ChatPrompt.Number.Text
import ChatPrompt.Toml.Basic

/-!
# Writing values of a settings file

Texts are written in the quotes that need the fewest escapes: double quotes where nothing has
to be escaped, then single quotes, then the same over several lines, and double quotes with
escapes where nothing else will do. An array of more than one element has a line for each.
-/

namespace ChatPrompt.Toml

/-- The length of the longest run of a character. -/
def longestRun (c : Char) (cs : List Char) : Nat := go 0 0 cs
where
  /-- The longest run, knowing the run that ends here and the longest before. -/
  go (current longest : Nat) : List Char → Nat
    | [] => longest
    | d :: rest =>
      if d = c then go (current + 1) (max longest (current + 1)) rest else go 0 longest rest

/-- Whether a character can only be written by an escape. -/
def needsCode (c : Char) : Bool :=
  (c.toNat < 0x20 && c != '\t' && c != '\n') || c = '\x7f'

/-- The escape of a character, if it has a short one. -/
def shortEscape? (c : Char) : Option String :=
  if c = '\x08' then some "\\b"
  else if c = '\t' then some "\\t"
  else if c = '\n' then some "\\n"
  else if c = '\x0c' then some "\\f"
  else if c = '\r' then some "\\r"
  else if c = '\\' then some "\\\\"
  else none

/-- The escape of a character by its code. -/
def codeEscape (c : Char) : String :=
  String.ofList ['\\', 'u', '0', '0', (Json.hexDigit (c.toNat / 16)).toUpper,
    (Json.hexDigit c.toNat).toUpper]

/-- Characters between double quotes. Over several lines ends of lines stay, and of a run of
quotes each third is escaped; `quotes` counts those that stand before. -/
def escaped (overLines : Bool) (quotes : Nat) : List Char → String
  | [] => ""
  | '"' :: rest =>
    if (if overLines then 2 else 0) ≤ quotes then "\\\"" ++ escaped overLines 0 rest
    else "\"" ++ escaped overLines (quotes + 1) rest
  | c :: rest =>
    if c = '\n' && overLines then "\n" ++ escaped overLines 0 rest
    else
      let written := match shortEscape? c with
        | some short => short
        | none => if needsCode c then codeEscape c else c.toString
      written ++ escaped overLines 0 rest

/-- A text in quotes. -/
def quoted (text : String) : String :=
  let cs := text.toList
  let codes := cs.any needsCode
  let backslash := cs.contains '\\'
  let lines := cs.contains '\n'
  let singles := longestRun '\'' cs
  let doubles := longestRun '"' cs
  let opening := if lines then "\n" else ""
  let block := "\"\"\"" ++ opening ++ escaped true 0 cs ++ "\"\"\""
  if !codes && !backslash && doubles = 0 && !lines then "\"" ++ escaped false 0 cs ++ "\""
  else if !codes && singles = 0 && !lines then "'" ++ text ++ "'"
  else if !codes && !backslash && doubles ≤ 2 then block
  else if !codes && singles ≤ 2 then "'''" ++ opening ++ text ++ "'''"
  else if lines then block
  else "\"" ++ escaped false 0 cs ++ "\""

/-- An array of texts. -/
def quotedList (texts : List String) : String :=
  match texts with
  | [] => "[]"
  | [only] => "[" ++ quoted only ++ "]"
  | several => "[\n" ++ String.join (several.map fun one => "    " ++ quoted one ++ ",\n") ++ "]"

end ChatPrompt.Toml
