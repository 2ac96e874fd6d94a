import ChatPrompt.Toml.Scalar
import ChatPrompt.Toml.Tree

/-!
# Reading a settings file

A file is read into statements, one for each line that says something, and the statements are
then brought together into tables. Every recursive call stands behind at least one character,
so the number of characters bounds the recursion.
-/

namespace ChatPrompt.Toml.Reader

/-- What a step leaves: what it read and the characters after it. -/
abbrev Step (α : Type) := Option (α × List Char)

/-- How many arrays and tables may be open at once, and how many parts a key has at most. -/
def depthLimit : Nat := 79

/-- The characters from the first that is neither space nor tab. -/
def skipBlanks (cs : List Char) : List Char := cs.dropWhile fun c => c = ' ' || c = '\t'

/-- Whether a character may stand in a comment or between quotes as it is: any but the
control characters, of which the tab may. -/
def isPlain (c : Char) : Bool := c = '\t' || (' ' ≤ c && c != '\x7f')

/-- What follows the end of a line. -/
def afterNewline? : List Char → Option (List Char)
  | '\n' :: rest => some rest
  | '\r' :: '\n' :: rest => some rest
  | _ => none

/-- What follows a comment, if there is one here. -/
def skipComment : List Char → List Char
  | '#' :: rest => rest.dropWhile isPlain
  | cs => cs

/-- What follows the rest of a line on which nothing more is said. -/
def afterLine? (cs : List Char) : Option (List Char) :=
  match skipComment (skipBlanks cs) with
  | [] => some []
  | rest => afterNewline? rest

/-- The characters from the first that says something, on this line or a later one. -/
def skipLines (bound : Nat) (cs : List Char) : List Char :=
  match bound with
  | 0 => cs
  | bound + 1 =>
    let rest := skipBlanks cs
    match afterNewline? (skipComment rest) with
    | some next => skipLines bound next
    | none => rest

/-- A character written by its code in so many hexadecimal digits. -/
def readCode (digits : Nat) (cs : List Char) : Step Char :=
  let written := cs.take digits
  let code := baseValue 16 written
  if written.length = digits && written.all (isBaseDigit 16) && code.isValidChar then
    some (Char.ofNat code, cs.drop digits)
  else none

/-- An escaped character, after the backslash. -/
def readEscape : List Char → Step Char
  | 'b' :: rest => some ('\x08', rest)
  | 't' :: rest => some ('\t', rest)
  | 'n' :: rest => some ('\n', rest)
  | 'f' :: rest => some ('\x0c', rest)
  | 'r' :: rest => some ('\r', rest)
  | '"' :: rest => some ('"', rest)
  | '\\' :: rest => some ('\\', rest)
  | 'u' :: rest => readCode 4 rest
  | 'U' :: rest => readCode 8 rest
  | _ => none

/-- The characters of a text up to its closing quote, all on one line. `before` are those read
so far, last first. -/
def readLine (bound : Nat) (quote : Char) (before : List Char) (cs : List Char) :
    Step String :=
  match bound, cs with
  | 0, _ => none
  | _, [] => none
  | bound + 1, c :: rest =>
    if c = quote then some (String.ofList before.reverse, rest)
    else if c = '\\' && quote = '"' then
      (readEscape rest).bind fun (c, rest) => readLine bound quote (c :: before) rest
    else if isPlain c then readLine bound quote (c :: before) rest
    else none

/-- What follows a backslash at the end of a line, which joins it with the next line that has
something in it. A lone carriage return does not end a line. -/
def afterJoin? (bound : Nat) (cs : List Char) : Option (List Char) :=
  (afterNewline? (skipBlanks cs)).map fun rest => go bound rest
where
  /-- What follows further ends of lines. -/
  go (bound : Nat) (cs : List Char) : List Char :=
    match bound with
    | 0 => cs
    | bound + 1 =>
      let rest := skipBlanks cs
      match afterNewline? rest with
      | some next => go bound next
      | none => rest

/-- The characters of a text over several lines up to its closing quotes, before which two
more may stand. `before` are those read so far, last first. -/
def readLines (bound : Nat) (quote : Char) (before : List Char) (cs : List Char) :
    Step String :=
  match bound, cs with
  | 0, _ => none
  | _, [] => none
  | bound + 1, c :: rest =>
    if c = quote then
      let run := (c :: rest).takeWhile (· = quote)
      let others := (c :: rest).dropWhile (· = quote)
      if run.length < 3 then readLines bound quote (run ++ before) others
      else if run.length ≤ 5 then
        some (String.ofList ((run.drop 3 ++ before).reverse), others)
      else none
    else if c = '\\' && quote = '"' then
      match afterJoin? bound rest with
      | some next => readLines bound quote before next
      | none =>
        (readEscape rest).bind fun (c, rest) => readLines bound quote (c :: before) rest
    else
      match afterNewline? (c :: rest) with
      | some next => readLines bound quote ('\n' :: before) next
      | none => if isPlain c then readLines bound quote (c :: before) rest else none

/-- A text over several lines, after its opening quotes. An end of line right there does not
count. -/
def readBlock (quote : Char) (cs : List Char) : Step String :=
  let rest := (afterNewline? cs).getD cs
  readLines (rest.length + 1) quote [] rest

/-- A quoted text, after its first quote. -/
def readQuoted (quote : Char) (cs : List Char) : Step String :=
  match cs with
  | second :: third :: rest =>
    if second = quote && third = quote then readBlock quote rest
    else readLine (cs.length + 1) quote [] cs
  | cs => readLine (cs.length + 1) quote [] cs

/-- A character of a key without quotes. -/
def isKeyChar (c : Char) : Bool := c.isAlphanum || c = '_' || c = '-'

/-- A part of a key. -/
def readPart (cs : List Char) : Step String :=
  match cs with
  | '"' :: rest => readLine (rest.length + 1) '"' [] rest
  | '\'' :: rest => readLine (rest.length + 1) '\'' [] rest
  | cs =>
    let name := cs.takeWhile isKeyChar
    if name.isEmpty then none else some (String.ofList name, cs.dropWhile isKeyChar)

/-- A key: its parts but the last, and the last. `before` are the parts read so far, last
first. -/
def readKey (bound : Nat) (before : List String) (cs : List Char) :
    Step (List String × String) :=
  match bound with
  | 0 => none
  | bound + 1 =>
    (readPart (skipBlanks cs)).bind fun (part, rest) =>
      match skipBlanks rest with
      | '.' :: rest => readKey bound (part :: before) rest
      | rest => some ((before.reverse, part), rest)

/-- A value that is not quoted and has no parts. A date and a time may have a space between
them. -/
def readScalar (cs : List Char) : Step Toml :=
  let run := cs.takeWhile isScalarChar
  let rest := cs.dropWhile isScalarChar
  match rest with
  | ' ' :: others =>
    let time := others.takeWhile isScalarChar
    if isDate run && isZonedTime time then some (.moment, others.dropWhile isScalarChar)
    else (scalar? run).map (·, rest)
  | rest => (scalar? run).map (·, rest)

mutual

/-- A value. `bound` is at least the number of characters, `depth` how many more arrays and
tables may be opened. -/
def readValue (bound depth : Nat) (cs : List Char) : Step Toml :=
  match bound with
  | 0 => none
  | bound + 1 =>
    match cs with
    | '"' :: rest => (readQuoted '"' rest).map fun (content, rest) => (.text content, rest)
    | '\'' :: rest => (readQuoted '\'' rest).map fun (content, rest) => (.text content, rest)
    | '[' :: rest =>
      if depth = 0 then none
      else (readItems bound (depth - 1) [] rest).map fun (items, rest) => (.array items, rest)
    | '\x7b' :: rest =>
      if depth = 0 then none
      else match skipBlanks rest with
        | '\x7d' :: rest => some (.table [], rest)
        | rest => (readPairs bound (depth - 1) [] rest).bind fun (pairs, rest) =>
          (ofPairs? pairs).map (·, rest)
    | cs => readScalar cs

/-- The elements of an array up to its end; `before` are those read, last first. After each a
comma may stand, also after the last. -/
def readItems (bound depth : Nat) (before : List Toml) (cs : List Char) : Step (List Toml) :=
  match bound with
  | 0 => none
  | bound + 1 =>
    match skipLines bound cs with
    | ']' :: rest => some (before.reverse, rest)
    | cs =>
      (readValue bound depth cs).bind fun (item, rest) =>
        match skipLines bound rest with
        | ',' :: rest => readItems bound depth (item :: before) rest
        | ']' :: rest => some ((item :: before).reverse, rest)
        | _ => none

/-- The entries of a table between braces that has one more; `before` are those read, last
first. -/
def readPairs (bound depth : Nat) (before : List (List String × String × Toml))
    (cs : List Char) : Step (List (List String × String × Toml)) :=
  match bound with
  | 0 => none
  | bound + 1 =>
    (readKey depthLimit [] cs).bind fun (key, rest) =>
      match rest with
      | '=' :: rest =>
        (readValue bound depth (skipBlanks rest)).bind fun (value, rest) =>
          match skipBlanks rest with
          | ',' :: rest => readPairs bound depth ((key.1, key.2, value) :: before) rest
          | '\x7d' :: rest => some (((key.1, key.2, value) :: before).reverse, rest)
          | _ => none
      | _ => none

end

/-- The statement of a line that says something. -/
def readStatement (cs : List Char) : Step Statement :=
  match cs with
  | '[' :: '[' :: rest =>
    (readKey depthLimit [] rest).bind fun (key, rest) =>
      match rest with
      | ']' :: ']' :: rest => some (.element key.1 key.2, rest)
      | _ => none
  | '[' :: rest =>
    (readKey depthLimit [] rest).bind fun (key, rest) =>
      match rest with
      | ']' :: rest => some (.header key.1 key.2, rest)
      | _ => none
  | cs =>
    (readKey depthLimit [] cs).bind fun (key, rest) =>
      match rest with
      | '=' :: rest =>
        (readValue (2 * rest.length + 2) depthLimit (skipBlanks rest)).map fun (value, rest) =>
          (.entry key.1 key.2 value, rest)
      | _ => none

/-- The statements of a file; `before` are those read, last first. -/
def readStatements (bound : Nat) (before : List Statement) (cs : List Char) :
    Option (List Statement) :=
  match bound with
  | 0 => none
  | bound + 1 =>
    let line := skipLines bound cs
    if (skipComment line).isEmpty then some before.reverse
    else
      (readStatement line).bind fun (statement, rest) =>
        (afterLine? rest).bind fun next => readStatements bound (statement :: before) next

end Reader

/-- The entries of a settings file, if it is one. A mark for the order of bytes at its start
does not count. -/
def read? (text : String) : Option (List (String × Toml)) :=
  let cs := match text.toList with
    | '\ufeff' :: rest => rest
    | cs => cs
  (Reader.readStatements (cs.length + 1) [] cs).bind ofStatements?

end ChatPrompt.Toml
