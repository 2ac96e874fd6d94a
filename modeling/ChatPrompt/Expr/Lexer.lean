import ChatPrompt.Expr.Token
import ChatPrompt.Number.Reading
import ChatPrompt.Path
import ChatPrompt.Text.Offset

/-!
# From text to tokens

The lexer reads one lexeme at a time: a run of characters that belongs together, which is a
token or white space. Each step says which characters it took and which it left, and that
together they are the characters it was given; so no character is lost, offsets are sums of
sizes, and the reading ends.
-/

namespace ChatPrompt.Lexer

open Number

/-- One lexeme, after its first character. -/
structure Lexeme (rest : List Char) where
  /-- The token it is; white space is none. -/
  kind : Option Token.Kind
  /-- The characters it takes besides the first. -/
  body : List Char
  /-- The characters it leaves. -/
  after : List Char
  /-- Nothing is lost. -/
  whole : body ++ after = rest

/-- What a lexeme leaves is no longer than what was there. -/
theorem Lexeme.length_after_le {rest : List Char} (lexeme : Lexeme rest) :
    lexeme.after.length ≤ rest.length := by
  have h := congrArg List.length lexeme.whole
  rw [List.length_append] at h
  omega

/-- A lexeme of one character. -/
def single (kind : Option Token.Kind) (rest : List Char) : Lexeme rest := ⟨kind, [], rest, rfl⟩

/-- A mark of one character. -/
def mark (mark : Mark) (rest : List Char) : Lexeme rest := single (some (.mark mark)) rest

/-- A mark of two characters, whose second is the next one. -/
def double (mark : Mark) (c : Char) (rest : List Char) : Lexeme (c :: rest) :=
  ⟨some (.mark mark), [c], rest, rfl⟩

/-- The inside of a text in quotes. -/
structure Inside (cs : List Char) where
  /-- The characters it stands for. -/
  value : List Char
  /-- The characters it is written with, the closing quote included. -/
  body : List Char
  /-- The characters after the closing quote. -/
  after : List Char
  /-- Nothing is lost. -/
  whole : body ++ after = cs

/-- The character that an escape stands for: a new line, a tabulator, or the character after
the backslash itself. -/
def unescaped (c : Char) : Char :=
  if c = 'n' then '\n' else if c = 't' then '\t' else c

/-- The inside of a text up to its closing quote, if there is one. -/
def inside? (quote : Char) : (cs : List Char) → Option (Inside cs)
  | [] => none
  | c :: rest =>
    if c = '\\' then
      match rest with
      | [] => none
      | e :: rest => (inside? quote rest).map fun tail =>
          ⟨unescaped e :: tail.value, c :: e :: tail.body, tail.after, by simp [tail.whole]⟩
    else if c = quote then some ⟨[], [c], rest, rfl⟩
    else (inside? quote rest).map fun tail =>
      ⟨c :: tail.value, c :: tail.body, tail.after, by simp [tail.whole]⟩

/-- The rest of a number: digits, and points that a digit follows. -/
def numberBody : List Char → List Char
  | [] => []
  | c :: rest =>
    if c.isDigit || (c = '.' && rest.head?.any Char.isDigit) then c :: numberBody rest else []

/-- The rest of a number starts what follows it. -/
theorem numberBody_append_drop (cs : List Char) :
    numberBody cs ++ cs.drop (numberBody cs).length = cs := by
  induction cs with
  | nil => rfl
  | cons c rest ih =>
    by_cases h : c.isDigit || (c = '.' && rest.head?.any Char.isDigit)
    · simp [numberBody, h, ih]
    · simp [numberBody, h]

/-- The token of a word: one with a meaning of its own, or a name. -/
def word (text : List Char) : Token.Kind :=
  if text = ['t', 'r', 'u', 'e'] then .mark .trueWord
  else if text = ['f', 'a', 'l', 's', 'e'] then .mark .falseWord
  else if text = ['n', 'u', 'l', 'l'] then .mark .nullWord
  else .name (String.ofList text)

/-- The lexeme that starts with a character, given the characters after it. -/
def lexeme (offset : Nat) (c : Char) (rest : List Char) :
    Except SyntaxError (Lexeme rest) :=
  if c = ' ' || c = '\t' || c = '\n' || c = '\r' then .ok (single none rest)
  else if c = '(' then .ok (mark .openParen rest)
  else if c = ')' then .ok (mark .closeParen rest)
  else if c = '[' then .ok (mark .openBracket rest)
  else if c = ']' then .ok (mark .closeBracket rest)
  else if c = '.' then .ok (mark .dot rest)
  else if c = '"' || c = '\'' then
    match inside? c rest with
    | some text =>
      .ok ⟨some (.text (String.ofList text.value)), text.body, text.after, text.whole⟩
    | none => .error ⟨offset, .unterminatedString⟩
  else if c = '>' then
    match rest with
    | '=' :: rest => .ok (double .ge '=' rest)
    | rest => .ok (mark .gt rest)
  else if c = '<' then
    match rest with
    | '=' :: rest => .ok (double .le '=' rest)
    | rest => .ok (mark .lt rest)
  else if c = '=' then
    match rest with
    | '=' :: rest => .ok (double .eq '=' rest)
    | _ => .error ⟨offset, .loneEquals⟩
  else if c = '!' then
    match rest with
    | '=' :: rest => .ok (double .ne '=' rest)
    | rest => .ok (mark .not rest)
  else if c = '&' then
    match rest with
    | '&' :: rest => .ok (double .and '&' rest)
    | _ => .error ⟨offset, .loneConnective c⟩
  else if c = '|' then
    match rest with
    | '|' :: rest => .ok (double .or '|' rest)
    | _ => .error ⟨offset, .loneConnective c⟩
  else if c.isDigit || (c = '-' && rest.head?.any Char.isDigit) then
    let body := numberBody rest
    match floatOfText? (c :: body) with
    | some value =>
      .ok ⟨some (.number value), body, rest.drop body.length, numberBody_append_drop rest⟩
    | none => .error ⟨offset, .invalidNumber (String.ofList (c :: body))⟩
  else if isNameChar c then
    .ok ⟨some (word (c :: rest.takeWhile isNameChar)), rest.takeWhile isNameChar,
      rest.dropWhile isNameChar, List.takeWhile_append_dropWhile⟩
  else .error ⟨offset, .unexpectedCharacter c⟩

/-- The tokens of a text that starts at an offset. -/
def tokensFrom (offset : Nat) : (cs : List Char) → Except SyntaxError (List Token)
  | [] => .ok []
  | c :: rest =>
    match lexeme offset c rest with
    | .error e => .error e
    | .ok found =>
      match tokensFrom (offset + Text.byteSize (c :: found.body)) found.after with
      | .error e => .error e
      | .ok tokens => .ok (match found.kind with
        | some kind => ⟨kind, offset⟩ :: tokens
        | none => tokens)
termination_by cs => cs.length
decreasing_by
  have h := found.length_after_le
  simp only [List.length_cons]
  omega

end ChatPrompt.Lexer

namespace ChatPrompt

/-- The tokens of a text. -/
def Token.ofText (text : String) : Except SyntaxError (List Token) :=
  Lexer.tokensFrom 0 text.toList

end ChatPrompt
