import ChatPrompt.Number.Text
import ChatPrompt.Text.Quoted

/-!
# Tokens of expressions

The words an expression is made of, and the ways in which a text fails to be an expression.
Marks are the tokens that are always written the same; the others carry what was written.
-/

namespace ChatPrompt

/-- A token that is always written the same way. -/
inductive Mark where
  /-- The word for truth. -/
  | trueWord
  /-- The word for falsehood. -/
  | falseWord
  /-- The word for the missing value. -/
  | nullWord
  /-- Conjunction. -/
  | and
  /-- Disjunction. -/
  | or
  /-- Negation. -/
  | not
  /-- Equality. -/
  | eq
  /-- Inequality. -/
  | ne
  /-- Greater. -/
  | gt
  /-- Less. -/
  | lt
  /-- Greater or equal. -/
  | ge
  /-- Less or equal. -/
  | le
  /-- A point before a key. -/
  | dot
  /-- Opens a step in brackets. -/
  | openBracket
  /-- Closes a step in brackets. -/
  | closeBracket
  /-- Opens a parenthesis. -/
  | openParen
  /-- Closes a parenthesis. -/
  | closeParen
  deriving DecidableEq, Repr

/-- How a mark is written. -/
def Mark.text : Mark → String
  | .trueWord => "true"
  | .falseWord => "false"
  | .nullWord => "null"
  | .and => "&&"
  | .or => "||"
  | .not => "!"
  | .eq => "=="
  | .ne => "!="
  | .gt => ">"
  | .lt => "<"
  | .ge => ">="
  | .le => "<="
  | .dot => "."
  | .openBracket => "["
  | .closeBracket => "]"
  | .openParen => "("
  | .closeParen => ")"

namespace Token

/-- What a token is. -/
inductive Kind where
  /-- A name that is no word with a meaning of its own. -/
  | name (word : String)
  /-- A text in quotes, its escapes resolved. -/
  | text (value : String)
  /-- A number. -/
  | number (value : Number.Extended)
  /-- A mark. -/
  | mark (mark : Mark)
  deriving DecidableEq, Repr

/-- How a token is named in a message. -/
def Kind.description : Kind → String
  | .name word => "identifier `" ++ word ++ "`"
  | .text value => "string " ++ Text.quoted value
  | .number value => "number " ++ value.write .plain
  | .mark sign => "`" ++ sign.text ++ "`"

end Token

/-- A token and where it starts. -/
structure Token where
  /-- What the token is. -/
  kind : Token.Kind
  /-- The number of bytes before it. -/
  offset : Nat
  deriving DecidableEq, Repr

/-- Why a text is no expression or no path. -/
inductive SyntaxProblem where
  /-- A text without its closing quote. -/
  | unterminatedString
  /-- An equals sign that stands alone. -/
  | loneEquals
  /-- One half of a connective. -/
  | loneConnective (c : Char)
  /-- A number with more than one decimal point. -/
  | invalidNumber (text : String)
  /-- A character that starts no token. -/
  | unexpectedCharacter (c : Char)
  /-- No token at all. -/
  | emptyExpression
  /-- A token after the end of an expression. -/
  | afterExpression (found : Token.Kind)
  /-- A token after the end of a path. -/
  | afterPath (found : Token.Kind)
  /-- No operand where one has to stand. -/
  | expectedValue (found : Option Token.Kind)
  /-- An open parenthesis without its partner. -/
  | expectedCloseParen (found : Option Token.Kind)
  /-- A path without its head. -/
  | expectedName (found : Option Token.Kind)
  /-- A point that no key and no place follows. -/
  | expectedKey (found : Option Token.Kind)
  /-- A bracket that no key and no place follows. -/
  | expectedStep (found : Option Token.Kind)
  /-- An open bracket without its partner. -/
  | expectedCloseBracket (found : Option Token.Kind)
  /-- A number that is no place in an array. -/
  | invalidIndex (value : Number.Extended)
  deriving DecidableEq, Repr

/-- What stands at a place in a message: a token, or the end. -/
def Token.describeFound : Option Token.Kind → String
  | none => "end of expression"
  | some kind => kind.description

/-- The wording of a problem. -/
def SyntaxProblem.message : SyntaxProblem → String
  | .unterminatedString => "unterminated string literal"
  | .loneEquals => "expected `==`, found single `=`"
  | .loneConnective c =>
    let s := String.singleton c
    "expected `" ++ s ++ s ++ "`, found single `" ++ s ++ "`"
  | .invalidNumber text => "invalid number: " ++ text
  | .unexpectedCharacter c => "unexpected character `" ++ String.singleton c ++ "`"
  | .emptyExpression => "empty expression"
  | .afterExpression found => "unexpected " ++ found.description ++ " after expression"
  | .afterPath found => "unexpected " ++ found.description ++ " after path"
  | .expectedValue found => "expected a value, found " ++ Token.describeFound found
  | .expectedCloseParen found =>
    "expected closing parenthesis, found " ++ Token.describeFound found
  | .expectedName found => "expected identifier, found " ++ Token.describeFound found
  | .expectedKey found =>
    "expected property name after `.`, found " ++ Token.describeFound found
  | .expectedStep found =>
    "expected string or index inside `[]`, found " ++ Token.describeFound found
  | .expectedCloseBracket found => "expected `]`, found " ++ Token.describeFound found
  | .invalidIndex value =>
    "index must be a non-negative integer, found " ++ value.write .plain

/-- A problem and where in the text it lies. -/
structure SyntaxError where
  /-- The number of bytes before the place. -/
  offset : Nat
  /-- What is wrong there. -/
  problem : SyntaxProblem
  deriving DecidableEq, Repr

end ChatPrompt
