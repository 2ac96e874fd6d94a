import ChatPrompt.Json.Printer
import ChatPrompt.Path
import ChatPrompt.Schema.Basic

/-!
# Violations of a schema

What is wrong with a value, and where in the document it stands. The place is written as a
pointer: the keys and positions from the root, each after a slash.
-/

namespace ChatPrompt

namespace Schema

/-- What is wrong with a value. -/
inductive Cause where
  /-- It is of none of the kinds that are allowed. -/
  | wrongKind (kinds : List Kind)
  /-- It is none of the words that are allowed. -/
  | notListed (words : List String)
  /-- It is not the one word that is allowed. -/
  | notThatWord (word : String)
  /-- It is a text with too few characters. -/
  | tooShort (length : Nat)
  /-- It is a number below the least that is allowed. -/
  | tooSmall (bound : Nat)
  /-- It is an object without a field that is required. -/
  | missing (key : String)
  /-- It is an object with fields that are not allowed. -/
  | unexpected (keys : List String)
  /-- It obeys none of the schemas of which it has to obey one. -/
  | noAlternative
  deriving DecidableEq, Repr

/-- A fault of a document. -/
structure Violation where
  /-- The way from the root to the value. -/
  place : List Segment
  /-- The value. -/
  value : Json
  /-- What is wrong with it. -/
  cause : Cause

/-- A key in a pointer, in which tilde and slash are escaped. -/
def pointerKey (key : String) : String :=
  String.ofList (key.toList.flatMap fun c =>
    if c = '~' then ['~', '0'] else if c = '/' then ['~', '1'] else [c])

/-- The pointer of a place. -/
def pointer (place : List Segment) : String :=
  String.join (place.map fun step =>
    match step with
    | .key name => "/" ++ pointerKey name
    | .index position => "/" ++ toString position)

/-- Words in quotation marks, with commas between them. -/
def listed (words : List String) : String :=
  ", ".intercalate (words.map fun word => "\"" ++ word ++ "\"")

/-- The text that a value is none of some words. Of more than three words only two are
named. -/
def notListedText (words : List String) : String :=
  match words with
  | [] => " is not one of "
  | [word] => " is not one of " ++ listed [word]
  | [first, second] => " is not one of " ++ listed [first] ++ " or " ++ listed [second]
  | [first, second, third] =>
    " is not one of " ++ listed [first, second] ++ " or " ++ listed [third]
  | first :: second :: rest =>
    " is not one of " ++ listed [first, second] ++ " or " ++ toString rest.length ++
      " other candidates"

/-- What is wrong with a value, in words. -/
def Cause.message (value : Json) : Cause → String
  | .wrongKind [kind] => value.compact ++ " is not of type " ++ listed [kind.word]
  | .wrongKind kinds =>
    value.compact ++ " is not of types " ++
      listed ((Kind.every.filter (kinds.contains ·)).map Kind.word)
  | .notListed words => value.compact ++ notListedText words
  | .notThatWord word => listed [word] ++ " was expected"
  | .tooShort length =>
    value.compact ++ " is shorter than " ++ toString length ++
      (if length = 1 then " character" else " characters")
  | .tooSmall bound => value.compact ++ " is less than the minimum of " ++ toString bound
  | .missing key => (Json.string key).compact ++ " is a required property"
  | .unexpected keys =>
    "Additional properties are not allowed (" ++
      ", ".intercalate (keys.map fun key => "'" ++ key ++ "'") ++
      (if keys.length = 1 then " was unexpected)" else " were unexpected)")
  | .noAlternative =>
    value.compact ++ " is not valid under any of the schemas listed in the 'anyOf' keyword"

/-- The pointer of the value that is wrong. -/
def Violation.pointer (violation : Violation) : String := Schema.pointer violation.place

/-- What is wrong, in words. -/
def Violation.message (violation : Violation) : String :=
  violation.cause.message violation.value

/-- The pointer as it is shown, which for the root is a slash. -/
def Violation.shownPointer (violation : Violation) : String :=
  if violation.pointer.isEmpty then "/" else violation.pointer

/-- Where it is wrong and what, in words. -/
def Violation.line (violation : Violation) : String :=
  violation.shownPointer ++ ": " ++ violation.message

/-- Whether a violation comes before another or is equal to it in the order of pointers and
then of words. -/
def Violation.notAfter (first second : Violation) : Bool :=
  if first.pointer = second.pointer then first.message ≤ second.message
  else first.pointer ≤ second.pointer

/-- The line above a list of violations. -/
def violationsTitle (violations : List Violation) : String :=
  "template violates schema (" ++ toString violations.length ++ " violations):"

end Schema

end ChatPrompt
