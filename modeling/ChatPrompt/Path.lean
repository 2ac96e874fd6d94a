import ChatPrompt.Json.Basic
import ChatPrompt.Number.Reading
import ChatPrompt.Text.Alphanumeric
import ChatPrompt.Text.Quoted

/-!
# Paths into values

A path names a value: a head that is looked up by name, and steps from there into objects
and arrays. Walking is a recursion on the steps, so walking along two lists of steps one
after the other is walking along their concatenation.
-/

namespace ChatPrompt

/-- One step from a value into a part of it. -/
inductive Segment where
  /-- Into the field of an object, or the element of an array whose place the key writes. -/
  | key (name : String)
  /-- Into the element of an array, counted from zero. -/
  | index (place : Nat)
  deriving DecidableEq, Repr

/-- A character of a name: a letter, a number, `_` or `$`. -/
def isNameChar (c : Char) : Bool := Text.isAlphanumeric c || c = '_' || c = '$'

/-- Whether a key can stand after a point without quotes. -/
def isPlainName (name : String) : Bool :=
  !name.isEmpty && name.toList.all isNameChar && !(name.toList.head?.any Char.isDigit)

namespace Segment

/-- The first place that is too large to be counted. -/
def placeLimit : Nat := UInt64.size

/-- The part of a value that the step leads to, if it has that part. -/
def step : Segment → Json → Option Json
  | .key name, .object fields => fields.lookup name
  | .key name, .array items =>
    (Number.wholeOfText? placeLimit name.toList).bind fun place => items[place]?
  | .index place, .array items => items[place]?
  | _, _ => none

/-- The part that a list of steps leads to, one after the other. -/
def walk : List Segment → Json → Option Json
  | [], value => some value
  | segment :: rest, value => (segment.step value).bind (walk rest)

/-- The text of a step. -/
def text : Segment → String
  | .key name => if isPlainName name then "." ++ name else "[" ++ Text.quoted name ++ "]"
  | .index place => "[" ++ toString place ++ "]"

end Segment

/-- A head and the steps from the value it names. -/
structure Path where
  /-- The name that is looked up. -/
  head : String
  /-- The steps from there. -/
  segments : List Segment
  deriving DecidableEq, Repr

namespace Path

/-- The text of a path. -/
def text (path : Path) : String := path.head ++ String.join (path.segments.map Segment.text)

/-- The path as steps from a value whose field the head is. -/
def asSteps (path : Path) : List Segment := .key path.head :: path.segments

end Path

end ChatPrompt
