import ChatPrompt.Keyed
import ChatPrompt.Number.Double

/-!
# JSON values

The one dynamic value of the library: contexts, payloads and templates arrive as JSON, and
expressions compute with it. Whole numbers and floating numbers are different values, so
`1` and `1.0` are told apart by equality and by their text. The fields of an object are a
list, which keeps the order they are given in; documents are read with their fields in the
order of their keys and each key once.

Functions on values recurse through the lists of elements and of fields in the same block
of definitions, so that each of them is structural and has plain equations.
-/

namespace ChatPrompt

open Number

/-- A number as a document holds it. -/
inductive Json.Numeral where
  /-- A number written without point or exponent. -/
  | whole (n : Int)
  /-- Any other number. -/
  | floating (x : Double)
  deriving DecidableEq, Repr

/-- A JSON value. -/
inductive Json where
  /-- The value `null`. -/
  | null
  /-- A truth value. -/
  | bool (b : Bool)
  /-- A number. -/
  | number (n : Json.Numeral)
  /-- A text. -/
  | string (s : String)
  /-- A sequence of values. -/
  | array (items : List Json)
  /-- Named values, in the order of the list. -/
  | object (fields : List (String × Json))
  deriving Inhabited

namespace Json

/-- The fields of an object. -/
abbrev Fields := List (String × Json)

/-- The number as a double, rounded where it is a large integer. -/
def Numeral.toDouble : Numeral → Double
  | .whole n => Double.ofInt n
  | .floating x => x

/-- Whether two numbers are the same value of a document: whole and floating numbers are
never the same, and the sign of a zero is not seen. -/
def Numeral.same : Numeral → Numeral → Bool
  | .whole m, .whole n => m == n
  | .floating x, .floating y => x.sameValue y
  | _, _ => false

/-- A whole number as a value. -/
def ofInt (n : Int) : Json := .number (.whole n)

/-- A natural number as a value. -/
def ofNat (n : Nat) : Json := ofInt n

mutual

/-- Whether two values are the same: the same kind, and the same contents throughout. -/
def same : Json → Json → Bool
  | .null, .null => true
  | .bool a, .bool b => a == b
  | .number m, .number n => m.same n
  | .string s, .string t => s == t
  | .array xs, .array ys => sameItems xs ys
  | .object xs, .object ys => sameFields xs ys
  | _, _ => false

/-- Whether two sequences are the same element for element. -/
def sameItems : List Json → List Json → Bool
  | [], [] => true
  | x :: xs, y :: ys => same x y && sameItems xs ys
  | _, _ => false

/-- Whether two lists of fields have the same keys and the same values under them. -/
def sameFields : Fields → Fields → Bool
  | [], [] => true
  | (k, x) :: xs, (l, y) :: ys => k == l && same x y && sameFields xs ys
  | _, _ => false

end

/-- The value under a key of an object; nothing in any other value. -/
def field? (key : String) : Json → Option Json
  | .object fields => fields.lookup key
  | _ => none

/-- Whether the value is `null`. -/
def isNull : Json → Bool
  | .null => true
  | _ => false

mutual

/-- How many arrays and objects lie around each other in the value. -/
def depth : Json → Nat
  | .array items => depthOfItems items + 1
  | .object fields => depthOfFields fields + 1
  | _ => 0

/-- The greatest depth of some elements. -/
def depthOfItems : List Json → Nat
  | [] => 0
  | item :: rest => max (depth item) (depthOfItems rest)

/-- The greatest depth of the values of some fields. -/
def depthOfFields : Fields → Nat
  | [] => 0
  | (_, value) :: rest => max (depth value) (depthOfFields rest)

end

mutual

/-- The value with the fields of every object in the order of their keys. -/
def ordered : Json → Json
  | .array items => .array (orderedItems items)
  | .object fields => .object (Keyed.ordered (orderedFields fields))
  | value => value

/-- The elements, each with its objects in order. -/
def orderedItems : List Json → List Json
  | [] => []
  | item :: rest => ordered item :: orderedItems rest

/-- The fields, each value with its objects in order. -/
def orderedFields : Fields → Fields
  | [] => []
  | (key, value) :: rest => (key, ordered value) :: orderedFields rest

end

end Json

end ChatPrompt
