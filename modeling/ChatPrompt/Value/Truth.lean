import ChatPrompt.Json.Printer
import ChatPrompt.Text.Blank

/-!
# Absent values, truth and text

Looking something up gives a value or nothing, so the values that expressions compute with
are optional. Nothing is false, does not exist and reads as the empty text; `null` behaves
like nothing in all three.
-/

namespace ChatPrompt.Value

/-- Whether a value counts as true: nothing, `null`, `false`, zero, the empty text, the
empty array and the empty object do not. -/
def isTruthy : Option Json → Bool
  | none => false
  | some .null => false
  | some (.bool b) => b
  | some (.number n) => n.toDouble.units != 0
  | some (.string s) => !s.isEmpty
  | some (.array items) => !items.isEmpty
  | some (.object fields) => !fields.isEmpty

/-- Whether there is a value and it is not `null`. -/
def isPresent : Option Json → Bool
  | none => false
  | some value => !value.isNull

/-- Whether a value has content: text that is not blank, a collection with elements, any
number, and `true`. -/
def hasContent : Option Json → Bool
  | none => false
  | some .null => false
  | some (.bool b) => b
  | some (.number _) => true
  | some (.string s) => !Text.isBlankText s
  | some (.array items) => !items.isEmpty
  | some (.object fields) => !fields.isEmpty

/-- The text of a number where it is shown to a reader: a floating number without fraction
loses its decimal place as long as it is small enough to be exact. -/
def numeralText : Json.Numeral → String
  | .floating x => if x.isPlainInteger then toString x.truncate else x.write .json
  | numeral => numeral.write

/-- The text a value is replaced by: a text as it is, nothing for nothing and `null`, and
collections as compact JSON. -/
def text : Option Json → String
  | none => ""
  | some .null => ""
  | some (.bool b) => if b then "true" else "false"
  | some (.number n) => numeralText n
  | some (.string s) => s
  | some value => value.compact

end ChatPrompt.Value
