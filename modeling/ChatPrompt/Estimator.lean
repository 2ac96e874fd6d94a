import ChatPrompt.Ledger
import ChatPrompt.Number.Double
import ChatPrompt.Text.Blank

/-!
# What a text costs

An estimator gives the cost of a text in tokens. The usual one divides the number of
characters by a ratio and rounds up, in double precision; a ratio that is no positive finite
number is replaced by four characters for a token.
-/

namespace ChatPrompt

open Number

/-- The cost of a text. -/
abbrev Estimator := String → Tokens

namespace Estimator

/-- The largest amount of tokens. -/
def largest : Nat := UInt64.size - 1

/-- Four characters for a token. -/
def defaultRatio : Double := ⟨false, 4 * Format.binary64.one⟩

/-- The ratio that is used where a number is given for it. -/
def ratioOf : Extended → Double
  | .finite x => if x.negative || x.units == 0 then defaultRatio else x
  | _ => defaultRatio

/-- The number of characters over the ratio, rounded up. Only the empty text is free. -/
def charRatio (ratio : Double) : Estimator := fun text =>
  if text.isEmpty then 0
  else match Extended.ofRatio false (Double.ofInt text.length).units ratio.units with
    | .finite x => UInt64.ofNat (min x.ceilMagnitude largest)
    | _ => UInt64.ofNat largest

/-- The estimator that is used where none is given. -/
def standard : Estimator := charRatio defaultRatio

/-- One token for each character. -/
def characters : Estimator := fun text => UInt64.ofNat text.length

/-- One token for each byte in UTF-8. -/
def bytes : Estimator := fun text => UInt64.ofNat text.utf8ByteSize

/-- One token for each word. -/
def words : Estimator := fun text => UInt64.ofNat (Text.wordCount text)

end Estimator

end ChatPrompt
