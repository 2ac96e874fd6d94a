/-!
# Sets of characters as code point ranges

A property of characters that a standard gives as a table is held here as a list of
closed ranges in ascending order. Membership walks the list, so a table is data that can
be read beside the standard and a question about one character is decided by evaluation.
-/

namespace ChatPrompt.Text

/-- Closed ranges of code points in ascending order, first and last point of each. -/
abbrev Ranges := List (Nat × Nat)

/-- Whether a code point lies in one of the ranges. -/
def Ranges.covers (ranges : Ranges) (point : Nat) : Bool :=
  ranges.any fun range => range.1 ≤ point && point ≤ range.2

end ChatPrompt.Text
