import ChatPrompt.Number.Double

/-!
# TOML values

What a settings file holds. Dates and times are understood by the reader, and no setting is
one, so that nothing is kept of them.
-/

namespace ChatPrompt

/-- A value of a settings file. -/
inductive Toml where
  /-- A text. -/
  | text (content : String)
  /-- A whole number. -/
  | whole (n : Int)
  /-- Any other number. -/
  | floating (x : Number.Extended)
  /-- A truth value. -/
  | flag (b : Bool)
  /-- A date, a time of day, or both. -/
  | moment
  /-- A sequence of values. -/
  | array (items : List Toml)
  /-- Named values. -/
  | table (entries : List (String × Toml))
  deriving Inhabited

end ChatPrompt
