import ChatPrompt.Expr.Token
import ChatPrompt.Text.Offset

/-!
# Faults in leaves

What can be wrong with the text of a leaf, where, and the part of the text that a message
shows. The excerpt is at most sixty characters long, starts about a third of that before the
fault, and has an ellipsis at each end where something is left out.
-/

namespace ChatPrompt.Leaf

/-- A fault of the tags themselves. -/
inductive BlockProblem where
  /-- A tag without its closing braces. -/
  | unterminatedTag
  /-- A tag with nothing in it. -/
  | emptyTag
  /-- A block without its condition. -/
  | missingCondition
  /-- Something after a word that takes nothing. -/
  | unexpectedArguments (name : String)
  /-- A block of a kind that does not exist. -/
  | unknownBlock (name : String)
  /-- The middle of a block outside any block. -/
  | strayElse
  /-- A second middle of one block. -/
  | duplicateElse
  /-- The end of a block outside any block. -/
  | strayEnd
  /-- A block without its end. -/
  | missingEnd
  deriving DecidableEq, Repr

/-- The wording of a fault of the tags. -/
def BlockProblem.message : BlockProblem → String
  | .unterminatedTag => "unterminated `\x7b\x7b` tag, missing `\x7d\x7d`"
  | .emptyTag => "empty `\x7b\x7b\x7d\x7d` tag"
  | .missingCondition => "`\x7b\x7b#if\x7d\x7d` needs a condition"
  | .unexpectedArguments name => "`\x7b\x7b#" ++ name ++ "\x7d\x7d` takes no arguments"
  | .unknownBlock name => "unknown block `\x7b\x7b#" ++ name ++ "\x7d\x7d`"
  | .strayElse => "stray `\x7b\x7b#else\x7d\x7d` without `\x7b\x7b#if\x7d\x7d`"
  | .duplicateElse => "duplicate `\x7b\x7b#else\x7d\x7d` in one `\x7b\x7b#if\x7d\x7d` block"
  | .strayEnd => "stray `\x7b\x7b#endif\x7d\x7d` without `\x7b\x7b#if\x7d\x7d`"
  | .missingEnd => "missing matching `\x7b\x7b#endif\x7d\x7d` for `\x7b\x7b#if\x7d\x7d`"

/-- What is wrong: with a tag, or with the expression in it. -/
inductive Problem where
  /-- A fault of the tags. -/
  | block (problem : BlockProblem)
  /-- A fault of an expression. -/
  | expression (problem : SyntaxProblem)
  deriving DecidableEq, Repr

/-- The wording of a fault. -/
def Problem.message : Problem → String
  | .block problem => problem.message
  | .expression problem => problem.message

/-- The length of an excerpt in characters. -/
def excerptLength : Nat := 60

/-- How far before the fault an excerpt starts, in bytes. -/
def excerptLead : Nat := 20

/-- The characters from the last one that starts at least `excerptLead` bytes before `offset`,
given that the first starts at `position`, and the position where that one starts. -/
def excerptStart (offset position : Nat) : List Char → Nat × List Char
  | [] => (position, [])
  | c :: rest =>
    if !rest.isEmpty && position + c.utf8Size + excerptLead ≤ offset then
      excerptStart offset (position + c.utf8Size) rest
    else (position, c :: rest)

/-- The part of a text that a message shows for a fault at an offset. -/
def excerpt (source : String) (offset : Nat) : String :=
  let cs := source.toList
  if cs.length ≤ excerptLength then source
  else
    let (start, visible) := excerptStart offset 0 cs
    let shown := visible.take excerptLength
    (if 0 < start then "…" else "") ++ String.ofList shown ++
      (if shown.length < visible.length then "…" else "")

/-- A fault and where in the text it lies. -/
structure Fault where
  /-- The number of bytes before it. -/
  offset : Nat
  /-- The part of the text that is shown. -/
  excerpt : String
  /-- What is wrong. -/
  problem : Problem
  deriving DecidableEq, Repr

/-- The wording of a fault with its place. -/
def Fault.message (fault : Fault) : String :=
  "at offset " ++ toString fault.offset ++ " in `" ++ fault.excerpt ++ "`: " ++
    fault.problem.message

/-- The fault of an expression that stands in a text of its own. -/
def Fault.ofSyntaxError (source : String) (e : SyntaxError) : Fault :=
  ⟨e.offset, source, .expression e.problem⟩

end ChatPrompt.Leaf
