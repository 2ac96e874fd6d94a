import ChatPrompt.Expr.Basic
import ChatPrompt.Expr.Token
import ChatPrompt.Number.Double

/-!
# The grammar of expressions

What an expression is, said without a parser. Phrases come in five kinds, loosest first:

* expressions: conjunctions with `||` between them,
* conjunctions: comparisons with `&&` between them,
* comparisons: unary phrases with comparison marks between them,
* unary phrases: a primary phrase with any number of `!` before it,
* primary phrases: a literal, a path, or an expression in parentheses.

Operands that stand in a row are joined from the left, so a phrase of the first three kinds is
one operand of the next kind, or a shorter phrase of its own kind with one more operand behind
it. A path is a name and steps, each behind a point or in brackets.

Offsets say nothing about what a phrase is, so phrases are lists of kinds of tokens.
-/

namespace ChatPrompt.Grammar

open Number

/-- A number that names a place: it is whole and not negative. Places beyond the last one that
can be counted are that one. -/
def Places (value : Extended) (place : Nat) : Prop :=
  ∃ x : Double, value = .finite x ∧ x.isWhole = true ∧ 0 ≤ x.value ∧
    place = min x.floorMagnitude (Segment.placeLimit - 1)

/-- A word that is a key behind a point: any name, and the words for values. -/
inductive Word : Token.Kind → String → Prop where
  /-- A name. -/
  | name (text : String) : Word (.name text) text
  /-- The word for truth. -/
  | trueWord : Word (.mark .trueWord) "true"
  /-- The word for falsehood. -/
  | falseWord : Word (.mark .falseWord) "false"
  /-- The word for the missing value. -/
  | nullWord : Word (.mark .nullWord) "null"

/-- One step of a path. -/
inductive Step : List Token.Kind → Segment → Prop where
  /-- A key behind a point. -/
  | key {kind : Token.Kind} {text : String} (h : Word kind text) :
    Step [.mark .dot, kind] (.key text)
  /-- A place behind a point. -/
  | place {value : Extended} {place : Nat} (h : Places value place) :
    Step [.mark .dot, .number value] (.index place)
  /-- A key in brackets. -/
  | keyInside (text : String) :
    Step [.mark .openBracket, .text text, .mark .closeBracket] (.key text)
  /-- A place in brackets. -/
  | placeInside {value : Extended} {place : Nat} (h : Places value place) :
    Step [.mark .openBracket, .number value, .mark .closeBracket] (.index place)

/-- Steps one after the other. -/
inductive Steps : List Token.Kind → List Segment → Prop where
  /-- No step. -/
  | nil : Steps [] []
  /-- A step before others. -/
  | cons {first others : List Token.Kind} {segment : Segment} {segments : List Segment}
    (hfirst : Step first segment) (hothers : Steps others segments) :
    Steps (first ++ others) (segment :: segments)

/-- A value written in an expression. -/
inductive Literal : Token.Kind → Json → Prop where
  /-- A text in quotes. -/
  | text (value : String) : Literal (.text value) (.string value)
  /-- A number that is whole and small enough to be exact. -/
  | whole {x : Double} (h : x.isPlainInteger = true) :
    Literal (.number (.finite x)) (.number (.whole x.truncate))
  /-- Any other finite number. -/
  | floating {x : Double} (h : x.isPlainInteger = false) :
    Literal (.number (.finite x)) (.number (.floating x))
  /-- A number outside the number line, which has no value. -/
  | unbounded {value : Extended} (h : ∀ x, value ≠ .finite x) : Literal (.number value) .null
  /-- The word for truth. -/
  | trueWord : Literal (.mark .trueWord) (.bool true)
  /-- The word for falsehood. -/
  | falseWord : Literal (.mark .falseWord) (.bool false)
  /-- The word for the missing value. -/
  | nullWord : Literal (.mark .nullWord) .null

/-- A mark that compares. -/
inductive Compares : Mark → Value.Comparison → Prop where
  /-- Equal. -/
  | eq : Compares .eq .eq
  /-- Not equal. -/
  | ne : Compares .ne .ne
  /-- Less. -/
  | lt : Compares .lt .lt
  /-- Greater. -/
  | gt : Compares .gt .gt
  /-- Less or equal. -/
  | le : Compares .le .le
  /-- Greater or equal. -/
  | ge : Compares .ge .ge

/-- A kind of phrase. -/
inductive Phrase where
  /-- Conjunctions with `||` between them. -/
  | expression
  /-- Comparisons with `&&` between them. -/
  | conjunction
  /-- Unary phrases with comparison marks between them. -/
  | comparison
  /-- A primary phrase with any number of `!` before it. -/
  | unary
  /-- A literal, a path, or an expression in parentheses. -/
  | primary
  deriving DecidableEq, Repr

/-- The phrases of each kind, with their trees. -/
inductive Derives : Phrase → List Token.Kind → Expr → Prop where
  /-- A conjunction is an expression. -/
  | expression {kinds : List Token.Kind} {e : Expr} (h : Derives .conjunction kinds e) :
    Derives .expression kinds e
  /-- An expression with one more conjunction behind it. -/
  | or {left right : List Token.Kind} {a b : Expr} (hleft : Derives .expression left a)
    (hright : Derives .conjunction right b) :
    Derives .expression (left ++ .mark .or :: right) (.disjunction a b)
  /-- A comparison is a conjunction. -/
  | conjunction {kinds : List Token.Kind} {e : Expr} (h : Derives .comparison kinds e) :
    Derives .conjunction kinds e
  /-- A conjunction with one more comparison behind it. -/
  | and {left right : List Token.Kind} {a b : Expr} (hleft : Derives .conjunction left a)
    (hright : Derives .comparison right b) :
    Derives .conjunction (left ++ .mark .and :: right) (.conjunction a b)
  /-- A unary phrase is a comparison. -/
  | comparison {kinds : List Token.Kind} {e : Expr} (h : Derives .unary kinds e) :
    Derives .comparison kinds e
  /-- A comparison with one more unary phrase behind it. -/
  | compare {left right : List Token.Kind} {a b : Expr} {mark : Mark} {op : Value.Comparison}
    (hleft : Derives .comparison left a) (hmark : Compares mark op)
    (hright : Derives .unary right b) :
    Derives .comparison (left ++ .mark mark :: right) (.comparison a op b)
  /-- A primary phrase is a unary phrase. -/
  | unary {kinds : List Token.Kind} {e : Expr} (h : Derives .primary kinds e) :
    Derives .unary kinds e
  /-- A unary phrase behind a negation. -/
  | not {kinds : List Token.Kind} {e : Expr} (h : Derives .unary kinds e) :
    Derives .unary (.mark .not :: kinds) (.negation e)
  /-- A literal. -/
  | literal {kind : Token.Kind} {value : Json} (h : Literal kind value) :
    Derives .primary [kind] (.literal value)
  /-- A path. -/
  | path {kinds : List Token.Kind} {segments : List Segment} (head : String)
    (h : Steps kinds segments) : Derives .primary (.name head :: kinds) (.path ⟨head, segments⟩)
  /-- An expression in parentheses. -/
  | parenthesis {kinds : List Token.Kind} {e : Expr} (h : Derives .expression kinds e) :
    Derives .primary (.mark .openParen :: kinds ++ [.mark .closeParen]) e

/-- A kind of token that goes on with an expression: it joins an operand, or it starts a
step. -/
inductive Continues : Token.Kind → Prop where
  /-- A disjunction. -/
  | or : Continues (.mark .or)
  /-- A conjunction. -/
  | and : Continues (.mark .and)
  /-- A comparison. -/
  | compare {mark : Mark} {op : Value.Comparison} (h : Compares mark op) :
    Continues (.mark mark)
  /-- A step behind a point. -/
  | dot : Continues (.mark .dot)
  /-- A step in brackets. -/
  | openBracket : Continues (.mark .openBracket)

/-- The mark that closes a parenthesis does not go on with an expression. -/
theorem not_continues_closeParen : ¬ Continues (.mark .closeParen) := by
  intro h
  cases h with
  | compare h => cases h

end ChatPrompt.Grammar
