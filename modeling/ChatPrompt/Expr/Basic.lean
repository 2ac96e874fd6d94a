import ChatPrompt.Path
import ChatPrompt.Value.Comparison

/-!
# Expressions

The tree of an expression as it stands between double braces: literals, paths, negation,
comparisons and the two connectives.
-/

namespace ChatPrompt

/-- An expression. -/
inductive Expr where
  /-- A value written in the expression. -/
  | literal (value : Json)
  /-- A value looked up. -/
  | path (target : Path)
  /-- The opposite truth value. -/
  | negation (operand : Expr)
  /-- A comparison of two values. -/
  | comparison (left : Expr) (op : Value.Comparison) (right : Expr)
  /-- Whether both hold. -/
  | conjunction (left right : Expr)
  /-- Whether one of them holds. -/
  | disjunction (left right : Expr)
  deriving Inhabited

/-- Whether the value of an expression depends on what names stand for. -/
def Expr.readsScope : Expr → Bool
  | .literal _ => false
  | .path _ => true
  | .negation operand => operand.readsScope
  | .comparison left _ right => left.readsScope || right.readsScope
  | .conjunction left right => left.readsScope || right.readsScope
  | .disjunction left right => left.readsScope || right.readsScope

end ChatPrompt
