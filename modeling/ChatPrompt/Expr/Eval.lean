import ChatPrompt.Expr.Basic
import ChatPrompt.Expr.Scope
import ChatPrompt.Value.Truth

/-!
# Values of expressions

The value of an expression in a scope. Looking up may find nothing, and that is the value
then; negations, comparisons and connectives always have a truth value. Evaluation has no
effect and cannot fail, so it does not matter whether the second operand of a connective is
looked at.
-/

namespace ChatPrompt.Expr

/-- The value of an expression. -/
def eval (scope : Scope) : Expr → Option Json
  | .literal value => some value
  | .path target => scope.resolve target
  | .negation operand => some (.bool (!Value.isTruthy (operand.eval scope)))
  | .comparison left op right =>
    some (.bool (Value.holds (left.eval scope) op (right.eval scope)))
  | .conjunction left right =>
    some (.bool (Value.isTruthy (left.eval scope) && Value.isTruthy (right.eval scope)))
  | .disjunction left right =>
    some (.bool (Value.isTruthy (left.eval scope) || Value.isTruthy (right.eval scope)))

/-- Whether an expression holds. -/
def holds (scope : Scope) (e : Expr) : Bool := Value.isTruthy (e.eval scope)

/-- An expression that reads no name has the same value everywhere. -/
theorem eval_eq_of_not_readsScope (e : Expr) (h : e.readsScope = false) (s t : Scope) :
    e.eval s = e.eval t := by
  induction e with
  | literal value => rfl
  | path target => simp [readsScope] at h
  | negation operand ih => simp [eval, ih (by simpa [readsScope] using h)]
  | comparison left op right ihl ihr =>
    simp only [readsScope, Bool.or_eq_false_iff] at h
    simp [eval, ihl h.1, ihr h.2]
  | conjunction left right ihl ihr =>
    simp only [readsScope, Bool.or_eq_false_iff] at h
    simp [eval, ihl h.1, ihr h.2]
  | disjunction left right ihl ihr =>
    simp only [readsScope, Bool.or_eq_false_iff] at h
    simp [eval, ihl h.1, ihr h.2]

end ChatPrompt.Expr
