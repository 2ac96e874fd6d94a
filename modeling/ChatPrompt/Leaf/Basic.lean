import ChatPrompt.Expr.Eval

/-!
# Leaves

A leaf is a text with expressions in it: some are replaced by their values, others decide
which of two parts is kept. A leaf is read once into a tree and then rendered in many
scopes; rendering is a recursion on the tree and cannot fail.
-/

namespace ChatPrompt

/-- A piece of a leaf. -/
inductive Leaf.Node where
  /-- Text that stays as it is. -/
  | text (content : String)
  /-- An expression that is replaced by its value. -/
  | value (expr : Expr)
  /-- Two parts, of which the condition keeps one. -/
  | branch (condition : Expr) (whenTrue whenFalse : List Leaf.Node)
  deriving Inhabited

/-- A leaf: the text it was read from, and its pieces. -/
structure Leaf where
  /-- The text as it was written. -/
  source : String
  /-- The pieces, in order. -/
  nodes : List Leaf.Node
  deriving Inhabited

namespace Leaf

/-- Whether a piece is the same in every scope. -/
def Node.isText : Node → Bool
  | .text _ => true
  | _ => false

mutual

/-- The text of a piece in a scope. -/
def Node.render (scope : Scope) : Node → String
  | .text content => content
  | .value expr => Value.text (expr.eval scope)
  | .branch condition whenTrue whenFalse =>
    if condition.holds scope then renderNodes scope whenTrue else renderNodes scope whenFalse

/-- The text of pieces one after the other. -/
def renderNodes (scope : Scope) : List Node → String
  | [] => ""
  | node :: rest => node.render scope ++ renderNodes scope rest

end

/-- The text of a leaf in a scope. -/
def render (scope : Scope) (leaf : Leaf) : String := renderNodes scope leaf.nodes

/-- Whether anything in the leaf depends on the scope. -/
def hasVariables (leaf : Leaf) : Bool := leaf.nodes.any fun node => !node.isText

/-- The text of a leaf that is the same in every scope. -/
def staticText? (leaf : Leaf) : Option String :=
  if leaf.hasVariables then none else some (leaf.render Scope.empty)

/-- Whether a text contains what opens a tag. -/
def isTemplated (source : String) : Bool := go source.toList
where
  /-- Whether two braces stand next to each other. -/
  go : List Char → Bool
    | '\x7b' :: '\x7b' :: _ => true
    | _ :: rest => go rest
    | [] => false

end Leaf

end ChatPrompt
