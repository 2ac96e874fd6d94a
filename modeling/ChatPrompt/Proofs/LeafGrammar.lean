import ChatPrompt.Leaf.Basic
import ChatPrompt.Expr.Parser

/-!
# The grammar of leaves

What a leaf is, said without a parser, in three layers.

* A text is cut from left to right into parts: a tag reaches from two opening braces to the next
  two closing ones, and what lies before, between and after tags is text.
* Each part is a symbol. The inside of a tag, without the blanks at its ends, is an expression, or
  one of the words `#if`, `#else` and `#endif`, of which the first has an expression behind it and
  the others have nothing.
* The symbols are a sequence of texts, expressions and blocks. A block opens with a condition,
  holds such a sequence, or two of them with a middle in between, and ends.

What symbols say in a scope is defined on the same layers: texts say themselves, expressions say
their values, and a block says the sequence that its condition keeps.
-/

namespace ChatPrompt.Leaf

/-- A part of the text of a leaf, as it stands there. -/
inductive Part where
  /-- Text outside any tag. -/
  | text (content : List Char)
  /-- The inside of a tag. -/
  | tag (inside : List Char)
  /-- A tag that is never closed. -/
  | unclosed
  deriving DecidableEq, Repr

/-- Text as a part, where there is any. -/
def Part.ofText (content : List Char) : List Part :=
  if content = [] then [] else [.text content]

/-- A character stands somewhere twice in a row. -/
def HasPair (c : Char) (cs : List Char) : Prop := [c, c] <:+: cs

/-- The parts of a text, in order. The pair of braces at either end of a tag is the first that
there is, so not even the first of its two braces makes a pair with what comes before. -/
inductive Cut : List Char → List Part → Prop where
  /-- Text without a tag. -/
  | plain {content : List Char} (h : ¬ HasPair '\x7b' content) : Cut content (Part.ofText content)
  /-- A tag that is never closed. -/
  | unclosed {before rest : List Char} (hopening : ¬ HasPair '\x7b' (before ++ ['\x7b']))
    (hclosing : ¬ HasPair '\x7d' rest) :
    Cut (before ++ '\x7b' :: '\x7b' :: rest) (Part.ofText before ++ [.unclosed])
  /-- A tag, and the parts after it. -/
  | tag {before inside rest : List Char} {parts : List Part}
    (hopening : ¬ HasPair '\x7b' (before ++ ['\x7b']))
    (hclosing : ¬ HasPair '\x7d' (inside ++ ['\x7d'])) (hrest : Cut rest parts) :
    Cut (before ++ '\x7b' :: '\x7b' :: (inside ++ '\x7d' :: '\x7d' :: rest))
      (Part.ofText before ++ .tag inside :: parts)

/-- What a part is in the grammar. -/
inductive Symbol where
  /-- Text that stays as it is. -/
  | text (content : List Char)
  /-- An expression that is replaced by its value. -/
  | value (expr : Expr)
  /-- The start of a block under a condition. -/
  | opening (condition : Expr)
  /-- The middle of a block. -/
  | middle
  /-- The end of a block. -/
  | ending

/-- What the parts of a text are in the grammar. A tag that is never closed is nothing. -/
inductive Part.Reads : Part → Symbol → Prop where
  /-- Text is itself. -/
  | text (content : List Char) : Reads (.text content) (.text content)
  /-- A tag with an expression. -/
  | value {inside : List Char} {expr : Expr}
    (h : Expr.ofText (String.ofList (Text.trim inside)) = .ok expr) :
    Reads (.tag inside) (.value expr)
  /-- A tag with a condition, apart from the word by at least one blank. -/
  | opening {inside rest : List Char} {blank : Char} {condition : Expr}
    (hbody : Text.trim inside = '#' :: 'i' :: 'f' :: blank :: rest)
    (hblank : Text.isBlank blank = true)
    (h : Expr.ofText (String.ofList (Text.trim rest)) = .ok condition) :
    Reads (.tag inside) (.opening condition)
  /-- The tag in the middle of a block. -/
  | middle {inside : List Char} (hbody : Text.trim inside = ['#', 'e', 'l', 's', 'e']) :
    Reads (.tag inside) .middle
  /-- The tag at the end of a block. -/
  | ending {inside : List Char} (hbody : Text.trim inside = ['#', 'e', 'n', 'd', 'i', 'f']) :
    Reads (.tag inside) .ending

/-- The sequences of symbols that the grammar allows, with their trees. -/
inductive Derives : List Symbol → List Node → Prop where
  /-- Nothing at all. -/
  | nil : Derives [] []
  /-- A text before others. -/
  | text (content : List Char) {rest : List Symbol} {nodes : List Node}
    (hrest : Derives rest nodes) :
    Derives (.text content :: rest) (.text (String.ofList content) :: nodes)
  /-- An expression before others. -/
  | value (expr : Expr) {rest : List Symbol} {nodes : List Node} (hrest : Derives rest nodes) :
    Derives (.value expr :: rest) (.value expr :: nodes)
  /-- A block of one part before others. -/
  | block (condition : Expr) {body rest : List Symbol} {whenTrue nodes : List Node}
    (hbody : Derives body whenTrue) (hrest : Derives rest nodes) :
    Derives (.opening condition :: body ++ .ending :: rest)
      (.branch condition whenTrue [] :: nodes)
  /-- A block of two parts before others. -/
  | alternative (condition : Expr) {first second rest : List Symbol}
    {whenTrue whenFalse nodes : List Node} (hfirst : Derives first whenTrue)
    (hsecond : Derives second whenFalse) (hrest : Derives rest nodes) :
    Derives (.opening condition :: first ++ .middle :: second ++ .ending :: rest)
      (.branch condition whenTrue whenFalse :: nodes)

/-- What sequences of symbols say in a scope. -/
inductive Says (scope : Scope) : List Symbol → String → Prop where
  /-- Nothing at all. -/
  | nil : Says scope [] ""
  /-- A text says itself. -/
  | text (content : List Char) {rest : List Symbol} {said : String}
    (hrest : Says scope rest said) :
    Says scope (.text content :: rest) (String.ofList content ++ said)
  /-- An expression says its value. -/
  | value (expr : Expr) {rest : List Symbol} {said : String} (hrest : Says scope rest said) :
    Says scope (.value expr :: rest) (Value.text (expr.eval scope) ++ said)
  /-- A block of one part says that part or nothing. -/
  | block (condition : Expr) {body rest : List Symbol} {whenTrue said : String}
    (hbody : Says scope body whenTrue) (hrest : Says scope rest said) :
    Says scope (.opening condition :: body ++ .ending :: rest)
      ((if condition.holds scope then whenTrue else "") ++ said)
  /-- A block of two parts says one of them. -/
  | alternative (condition : Expr) {first second rest : List Symbol}
    {whenTrue whenFalse said : String} (hfirst : Says scope first whenTrue)
    (hsecond : Says scope second whenFalse) (hrest : Says scope rest said) :
    Says scope (.opening condition :: first ++ .middle :: second ++ .ending :: rest)
      ((if condition.holds scope then whenTrue else whenFalse) ++ said)

theorem Derives.append {symbols others : List Symbol} {nodes more : List Node}
    (h : Derives symbols nodes) (hothers : Derives others more) :
    Derives (symbols ++ others) (nodes ++ more) := by
  induction h with
  | nil => exact hothers
  | text content _ ih => exact .text content ih
  | value expr _ ih => exact .value expr ih
  | block condition hbody _ _ ih =>
    rw [List.append_assoc]
    exact .block condition hbody ih
  | alternative condition hfirst hsecond _ _ _ ih =>
    rw [List.append_assoc, List.cons_append]
    exact .alternative condition hfirst hsecond ih

/-- What says something has a tree, and the tree says the same. -/
theorem Says.exists_derives {scope : Scope} {symbols : List Symbol} {said : String}
    (h : Says scope symbols said) :
    ∃ nodes, Derives symbols nodes ∧ said = renderNodes scope nodes := by
  induction h with
  | nil => exact ⟨[], .nil, rfl⟩
  | text content _ ih =>
    obtain ⟨nodes, hnodes, rfl⟩ := ih
    exact ⟨_, .text content hnodes, rfl⟩
  | value expr _ ih =>
    obtain ⟨nodes, hnodes, rfl⟩ := ih
    exact ⟨_, .value expr hnodes, rfl⟩
  | block condition _ _ ihbody ihrest =>
    obtain ⟨whenTrue, hbody, rfl⟩ := ihbody
    obtain ⟨nodes, hnodes, rfl⟩ := ihrest
    exact ⟨_, .block condition hbody hnodes, rfl⟩
  | alternative condition _ _ _ ihfirst ihsecond ihrest =>
    obtain ⟨whenTrue, hfirst, rfl⟩ := ihfirst
    obtain ⟨whenFalse, hsecond, rfl⟩ := ihsecond
    obtain ⟨nodes, hnodes, rfl⟩ := ihrest
    exact ⟨_, .alternative condition hfirst hsecond hnodes, rfl⟩

/-- What has a tree says what the tree says. -/
theorem Derives.says {symbols : List Symbol} {nodes : List Node} (h : Derives symbols nodes)
    (scope : Scope) : Says scope symbols (renderNodes scope nodes) := by
  induction h with
  | nil => exact .nil
  | text content _ ih => exact .text content ih
  | value expr _ ih => exact .value expr ih
  | block condition _ _ ihbody ihrest => exact .block condition ihbody ihrest
  | alternative condition _ _ _ ihfirst ihsecond ihrest =>
    exact .alternative condition ihfirst ihsecond ihrest

end ChatPrompt.Leaf
