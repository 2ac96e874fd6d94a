import ChatPrompt.Expr.Basic
import ChatPrompt.Expr.Lexer

/-!
# From tokens to trees

Operators bind at three levels, loosest first: disjunction, conjunction, comparison. At each
level operands of the next tighter level are joined from the left. Every step gives the tree
and the tokens it left, which are fewer than those it was given, so the descent ends; a token
that is left at the very end is an error.
-/

namespace ChatPrompt

open Number

namespace Parser

/-- What a step gives: what it read, and the fewer than `size` tokens it left. -/
structure Parsed (α : Type) (size : Nat) where
  /-- What was read. -/
  value : α
  /-- The tokens that are left. -/
  rest : List Token
  /-- There are fewer of them than before. -/
  shorter : rest.length < size

/-- What stands first among the tokens. -/
def found (ts : List Token) : Option Token.Kind := ts.head?.map Token.kind

/-- Where the first of the tokens starts, or where the text ends. -/
def offsetOf (finish : Nat) (ts : List Token) : Nat := (ts.head?.map Token.offset).getD finish

/-- The place in an array that a number names. Places beyond the limit are as far away as
the last one. -/
def placeOf (offset : Nat) (value : Extended) : Except SyntaxError Nat :=
  match value with
  | .finite x =>
    if x.isWhole && (!x.negative || x.units == 0) then
      .ok (min x.floorMagnitude (Segment.placeLimit - 1))
    else .error ⟨offset, .invalidIndex value⟩
  | _ => .error ⟨offset, .invalidIndex value⟩

/-- The literal that a number stands for: whole where it is small enough to be exact. -/
def numberLiteral : Extended → Json
  | .finite x => .number (if x.isPlainInteger then .whole x.truncate else .floating x)
  | _ => .null

/-- The key that a token names after a point. Words with a meaning of their own are keys
there as well. -/
def keyOf : Token.Kind → Option String
  | .name text => some text
  | .mark .trueWord => some "true"
  | .mark .falseWord => some "false"
  | .mark .nullWord => some "null"
  | _ => none

/-- The steps of a path after its head, as many as there are. -/
def segments (finish : Nat) :
    (ts : List Token) → Except SyntaxError (Parsed (List Segment) (ts.length + 1))
  | ⟨.mark .dot, _⟩ :: after =>
    match after with
    | [] => .error ⟨finish, .expectedKey none⟩
    | ⟨kind, offset⟩ :: rest =>
      let segment : Except SyntaxError Segment := match kind, keyOf kind with
        | _, some key => .ok (.key key)
        | .number value, none => (placeOf offset value).map Segment.index
        | other, none => .error ⟨offset, .expectedKey (some other)⟩
      match segment with
      | .error e => .error e
      | .ok segment =>
        match segments finish rest with
        | .error e => .error e
        | .ok tail => .ok ⟨segment :: tail.value, tail.rest, by
            have h := tail.shorter
            simp only [List.length_cons]
            omega⟩
  | ⟨.mark .openBracket, _⟩ :: after =>
    match after with
    | [] => .error ⟨finish, .expectedStep none⟩
    | ⟨kind, offset⟩ :: close =>
      let segment : Except SyntaxError Segment := match kind with
        | .text key => .ok (.key key)
        | .number value => (placeOf offset value).map Segment.index
        | other => .error ⟨offset, .expectedStep (some other)⟩
      match segment with
      | .error e => .error e
      | .ok segment =>
        match close with
        | ⟨.mark .closeBracket, _⟩ :: rest =>
          match segments finish rest with
          | .error e => .error e
          | .ok tail => .ok ⟨segment :: tail.value, tail.rest, by
              have h := tail.shorter
              simp only [List.length_cons]
              omega⟩
        | close => .error ⟨offsetOf finish close, .expectedCloseBracket (found close)⟩
  | ts => .ok ⟨[], ts, Nat.lt_succ_self _⟩

/-- How tightly operators bind. -/
inductive Level where
  /-- A single operand. -/
  | operand
  /-- Operands with comparisons between them. -/
  | comparison
  /-- Comparisons with conjunctions between them. -/
  | conjunction
  /-- Conjunctions with disjunctions between them. -/
  | disjunction
  deriving DecidableEq, Repr

/-- The place of a level, tightest first. -/
def Level.rank : Level → Nat
  | .operand => 0
  | .comparison => 1
  | .conjunction => 2
  | .disjunction => 3

/-- The next tighter level. -/
def Level.tighter : Level → Level
  | .operand => .operand
  | .comparison => .operand
  | .conjunction => .comparison
  | .disjunction => .conjunction

/-- Tighter levels come earlier, down to the operands. -/
theorem Level.rank_tighter_lt (level : Level) (h : level.rank ≠ 0) :
    level.tighter.rank < level.rank := by
  cases level <;> simp_all [Level.rank, Level.tighter]

/-- The comparison that a mark writes. -/
def comparisonOf : Mark → Option Value.Comparison
  | .eq => some .eq
  | .ne => some .ne
  | .lt => some .lt
  | .gt => some .gt
  | .le => some .le
  | .ge => some .ge
  | _ => none

/-- How a token joins two operands at a level, if it does. -/
def Level.joins (level : Level) (kind : Token.Kind) : Option (Expr → Expr → Expr) :=
  match level, kind with
  | .disjunction, .mark .or => some .disjunction
  | .conjunction, .mark .and => some .conjunction
  | .comparison, .mark mark =>
    (comparisonOf mark).map fun comparison left right => .comparison left comparison right
  | _, _ => none

/-- The inside of a parenthesis with the mark that closes it. -/
def closed {size : Nat} (finish : Nat) (value : Expr) (rest : List Token)
    (shorter : rest.length < size) : Except SyntaxError (Parsed Expr size) :=
  match rest with
  | [] => .error ⟨finish, .expectedCloseParen none⟩
  | ⟨kind, offset⟩ :: after =>
    if kind = .mark .closeParen then .ok ⟨value, after, Nat.lt_of_succ_lt shorter⟩
    else .error ⟨offset, .expectedCloseParen (some kind)⟩

mutual

/-- One operand: a negation, a parenthesis, a literal or a path. -/
def operand (finish : Nat) (ts : List Token) : Except SyntaxError (Parsed Expr ts.length) :=
  match ts with
  | [] => .error ⟨finish, .expectedValue none⟩
  | ⟨.mark .not, _⟩ :: rest =>
    match operand finish rest with
    | .error e => .error e
    | .ok inner => .ok ⟨.negation inner.value, inner.rest, Nat.lt_succ_of_lt inner.shorter⟩
  | ⟨.mark .openParen, _⟩ :: rest =>
    match parse finish .disjunction rest with
    | .error e => .error e
    | .ok inner => closed finish inner.value inner.rest (Nat.lt_succ_of_lt inner.shorter)
  | ⟨.text value, _⟩ :: rest => .ok ⟨.literal (.string value), rest, Nat.lt_succ_self _⟩
  | ⟨.number value, _⟩ :: rest =>
    .ok ⟨.literal (numberLiteral value), rest, Nat.lt_succ_self _⟩
  | ⟨.mark .trueWord, _⟩ :: rest => .ok ⟨.literal (.bool true), rest, Nat.lt_succ_self _⟩
  | ⟨.mark .falseWord, _⟩ :: rest => .ok ⟨.literal (.bool false), rest, Nat.lt_succ_self _⟩
  | ⟨.mark .nullWord, _⟩ :: rest => .ok ⟨.literal .null, rest, Nat.lt_succ_self _⟩
  | ⟨.name head, _⟩ :: rest =>
    match segments finish rest with
    | .error e => .error e
    | .ok tail => .ok ⟨.path ⟨head, tail.value⟩, tail.rest, tail.shorter⟩
  | ⟨kind, offset⟩ :: _ => .error ⟨offset, .expectedValue (some kind)⟩
termination_by (ts.length, 0)

/-- The operands of a level with what joins them. -/
def parse (finish : Nat) (level : Level) (ts : List Token) :
    Except SyntaxError (Parsed Expr ts.length) :=
  if h : level.rank = 0 then operand finish ts
  else
    have tighter := level.rank_tighter_lt h
    match parse finish level.tighter ts with
    | .error e => .error e
    | .ok first =>
      have fewer := first.shorter
      match chain finish level first.value first.rest with
      | .error e => .error e
      | .ok all => .ok ⟨all.value, all.rest, by
          have h := all.shorter
          omega⟩
termination_by (ts.length, level.rank + 1)

/-- Joins further operands to what was read so far, from the left. -/
def chain (finish : Nat) (level : Level) (left : Expr) (ts : List Token) :
    Except SyntaxError (Parsed Expr (ts.length + 1)) :=
  match ts with
  | [] => .ok ⟨left, [], Nat.lt_succ_self _⟩
  | token :: rest =>
    match level.joins token.kind with
    | none => .ok ⟨left, token :: rest, Nat.lt_succ_self _⟩
    | some join =>
      match parse finish level.tighter rest with
      | .error e => .error e
      | .ok right =>
        have fewer := right.shorter
        match chain finish level (join left right.value) right.rest with
        | .error e => .error e
        | .ok all => .ok ⟨all.value, all.rest, by
            have h := all.shorter
            simp only [List.length_cons]
            omega⟩
termination_by (ts.length, 0)

end

end Parser

/-- The expression that a list of tokens is; `finish` is where its text ends. -/
def Expr.ofTokens (finish : Nat) (ts : List Token) : Except SyntaxError Expr :=
  match ts with
  | [] => .error ⟨0, .emptyExpression⟩
  | ts =>
    match Parser.parse finish .disjunction ts with
    | .error e => .error e
    | .ok all =>
      match all.rest with
      | [] => .ok all.value
      | token :: _ => .error ⟨token.offset, .afterExpression token.kind⟩

/-- The path that a list of tokens is; `finish` is where its text ends. -/
def Path.ofTokens (finish : Nat) (ts : List Token) : Except SyntaxError Path :=
  match ts with
  | ⟨.name head, _⟩ :: rest =>
    match Parser.segments finish rest with
    | .error e => .error e
    | .ok steps =>
      match steps.rest with
      | [] => .ok ⟨head, steps.value⟩
      | token :: _ => .error ⟨token.offset, .afterPath token.kind⟩
  | ts => .error ⟨Parser.offsetOf finish ts, .expectedName (Parser.found ts)⟩

/-- The expression that a text writes. -/
def Expr.ofText (text : String) : Except SyntaxError Expr :=
  (Token.ofText text).bind (Expr.ofTokens text.utf8ByteSize)

/-- The path that a text writes. -/
def Path.ofText (text : String) : Except SyntaxError Path :=
  (Token.ofText text).bind (Path.ofTokens text.utf8ByteSize)

end ChatPrompt
