import ChatPrompt.Proofs.Reads

/-!
# The parser decides the grammar

A list of tokens is read as an expression exactly if it is one in the grammar, and then as the
tree that the grammar gives it. Soundness follows the descent of the parser: the tokens that
were used up are a phrase. Completeness follows the derivation, and is stated of a phrase with
anything behind it that does not go on with a tighter phrase; so a chain of operands is read
from the left while the tokens behind it decide how long the chain gets.
-/

namespace ChatPrompt

open Grammar

namespace Parser

/-- What holds of operands and passes on to the next looser level holds of all levels. -/
theorem Level.induct {P : Level → Prop} (operand : P .operand)
    (looser : ∀ level, level ≠ .operand → P level.tighter → P level) (level : Level) :
    P level := by
  have hcomparison := looser .comparison (by decide) operand
  have hconjunction := looser .conjunction (by decide) hcomparison
  cases level with
  | operand => exact operand
  | comparison => exact hcomparison
  | conjunction => exact hconjunction
  | disjunction => exact looser .disjunction (by decide) hconjunction

/-- The phrases that are read at a level. -/
def Level.phrase : Level → Phrase
  | .operand => .unary
  | .comparison => .comparison
  | .conjunction => .conjunction
  | .disjunction => .expression

/-- A phrase of the next tighter level is one of the level. -/
theorem derives_of_tighter {level : Level} {kinds : List Token.Kind} {e : Expr}
    (h : Derives level.tighter.phrase kinds e) : Derives level.phrase kinds e := by
  cases level with
  | operand => exact h
  | comparison => exact .comparison h
  | conjunction => exact .conjunction h
  | disjunction => exact .expression h

/-- What a token joins at a level is a phrase of the level. -/
theorem derives_join {level : Level} {kind : Token.Kind} {join : Expr → Expr → Expr}
    (hjoin : level.joins kind = some join) {before after : List Token.Kind} {left right : Expr}
    (hleft : Derives level.phrase before left)
    (hright : Derives level.tighter.phrase after right) :
    Derives level.phrase (before ++ kind :: after) (join left right) := by
  match level, kind, hjoin with
  | .disjunction, .mark .or, rfl => exact .or hleft hright
  | .conjunction, .mark .and, rfl => exact .and hleft hright
  | .comparison, .mark mark, h =>
    obtain ⟨op, hop, rfl⟩ := Option.map_eq_some_iff.1 h
    exact .compare hleft (comparisonOf_eq_some_iff.1 hop) hright

/-- A phrase with its tree stands before the tokens that are left. -/
def Consumes (phrase : Phrase) (ts : List Token) (e : Expr) (rest : List Token) : Prop :=
  ∃ used, ts = used ++ rest ∧ Derives phrase (used.map Token.kind) e

/-- Whatever is read of some tokens at a level is a phrase of the level. -/
def IsSound (finish : Nat) (ts : List Token) : Prop :=
  ∀ level e rest, Reads (parse finish level ts) e rest → Consumes level.phrase ts e rest

section

variable {finish : Nat} {ts rest : List Token} {e left : Expr} {level : Level}

/-- An operand is a unary phrase, if what is read of fewer tokens is sound. -/
theorem operand_sound
    (ih : ∀ shorter : List Token, shorter.length < ts.length → IsSound finish shorter)
    (h : Reads (operand finish ts) e rest) : Consumes .unary ts e rest := by
  obtain ⟨kind, offset, after, rfl, rfl | rfl | ⟨head, rfl⟩ | ⟨value, hliteral⟩⟩ :=
    reads_operand_cases h
  · obtain ⟨inner, hinner, rfl⟩ := reads_operand_not.1 h
    obtain ⟨used, rfl, hderives⟩ :=
      ih after (Nat.lt_succ_self _) .operand _ _ (reads_parse_operand.2 hinner)
    exact ⟨⟨.mark .not, offset⟩ :: used, rfl, .not hderives⟩
  · obtain ⟨close, hinner⟩ := reads_operand_parenthesis.1 h
    obtain ⟨used, rfl, hderives⟩ := ih after (Nat.lt_succ_self _) _ _ _ hinner
    refine ⟨⟨.mark .openParen, offset⟩ :: used ++ [⟨.mark .closeParen, close⟩], by simp, ?_⟩
    simpa using Derives.unary (.parenthesis hderives)
  · obtain ⟨steps, hsteps, rfl⟩ := reads_operand_name.1 h
    obtain ⟨used, rfl, hused⟩ := segments_sound hsteps
    exact ⟨⟨.name head, offset⟩ :: used, rfl, .unary (.path head hused)⟩
  · obtain ⟨_, hread⟩ := h
    obtain ⟨_, hgiven⟩ : Reads (operand finish (⟨kind, offset⟩ :: after)) (.literal value) after :=
      reads_operand_literal hliteral
    cases hread.symm.trans hgiven
    exact ⟨[⟨kind, offset⟩], rfl, .unary (.literal hliteral)⟩

/-- What is joined to a phrase of a level makes a phrase of the level, if what is read of fewer
tokens is sound. -/
theorem chain_sound
    (ih : ∀ shorter : List Token, shorter.length < ts.length → IsSound finish shorter)
    (h : Reads (chain finish level left ts) e rest) {before : List Token.Kind}
    (hleft : Derives level.phrase before left) :
    ∃ used, ts = used ++ rest ∧ Derives level.phrase (before ++ used.map Token.kind) e := by
  induction hlength : ts.length using Nat.strongRecOn generalizing ts left before with
  | ind length ihchain =>
    subst hlength
    by_cases hstop : ∀ token ∈ ts.head?, level.joins token.kind = none
    · obtain ⟨rfl, rfl⟩ := (reads_chain_stop hstop).1 h
      exact ⟨[], rfl, by simpa using hleft⟩
    · obtain ⟨token, htoken, hjoins⟩ :
          ∃ token, token ∈ ts.head? ∧ level.joins token.kind ≠ none := by
        simpa using hstop
      obtain ⟨after, rfl⟩ := List.head?_eq_some_iff.1 htoken
      obtain ⟨join, hjoin⟩ := Option.ne_none_iff_exists'.1 hjoins
      obtain ⟨right, middle, hright, hchain⟩ := (reads_chain_join hjoin).1 h
      obtain ⟨used, rfl, hused⟩ := ih after (Nat.lt_succ_self _) _ _ _ hright
      have hshorter : middle.length < (token :: (used ++ middle)).length := by
        simp only [List.length_cons, List.length_append]
        omega
      obtain ⟨more, rfl, hmore⟩ := ihchain middle.length hshorter
        (fun shorter hlt => ih shorter (Nat.lt_trans hlt hshorter)) hchain
        (derives_join hjoin hleft hused) rfl
      exact ⟨token :: used ++ more, by simp, by simpa using hmore⟩

end

/-- Whatever is read is a phrase. -/
theorem isSound (finish : Nat) (ts : List Token) : IsSound finish ts := by
  induction hlength : ts.length using Nat.strongRecOn generalizing ts with
  | ind length ihlength =>
    have ih : ∀ shorter : List Token, shorter.length < ts.length → IsSound finish shorter :=
      fun shorter hlt => ihlength shorter.length (hlength ▸ hlt) shorter rfl
    intro level
    induction level using Level.induct with
    | operand =>
      intro e rest h
      exact operand_sound ih (reads_parse_operand.1 h)
    | looser level hlevel ihlevel =>
      intro e rest h
      obtain ⟨first, middle, hfirst, hchain⟩ := (reads_parse hlevel).1 h
      obtain ⟨used, rfl, hused⟩ := ihlevel _ _ hfirst
      obtain ⟨more, rfl, hmore⟩ := chain_sound
        (fun shorter hlt => ih shorter (Nat.lt_of_lt_of_le hlt (by simp))) hchain
        (derives_of_tighter hused)
      exact ⟨used ++ more, by rw [List.append_assoc], by rw [List.map_append]; exact hmore⟩

/-- No token at the front goes on with what is read at a level or a tighter one. -/
def Level.EndsAt (level : Level) (ts : List Token) : Prop :=
  ∀ token ∈ ts.head?, token.kind ≠ .mark .dot ∧ token.kind ≠ .mark .openBracket ∧
    ∀ tighter : Level, tighter.rank ≤ level.rank → tighter.joins token.kind = none

/-- What ends a level ends the tighter one. -/
theorem Level.EndsAt.tighter {level : Level} {ts : List Token} (h : level.EndsAt ts) :
    level.tighter.EndsAt ts := by
  intro token htoken
  obtain ⟨hdot, hbracket, hjoins⟩ := h token htoken
  have hrank : level.tighter.rank ≤ level.rank := by cases level <;> decide
  exact ⟨hdot, hbracket, fun other hother => hjoins other (Nat.le_trans hother hrank)⟩

/-- A mark that compares joins comparisons. -/
theorem joins_of_compares {mark : Mark} {op : Value.Comparison} (h : Compares mark op) :
    Level.comparison.joins (.mark mark) = some fun left right => .comparison left op right := by
  rw [Level.joins]
  rw [comparisonOf_eq_some_iff.2 h]
  rfl

/-- A token that joins at some level continues an expression. -/
theorem continues_of_joins {level : Level} {kind : Token.Kind} {join : Expr → Expr → Expr}
    (hjoin : level.joins kind = some join) : Continues kind := by
  match level, kind, hjoin with
  | .disjunction, .mark .or, _ => exact .or
  | .conjunction, .mark .and, _ => exact .and
  | .comparison, .mark mark, h =>
    obtain ⟨op, hop, -⟩ := Option.map_eq_some_iff.1 h
    exact .compare (comparisonOf_eq_some_iff.1 hop)

/-- A token that does not continue an expression ends every level. -/
theorem endsAt_of_not_continues {token : Token} (h : ¬ Continues token.kind) (ts : List Token) :
    Level.disjunction.EndsAt (token :: ts) := by
  intro other hother
  obtain rfl : token = other := by simpa using hother
  refine ⟨fun hdot => h (hdot ▸ .dot), fun hbracket => h (hbracket ▸ .openBracket), ?_⟩
  exact fun level _ =>
    Option.eq_none_iff_forall_ne_some.2 fun join hjoin => h (continues_of_joins hjoin)

/-- What joins at a level ends the tighter one. -/
theorem endsAt_of_joins {level : Level} {token : Token} {join : Expr → Expr → Expr}
    (hjoin : level.joins token.kind = some join) (ts : List Token) :
    level.tighter.EndsAt (token :: ts) := by
  intro other hother
  obtain rfl : token = other := by simpa using hother
  generalize token.kind = kind at hjoin
  match level, kind, hjoin with
  | .disjunction, .mark .or, _ =>
    refine ⟨by decide, by decide, fun tighter htighter => ?_⟩
    cases tighter <;> first | rfl | exact absurd htighter (by decide)
  | .conjunction, .mark .and, _ =>
    refine ⟨by decide, by decide, fun tighter htighter => ?_⟩
    cases tighter <;> first | rfl | exact absurd htighter (by decide)
  | .comparison, .mark mark, h =>
    obtain ⟨op, hop, -⟩ := Option.map_eq_some_iff.1 h
    have hcompares := comparisonOf_eq_some_iff.1 hop
    refine ⟨?_, ?_, fun tighter htighter => ?_⟩
    · cases hcompares <;> decide
    · cases hcompares <;> decide
    · cases tighter <;> first | rfl | exact absurd htighter (by decide)

/-- Some tokens are read as a phrase of a level, whatever behind them does not go on with a
tighter one; and what is joined behind them is joined to it. -/
def CompleteAt (finish : Nat) (level : Level) (ts : List Token) (e : Expr) : Prop :=
  ∀ rest, level.tighter.EndsAt rest → ∀ whole left,
    Reads (chain finish level e rest) whole left →
      Reads (parse finish level (ts ++ rest)) whole left

section

variable {finish : Nat} {level : Level} {ts : List Token} {e : Expr}

/-- Tokens are read as a phrase up to where the level ends. -/
theorem CompleteAt.reads (h : CompleteAt finish level ts e) {rest : List Token}
    (hrest : level.EndsAt rest) : Reads (parse finish level (ts ++ rest)) e rest :=
  h _ hrest.tighter _ _ ((reads_chain_stop fun token htoken =>
    (hrest token htoken).2.2 level (Nat.le_refl _)).2 ⟨rfl, rfl⟩)

/-- An operand that is read up to where it ends. -/
theorem completeAt_operand
    (h : ∀ rest, Level.operand.EndsAt rest → Reads (operand finish (ts ++ rest)) e rest) :
    CompleteAt finish .operand ts e := by
  intro rest hrest whole left hchain
  obtain ⟨rfl, rfl⟩ := (reads_chain_stop fun _ _ => rfl).1 hchain
  exact reads_parse_operand.2 (h _ hrest)

/-- A phrase of the next tighter level is read as one of the level. -/
theorem CompleteAt.looser (hlevel : level ≠ .operand) (h : CompleteAt finish level.tighter ts e) :
    CompleteAt finish level ts e := by
  intro rest hrest whole left hchain
  exact (reads_parse hlevel).2 ⟨e, rest, h.reads hrest, hchain⟩

/-- A phrase with one more operand behind it is read as one. -/
theorem CompleteAt.join {token : Token} {join : Expr → Expr → Expr}
    (hjoin : level.joins token.kind = some join) {before after : List Token} {a b : Expr}
    (hleft : CompleteAt finish level before a) (hright : CompleteAt finish level.tighter after b) :
    CompleteAt finish level (before ++ token :: after) (join a b) := by
  intro rest hrest whole left hchain
  rw [List.append_assoc]
  exact hleft _ (endsAt_of_joins hjoin _) _ _
    ((reads_chain_join hjoin).2 ⟨b, rest, hright.reads hrest, hchain⟩)

end

/-- The level at which phrases of a kind are read. -/
def levelOf : Phrase → Level
  | .expression => .disjunction
  | .conjunction => .conjunction
  | .comparison => .comparison
  | .unary => .operand
  | .primary => .operand

/-- A phrase is read, whatever stands behind it. -/
theorem derives_complete {finish : Nat} {phrase : Phrase} {ts : List Token} {e : Expr}
    (h : Derives phrase (ts.map Token.kind) e) : CompleteAt finish (levelOf phrase) ts e := by
  generalize hkinds : ts.map Token.kind = kinds at h
  induction h generalizing ts with
  | expression _ ih => exact CompleteAt.looser (by decide) (ih hkinds)
  | conjunction _ ih => exact CompleteAt.looser (by decide) (ih hkinds)
  | comparison _ ih => exact CompleteAt.looser (by decide) (ih hkinds)
  | or _ _ ihleft ihright =>
    obtain ⟨before, others, rfl, rfl, hothers⟩ := List.map_eq_append_iff.1 hkinds
    obtain ⟨offset, after, rfl, rfl⟩ := map_kind_eq_cons_iff.1 hothers
    exact CompleteAt.join rfl (ihleft rfl) (ihright rfl)
  | and _ _ ihleft ihright =>
    obtain ⟨before, others, rfl, rfl, hothers⟩ := List.map_eq_append_iff.1 hkinds
    obtain ⟨offset, after, rfl, rfl⟩ := map_kind_eq_cons_iff.1 hothers
    exact CompleteAt.join rfl (ihleft rfl) (ihright rfl)
  | @compare _ _ _ _ mark op _ hmark _ ihleft ihright =>
    obtain ⟨before, others, rfl, rfl, hothers⟩ := List.map_eq_append_iff.1 hkinds
    obtain ⟨offset, after, rfl, rfl⟩ := map_kind_eq_cons_iff.1 hothers
    have hjoin : Level.comparison.joins (Token.kind ⟨.mark mark, offset⟩) =
        some fun left right => .comparison left op right := joins_of_compares hmark
    exact CompleteAt.join hjoin (ihleft rfl) (ihright rfl)
  | unary _ ih => exact ih hkinds
  | not _ ih =>
    obtain ⟨offset, operand, rfl, hoperand⟩ := map_kind_eq_cons_iff.1 hkinds
    refine completeAt_operand fun rest hrest => ?_
    exact reads_operand_not.2 ⟨_, reads_parse_operand.1 ((ih hoperand).reads hrest), rfl⟩
  | literal hliteral =>
    obtain ⟨offset, others, rfl, hnil⟩ := map_kind_eq_cons_iff.1 hkinds
    obtain rfl := List.map_eq_nil_iff.1 hnil
    exact completeAt_operand fun rest _ => reads_operand_literal hliteral
  | path head hsteps =>
    obtain ⟨offset, steps, rfl, rfl⟩ := map_kind_eq_cons_iff.1 hkinds
    refine completeAt_operand fun rest hrest => ?_
    have hread : Reads (segments finish (steps ++ rest)) _ rest :=
      segments_complete hsteps fun token htoken =>
        ⟨(hrest token htoken).1, (hrest token htoken).2.1⟩
    exact reads_operand_name.2 ⟨_, hread, rfl⟩
  | parenthesis _ ih =>
    obtain ⟨offset, others, rfl, hothers⟩ := map_kind_eq_cons_iff.1 hkinds
    obtain ⟨inside, closing, rfl, rfl, hclosing⟩ := List.map_eq_append_iff.1 hothers
    obtain ⟨close, _, rfl, hnil⟩ := map_kind_eq_cons_iff.1 hclosing
    obtain rfl := List.map_eq_nil_iff.1 hnil
    refine completeAt_operand fun rest _ => ?_
    change Reads (operand finish (⟨.mark .openParen, offset⟩ ::
      (inside ++ [⟨.mark .closeParen, close⟩] ++ rest))) _ rest
    rw [List.append_assoc]
    -- the mark that closes the parenthesis ends what is inside it
    exact reads_operand_parenthesis.2
      ⟨close, (ih rfl).reads (endsAt_of_not_continues not_continues_closeParen rest)⟩

end Parser

namespace Expr

/-- Tokens are an expression if they are read as one and nothing is left. -/
theorem ofTokens_eq_ok_iff_reads {finish : Nat} {ts : List Token} {e : Expr} :
    ofTokens finish ts = .ok e ↔ Parser.Reads (Parser.parse finish .disjunction ts) e [] := by
  cases ts with
  | nil =>
    constructor
    · intro h
      cases h
    · rintro ⟨shorter, -⟩
      cases shorter
  | cons token after =>
    rw [ofTokens]
    · cases Parser.parse finish .disjunction (token :: after) with
      | error fault => simp
      | ok all =>
        obtain ⟨value, rest, shorter⟩ := all
        cases rest with
        | nil => simp [eq_comm]
        | cons next others => simp
    · simp

/-- A token that is left behind an expression is an error there. -/
theorem ofTokens_eq_error_of_reads {finish : Nat} {ts rest : List Token} {token : Token} {e : Expr}
    (h : Parser.Reads (Parser.parse finish .disjunction ts) e (token :: rest)) :
    ofTokens finish ts = .error ⟨token.offset, .afterExpression token.kind⟩ := by
  obtain ⟨shorter, hparse⟩ := h
  cases ts with
  | nil => cases shorter
  | cons first after =>
    rw [ofTokens]
    · rw [hparse]
    · simp

/-- Tokens are read as the expressions that they derive in the grammar. -/
theorem ofTokens_eq_ok_iff_derives (finish : Nat) {ts : List Token} {e : Expr} :
    ofTokens finish ts = .ok e ↔ Derives .expression (ts.map Token.kind) e := by
  rw [ofTokens_eq_ok_iff_reads]
  constructor
  · intro h
    obtain ⟨used, rfl, hderives⟩ := Parser.isSound finish ts .disjunction _ _ h
    rwa [List.append_nil]
  · intro h
    have hends : Parser.Level.disjunction.EndsAt [] := fun token htoken => by cases htoken
    have hread : Parser.Reads (Parser.parse finish .disjunction (ts ++ [])) e [] :=
      (Parser.derives_complete h).reads hends
    rwa [List.append_nil] at hread

/-- The parser decides the grammar: tokens are read as an expression if and only if all of them
together derive it; they derive at most one tree; and where an expression is followed by a token
that does not continue it, that token is reported. -/
theorem ofTokens_decides (finish : Nat) (ts : List Token) :
    (∀ e, ofTokens finish ts = .ok e ↔ Derives .expression (ts.map Token.kind) e) ∧
    (∀ e other, Derives .expression (ts.map Token.kind) e →
      Derives .expression (ts.map Token.kind) other → e = other) ∧
    (∀ used token rest e, ts = used ++ token :: rest →
      Derives .expression (used.map Token.kind) e → ¬ Continues token.kind →
      ofTokens finish ts = .error ⟨token.offset, .afterExpression token.kind⟩) := by
  refine ⟨fun e => ofTokens_eq_ok_iff_derives finish, ?_, ?_⟩
  · intro e other he hother
    have hread := (ofTokens_eq_ok_iff_derives finish).2 he
    have hread' := (ofTokens_eq_ok_iff_derives finish).2 hother
    cases hread.symm.trans hread'
    rfl
  · rintro used token rest e rfl he hends
    exact ofTokens_eq_error_of_reads
      ((Parser.derives_complete he).reads (Parser.endsAt_of_not_continues hends rest))

end Expr

namespace Sample

/-- The tokens of two paths and a negated one with disjunctions between them. -/
def tokens : List Token :=
  [⟨.name "a", 0⟩, ⟨.mark .or, 2⟩, ⟨.mark .not, 5⟩, ⟨.name "b", 6⟩, ⟨.mark .dot, 7⟩,
    ⟨.mark .nullWord, 8⟩, ⟨.mark .or, 13⟩, ⟨.name "c", 16⟩, ⟨.mark .openBracket, 17⟩,
    ⟨.text "k", 18⟩, ⟨.mark .closeBracket, 21⟩]

/-- Their tree: the first two operands are joined first. -/
def tree : Expr :=
  .disjunction (.disjunction (.path ⟨"a", []⟩) (.negation (.path ⟨"b", [.key "null"]⟩)))
    (.path ⟨"c", [.key "k"]⟩)

/-- A primary phrase is a conjunction. -/
theorem derives_conjunction {kinds : List Token.Kind} {e : Expr} (h : Derives .unary kinds e) :
    Derives .conjunction kinds e := .conjunction (.comparison h)

/-- The tokens derive the tree. -/
theorem derives_tree : Derives .expression (tokens.map Token.kind) tree := by
  have ha := Derives.path "a" .nil
  have hb := Derives.path "b" (.cons (.key .nullWord) .nil)
  have hc := Derives.path "c" (.cons (.keyInside "k") .nil)
  exact .or (.or (.expression (derives_conjunction (.unary ha)))
    (derives_conjunction (.not (.unary hb)))) (derives_conjunction (.unary hc))

end Sample

/-- The sample is read as its tree and as nothing else; with a closing parenthesis behind it,
that is reported. -/
theorem Expr.ofTokens_decides_sample :
    Expr.ofTokens 22 Sample.tokens = .ok Sample.tree ∧
      (∀ other, Derives .expression (Sample.tokens.map Token.kind) other →
        other = Sample.tree) ∧
      Expr.ofTokens 23 (Sample.tokens ++ [⟨.mark .closeParen, 22⟩]) =
        .error ⟨22, .afterExpression (.mark .closeParen)⟩ := by
  obtain ⟨hread, hunique, -⟩ := Expr.ofTokens_decides 22 Sample.tokens
  obtain ⟨-, -, hleft⟩ :=
    Expr.ofTokens_decides 23 (Sample.tokens ++ [⟨.mark .closeParen, 22⟩])
  exact ⟨(hread _).2 Sample.derives_tree,
    fun other hother => hunique other _ hother Sample.derives_tree,
    hleft Sample.tokens _ [] _ rfl Sample.derives_tree not_continues_closeParen⟩

end ChatPrompt
