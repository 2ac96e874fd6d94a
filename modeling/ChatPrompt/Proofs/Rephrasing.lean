import ChatPrompt.Render.Environment

/-!
# Conditions as expressions

A condition can be written as a tree of conditions or, if it asks nothing of sources and of content,
as one expression: that a value is there means that it is not `null`, and all or one of some
conditions are a chain of conjunctions or disjunctions. Trees and expressions are evaluated by
different functions, of which the one takes a value that is `null` for none and the other does not.
No comparison tells these two apart, so a condition holds exactly where its expression does.
-/

namespace ChatPrompt

namespace Value

/-- A value that is not `null`, if there is one. -/
def present (value : Option Json) : Option Json := value.filter fun value => !value.isNull

/-- No comparison tells `null` from nothing. -/
theorem holds_present (value : Option Json) (op : Comparison) (other : Option Json) :
    holds (present value) op other = holds value op other := by
  have hnull : holds none op other = holds (some .null) op other := by
    rcases other with _ | (_ | _ | _ | _ | _ | _) <;> cases op <;> rfl
  rcases value with _ | (_ | _ | _ | _ | _ | _)
  case some.null => exact hnull
  all_goals rfl

/-- A value is there if it is not equal to `null`. -/
theorem isPresent_eq_holds (value : Option Json) :
    isPresent value = holds value .ne (some .null) := by
  rcases value with _ | (_ | _ | _ | _ | _ | _) <;> rfl

end Value

namespace Expr

/-- Expressions joined from the left. Where there are none, it is a truth value. -/
def chain (join : Expr → Expr → Expr) (unit : Bool) : List Expr → Expr
  | [] => .literal (.bool unit)
  | first :: rest => rest.foldl join first

/-- A chain holds where its expressions do together, given what two joined expressions do. -/
theorem holds_chain {scope : Scope} {join : Expr → Expr → Expr} {unit : Bool}
    (together : Bool → Bool → Bool) [Std.Associative together]
    [Std.LawfulRightIdentity together unit]
    (hjoin : ∀ left right,
      (join left right).holds scope = together (left.holds scope) (right.holds scope))
    (exprs : List Expr) :
    (chain join unit exprs).holds scope =
      (exprs.map (holds scope)).foldr together unit := by
  cases exprs with
  | nil => rfl
  | cons first rest =>
    rw [chain]
    induction rest generalizing first with
    | nil => exact (Std.LawfulRightIdentity.right_id _).symm
    | cons second rest ih =>
      rw [List.foldl_cons, ih, List.map_cons, List.foldr_cons, hjoin]
      exact Std.Associative.assoc _ _ _

end Expr

namespace Blueprint

/-- The path of a reference that reads from the scope. -/
def Reference.path? (reference : Reference) : Option Path :=
  match reference.target with
  | .source _ _ => none
  | .scope path => some path

mutual

/-- The expression that a condition can be written as, if it can. -/
def Condition.expression? : Condition → Option Expr
  | .present target => target.path?.map fun path => .comparison (.path path) .ne (.literal .null)
  | .nonEmpty _ => none
  | .compare target op value =>
    target.path?.map fun path => .comparison (.path path) op (.literal value)
  | .expression expr => some expr
  | .all conditions => (conditionExpressions? conditions).map (Expr.chain .conjunction true)
  | .any conditions => (conditionExpressions? conditions).map (Expr.chain .disjunction false)
  | .negation condition => condition.expression?.map .negation

/-- The expressions that some conditions can be written as, if each of them can. -/
def conditionExpressions? : List Condition → Option (List Expr)
  | [] => some []
  | condition :: rest => condition.expression?.bind fun expr =>
    (conditionExpressions? rest).map (expr :: ·)

end

/-- A condition that asks nothing of sources and of content, at any depth. -/
inductive Condition.IsExpressible : Condition → Prop where
  /-- There is a value under a path of the scope. -/
  | present {target : Reference} {path : Path} (hpath : target.target = .scope path) :
    IsExpressible (.present target)
  /-- The value under a path of the scope compares with a literal. -/
  | compare {target : Reference} {path : Path} (op : Value.Comparison) (value : Json)
    (hpath : target.target = .scope path) : IsExpressible (.compare target op value)
  /-- An expression holds. -/
  | expression (expr : Expr) : IsExpressible (.expression expr)
  /-- Every one of some conditions holds. -/
  | all {conditions : List Condition} (h : ∀ condition ∈ conditions, IsExpressible condition) :
    IsExpressible (.all conditions)
  /-- One of some conditions holds. -/
  | any {conditions : List Condition} (h : ∀ condition ∈ conditions, IsExpressible condition) :
    IsExpressible (.any conditions)
  /-- A condition does not hold. -/
  | negation {condition : Condition} (h : IsExpressible condition) :
    IsExpressible (.negation condition)

/-- Some conditions can be written as expressions if each of them can. -/
theorem exists_conditionExpressions? {conditions : List Condition}
    (h : ∀ condition ∈ conditions, ∃ expr, condition.expression? = some expr) :
    ∃ exprs, conditionExpressions? conditions = some exprs := by
  induction conditions with
  | nil => exact ⟨[], rfl⟩
  | cons condition rest ih =>
    obtain ⟨⟨expr, hexpr⟩, hrest⟩ := List.forall_mem_cons.1 h
    obtain ⟨exprs, hexprs⟩ := ih hrest
    exact ⟨expr :: exprs, by rw [conditionExpressions?, hexpr, hexprs]; rfl⟩

/-- Some conditions are written as expressions one by one. -/
theorem conditionExpressions?_cons_eq_some {condition : Condition} {rest : List Condition}
    {exprs : List Expr} (h : conditionExpressions? (condition :: rest) = some exprs) :
    ∃ expr others, condition.expression? = some expr ∧
      conditionExpressions? rest = some others ∧ exprs = expr :: others := by
  rw [conditionExpressions?] at h
  obtain ⟨expr, hexpr, hrest⟩ := Option.bind_eq_some_iff.1 h
  obtain ⟨others, hothers, rfl⟩ := Option.map_eq_some_iff.1 hrest
  exact ⟨expr, others, hexpr, hothers, rfl⟩

/-- A condition that asks nothing of sources and of content can be written as an expression. -/
theorem Condition.IsExpressible.exists_expression? {condition : Condition}
    (h : condition.IsExpressible) : ∃ expr, condition.expression? = some expr := by
  induction h with
  | present hpath => exact ⟨_, by rw [expression?, Reference.path?, hpath]; rfl⟩
  | compare op value hpath => exact ⟨_, by rw [expression?, Reference.path?, hpath]; rfl⟩
  | expression expr => exact ⟨expr, by rw [expression?]⟩
  | all _ ih =>
    obtain ⟨exprs, hexprs⟩ := exists_conditionExpressions? ih
    exact ⟨_, by rw [expression?, hexprs]; rfl⟩
  | any _ ih =>
    obtain ⟨exprs, hexprs⟩ := exists_conditionExpressions? ih
    exact ⟨_, by rw [expression?, hexprs]; rfl⟩
  | negation _ ih =>
    obtain ⟨expr, hexpr⟩ := ih
    exact ⟨_, by rw [expression?, hexpr]; rfl⟩

end Blueprint

namespace Render.Environment

open Blueprint

variable (env : Environment) (scope : Scope)

/-- A reference to a path of the scope has the value of the path, if that is not `null`. -/
theorem resolve_of_path? {target : Reference} {path : Path} (h : target.path? = some path) :
    env.resolve scope target = Value.present (scope.resolve path) := by
  obtain ⟨target, arguments⟩ := target
  cases target with
  | source name steps => cases h
  | scope other =>
    cases h
    rfl

mutual

/-- A condition holds where the expression does that it is written as. -/
theorem holds_eq_of_expression? (condition : Condition) {expr : Expr}
    (h : condition.expression? = some expr) : env.holds scope condition = expr.holds scope := by
  cases condition with
  | present target =>
    rw [Condition.expression?] at h
    obtain ⟨path, hpath, rfl⟩ := Option.map_eq_some_iff.1 h
    rw [holds, resolve_of_path? env scope hpath, Value.isPresent_eq_holds, Value.holds_present]
    rfl
  | nonEmpty target =>
    rw [Condition.expression?] at h
    cases h
  | compare target op value =>
    rw [Condition.expression?] at h
    obtain ⟨path, hpath, rfl⟩ := Option.map_eq_some_iff.1 h
    rw [holds, resolve_of_path? env scope hpath, Value.holds_present]
    rfl
  | expression own =>
    rw [Condition.expression?] at h
    cases h
    rw [holds]
  | all conditions =>
    rw [Condition.expression?] at h
    obtain ⟨exprs, hexprs, rfl⟩ := Option.map_eq_some_iff.1 h
    rw [holds, Expr.holds_chain and fun _ _ => rfl, holdsAll_eq_of_expressions? conditions hexprs]
  | any conditions =>
    rw [Condition.expression?] at h
    obtain ⟨exprs, hexprs, rfl⟩ := Option.map_eq_some_iff.1 h
    rw [holds, Expr.holds_chain or fun _ _ => rfl, holdsAny_eq_of_expressions? conditions hexprs]
  | negation inner =>
    rw [Condition.expression?] at h
    obtain ⟨own, hown, rfl⟩ := Option.map_eq_some_iff.1 h
    rw [holds, holds_eq_of_expression? inner hown]
    rfl

/-- Every one of some conditions holds where each of their expressions does. -/
theorem holdsAll_eq_of_expressions? (conditions : List Condition) {exprs : List Expr}
    (h : conditionExpressions? conditions = some exprs) :
    env.holdsAll scope conditions = (exprs.map (Expr.holds scope)).foldr and true := by
  cases conditions with
  | nil =>
    cases h
    rw [holdsAll]
    rfl
  | cons first rest =>
    obtain ⟨expr, others, hexpr, hothers, rfl⟩ := conditionExpressions?_cons_eq_some h
    rw [holdsAll, holds_eq_of_expression? first hexpr, holdsAll_eq_of_expressions? rest hothers]
    rfl

/-- One of some conditions holds where one of their expressions does. -/
theorem holdsAny_eq_of_expressions? (conditions : List Condition) {exprs : List Expr}
    (h : conditionExpressions? conditions = some exprs) :
    env.holdsAny scope conditions = (exprs.map (Expr.holds scope)).foldr or false := by
  cases conditions with
  | nil =>
    cases h
    rw [holdsAny]
    rfl
  | cons first rest =>
    obtain ⟨expr, others, hexpr, hothers, rfl⟩ := conditionExpressions?_cons_eq_some h
    rw [holdsAny, holds_eq_of_expression? first hexpr, holdsAny_eq_of_expressions? rest hothers]
    rfl

end

/-- **Conditions and expressions agree.** A condition that asks nothing of sources and of content,
however deep it is nested, can be written as an expression, and in every environment and every scope
it holds exactly where the expression does. -/
theorem holds_eq_holds_expression {condition : Condition} (h : condition.IsExpressible) :
    ∃ expr, condition.expression? = some expr ∧
      ∀ (env : Environment) (scope : Scope), env.holds scope condition = expr.holds scope := by
  obtain ⟨expr, hexpr⟩ := h.exists_expression?
  exact ⟨expr, hexpr, fun env scope => env.holds_eq_of_expression? scope condition hexpr⟩

end Render.Environment

namespace Sample

open Blueprint

/-- A reference to a name of the scope. -/
def named (name : String) : Reference := ⟨.scope ⟨name, []⟩, .literal .null⟩

/-- The mood is there and is not below three, or it is `null`; and nothing else is asked. -/
def moodTest : Condition :=
  .all [
    .any [
      .all [.present (named "mood"), .negation (.compare (named "mood") .lt (.ofInt 3))],
      .compare (named "mood") .eq .null],
    .negation (.any []),
    .expression (.path ⟨"user", []⟩)]

/-- A scope in which the mood is `null`. -/
def moody : Scope := .ofContext (.object [("mood", .null), ("user", .string "Ann")])

end Sample

namespace Render.Environment

open Blueprint

/-- The condition on the mood is expressible, and its expression holds as it does where the mood is
`null`. -/
theorem holds_eq_holds_expression_mood :
    Sample.moodTest.IsExpressible ∧
      ∃ expr, Sample.moodTest.expression? = some expr ∧
        ∀ env : Environment, env.holds Sample.moody Sample.moodTest = true ∧
          expr.holds Sample.moody = true := by
  have hmood : (Sample.named "mood").target = .scope ⟨"mood", []⟩ := rfl
  have hexpressible : Sample.moodTest.IsExpressible := by
    refine .all (List.forall_mem_cons.2 ⟨.any (List.forall_mem_cons.2 ⟨.all ?_, ?_⟩), ?_⟩)
    · simpa using ⟨Condition.IsExpressible.present hmood, .negation (.compare _ _ hmood)⟩
    · simpa using Condition.IsExpressible.compare _ _ hmood
    · simpa using ⟨Condition.IsExpressible.negation (.any nofun), .expression _⟩
  obtain ⟨expr, hexpr, hholds⟩ := holds_eq_holds_expression hexpressible
  refine ⟨hexpressible, expr, hexpr, fun env => ?_⟩
  rw [hholds env]
  cases hexpr
  constructor <;> rfl

end Render.Environment

end ChatPrompt
