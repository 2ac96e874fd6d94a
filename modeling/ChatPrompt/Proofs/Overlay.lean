import ChatPrompt.Leaf.Cache
import Mathlib

/-!
# Nested scopes are one object

Frames of bindings nested over a context show the same names as one object: the fields of the
context with the bindings of each frame put over them, those of the innermost frame last. One frame
more is one layer more, so this holds of any number of frames. Whatever is asked of a scope is asked
through the names that it shows, the object of the names to fall back to being one of them; so
paths, expressions and leaves cannot tell the frames from the object.
-/

namespace ChatPrompt

namespace Keyed

variable {α : Type}

/-- A table with bindings over it: a binding takes the place of what lies under its key. Of two
bindings of one key the first counts, as it does in a look-up. -/
def overlay (bindings table : List (String × α)) : List (String × α) :=
  bindings.foldr (fun binding table => insert binding.1 binding.2 table) table

/-- Under a key lies what is bound there, and else what lay there before. -/
theorem lookup_overlay (bindings table : List (String × α)) (key : String) :
    (overlay bindings table).lookup key = (bindings.lookup key).or (table.lookup key) := by
  induction bindings with
  | nil => rfl
  | cons binding rest ih =>
    obtain ⟨name, value⟩ := binding
    change (insert name value (overlay rest table)).lookup key = _
    by_cases heq : key = name
    · subst heq
      rw [lookup_insert, List.lookup_cons_self]
      rfl
    · have hne : (key == name) = false := by simpa using heq
      rw [lookup_insert_of_ne name key value _ heq, ih, List.lookup_cons, hne]

end Keyed

/-- The fields of a value, which has none if it is no object or not there. -/
def Json.fieldsOf : Option Json → Json.Fields
  | some (.object fields) => fields
  | _ => []

/-- A field is looked up among the fields. -/
theorem Json.lookup_fieldsOf (value : Option Json) (name : String) :
    (fieldsOf value).lookup name = value.bind (Json.field? name) := by
  cases value with
  | none => rfl
  | some value => cases value <;> rfl

namespace Scope

/-- The scope of frames one inside the other over a context, the outermost frame first. -/
def nested (root : Option Json) (frames : List Json.Fields) : Scope :=
  frames.foldl child ⟨[], root⟩

/-- The object of a context with the bindings of frames put over its fields, those of the innermost
frame last. -/
def flattened (root : Option Json) (frames : List Json.Fields) : Json :=
  .object (frames.foldl (fun fields frame => Keyed.overlay frame fields) (Json.fieldsOf root))

/-- Two scopes show the same names with the same values. -/
def Alike (scope other : Scope) : Prop := ∀ name, scope.lookup name = other.lookup name

section Alike

variable {scope other : Scope}

/-- Paths have the same values in scopes that show the same names. -/
theorem Alike.resolve_eq (h : Alike scope other) (path : Path) :
    scope.resolve path = other.resolve path := by
  rw [resolve, resolve, lookupHead, lookupHead, h path.head, h globalsName]

/-- So have expressions. -/
theorem Alike.eval_eq (h : Alike scope other) (expr : Expr) :
    expr.eval scope = expr.eval other := by
  induction expr with
  | literal value => rfl
  | path target => exact h.resolve_eq target
  | negation operand ih => rw [Expr.eval, Expr.eval, ih]
  | comparison left op right ihl ihr => rw [Expr.eval, Expr.eval, ihl, ihr]
  | conjunction left right ihl ihr => rw [Expr.eval, Expr.eval, ihl, ihr]
  | disjunction left right ihl ihr => rw [Expr.eval, Expr.eval, ihl, ihr]

mutual

/-- Pieces of leaves have the same texts. -/
theorem Alike.render_eq (h : Alike scope other) (node : Leaf.Node) :
    node.render scope = node.render other := by
  cases node with
  | text content => rw [Leaf.Node.render, Leaf.Node.render]
  | value expr => rw [Leaf.Node.render, Leaf.Node.render, h.eval_eq expr]
  | branch condition whenTrue whenFalse =>
    rw [Leaf.Node.render, Leaf.Node.render, Expr.holds, Expr.holds, h.eval_eq condition,
      h.renderNodes_eq whenTrue, h.renderNodes_eq whenFalse]

/-- Pieces one after the other have the same texts. -/
theorem Alike.renderNodes_eq (h : Alike scope other) (nodes : List Leaf.Node) :
    Leaf.renderNodes scope nodes = Leaf.renderNodes other nodes := by
  cases nodes with
  | nil => rfl
  | cons node rest =>
    rw [Leaf.renderNodes, Leaf.renderNodes, h.render_eq node, h.renderNodes_eq rest]

end

end Alike

/-- A scope shows the names of some fields and no others. -/
def Shows (scope : Scope) (fields : Json.Fields) : Prop :=
  ∀ name, scope.lookup name = fields.lookup name

/-- One frame more is one layer more. -/
theorem Shows.child {scope : Scope} {fields : Json.Fields} (h : Shows scope fields)
    (frame : Json.Fields) : Shows (scope.child frame) (Keyed.overlay frame fields) := by
  intro name
  rw [Keyed.lookup_overlay, ← h name]
  cases hname : frame.lookup name with
  | none => exact lookup_child_of_none scope frame name hname
  | some value => exact lookup_child_of_some scope frame name value hname

/-- Any number of frames is as many layers. -/
theorem Shows.foldl_child {scope : Scope} {fields : Json.Fields} (h : Shows scope fields)
    (frames : List Json.Fields) :
    Shows (frames.foldl Scope.child scope)
      (frames.foldl (fun fields frame => Keyed.overlay frame fields) fields) := by
  induction frames generalizing scope fields with
  | nil => exact h
  | cons frame rest ih => exact ih (h.child frame)

/-- Frames over a context show the same names as the one object. -/
theorem alike_flattened (root : Option Json) (frames : List Json.Fields) :
    Alike (nested root frames) (ofContext (flattened root frames)) := by
  have hroot : Shows ⟨[], root⟩ (Json.fieldsOf root) :=
    fun name => (Json.lookup_fieldsOf root name).symm
  exact hroot.foldl_child frames

/-- **Frames are layers of one object.** Whatever the context is, also if it is no object or there
is none, and whatever the frames over it bind, `null` and the name of the object to fall back to
included: names, paths and expressions have the same values and leaves the same texts in the nested
frames and in a scope without frames over the one object. -/
theorem nested_eq_flattened (root : Option Json) (frames : List Json.Fields) :
    let scope := nested root frames
    let other := ofContext (flattened root frames)
    (∀ name, scope.lookup name = other.lookup name) ∧
      (∀ path, scope.resolve path = other.resolve path) ∧
      (∀ expr : Expr, expr.eval scope = expr.eval other ∧ expr.holds scope = expr.holds other) ∧
      ∀ kept : Leaf.Kept, kept.leaf.render scope = kept.leaf.render other ∧
        kept.render scope = kept.render other := by
  intro scope other
  have h : Alike scope other := alike_flattened root frames
  have hrender : ∀ leaf : Leaf, leaf.render scope = leaf.render other :=
    fun leaf => h.renderNodes_eq leaf.nodes
  refine ⟨h, h.resolve_eq, fun expr => ⟨h.eval_eq expr, ?_⟩, fun kept => ⟨hrender kept.leaf, ?_⟩⟩
  · rw [Expr.holds, Expr.holds, h.eval_eq expr]
  · rw [Leaf.Kept.render, Leaf.Kept.render, hrender kept.leaf]

end Scope

end ChatPrompt
