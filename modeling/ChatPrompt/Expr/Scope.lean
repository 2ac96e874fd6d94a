import ChatPrompt.Path

/-!
# Scopes

The names an expression can use: frames of bindings, the innermost first, over a root
context. A name is looked up in the frames, then among the fields of the context; the head
of a path that is found in neither is looked up once more in the object named `globals`.
-/

namespace ChatPrompt

/-- Bindings over a context. -/
structure Scope where
  /-- The bindings of each frame, the innermost frame first. -/
  frames : List Json.Fields
  /-- The context below all frames, if there is one. -/
  root : Option Json

namespace Scope

/-- A scope without any name. -/
def empty : Scope := ⟨[], none⟩

/-- A scope over a context. -/
def ofContext (context : Json) : Scope := ⟨[], some context⟩

/-- The scope with one more frame inside it. -/
def child (scope : Scope) (bindings : Json.Fields) : Scope :=
  { scope with frames := bindings :: scope.frames }

/-- The object that paths fall back to. -/
def globalsName : String := "globals"

/-- The value of a name: from the innermost frame that binds it, else from the context. -/
def lookup (scope : Scope) (name : String) : Option Json :=
  (scope.frames.findSome? fun frame => frame.lookup name).or
    (scope.root.bind (Json.field? name))

/-- The value that the head of a path starts from. -/
def lookupHead (scope : Scope) (name : String) : Option Json :=
  (scope.lookup name).or ((scope.lookup globalsName).bind (Json.field? name))

/-- The value of a path. -/
def resolve (scope : Scope) (path : Path) : Option Json :=
  (scope.lookupHead path.head).bind (Segment.walk path.segments)

/-- A name that a frame binds is found there, whatever lies below. -/
theorem lookup_child_of_some (scope : Scope) (bindings : Json.Fields) (name : String)
    (value : Json) (h : bindings.lookup name = some value) :
    (scope.child bindings).lookup name = some value := by
  simp [lookup, child, h]

/-- A name that a frame does not bind means what it means below. -/
theorem lookup_child_of_none (scope : Scope) (bindings : Json.Fields) (name : String)
    (h : bindings.lookup name = none) :
    (scope.child bindings).lookup name = scope.lookup name := by
  simp [lookup, child, h]

end Scope

end ChatPrompt
