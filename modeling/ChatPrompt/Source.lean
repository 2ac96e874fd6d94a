import ChatPrompt.Json.Basic
import ChatPrompt.Keyed

/-!
# Sources

A template reads the data of a render through named sources. A source answers a value for
the context of the render and the arguments of the reference; `null` means that there is
nothing. A registry holds the sources of a render, one under each name.
-/

namespace ChatPrompt

/-- What answers the references to one name: a value for the context and the arguments. -/
abbrev Source := Json → Json → Json

/-- The sources of a render, in the order of their names. -/
structure Registry where
  /-- Each source under its name. -/
  sources : List (String × Source)

namespace Registry

/-- A registry without sources. -/
def empty : Registry := ⟨[]⟩

/-- Puts a source under a name, in the place of one that was there. -/
def register (name : String) (source : Source) (registry : Registry) : Registry :=
  ⟨Keyed.insert name source registry.sources⟩

/-- The source of a name. -/
def get? (registry : Registry) (name : String) : Option Source := registry.sources.lookup name

/-- Whether there is a source of a name. -/
def contains (registry : Registry) (name : String) : Bool := (registry.get? name).isSome

/-- What the source of a name answers, if there is one. -/
def resolve (registry : Registry) (name : String) (context args : Json) : Option Json :=
  (registry.get? name).map fun source => source context args

/-- The names of the sources, in their order. -/
def names (registry : Registry) : List String := registry.sources.map Prod.fst

/-- The source that answers a field of the context, and `null` where there is no such field. -/
def fieldSource (key : String) : Source := fun context _ => (context.field? key).getD .null

/-- A source for each field of a context. -/
def ofContext (context : Json) : Registry :=
  match context with
  | .object fields =>
    fields.foldl (fun registry field => registry.register field.1 (fieldSource field.1)) empty
  | _ => empty

end Registry

end ChatPrompt
