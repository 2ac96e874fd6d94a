import ChatPrompt.Blueprint.Compiler

/-!
# A cache of blueprints

Blueprints are kept under the identity and version of their templates, so that a template is
compiled when it is asked for first. Each blueprint that is made gets a serial number, which
tells two blueprints apart that were made of the same template at different times. The
leaves of the compiler are never given up.
-/

namespace ChatPrompt.Blueprint

/-- Identity and version of a template. -/
abbrev Key := String × UInt32

/-- Blueprints by the identity and version of their templates. -/
structure Cache where
  /-- What makes the blueprints. -/
  compiler : Compiler
  /-- The blueprints in the cache, each with its serial number. -/
  entries : List (Key × Nat × Blueprint)
  /-- How many blueprints were made. -/
  issued : Nat

namespace Cache

/-- A cache with nothing in it. -/
def empty (compiler : Compiler) : Cache := ⟨compiler, [], 0⟩

/-- The number of blueprints in the cache. -/
def size (cache : Cache) : Nat := cache.entries.length

/-- The blueprint of a template that is in the cache, with its serial number. -/
def get? (cache : Cache) (key : Key) : Option (Nat × Blueprint) := cache.entries.lookup key

/-- The blueprint of a template with its serial number, made if it is not in the cache. -/
def fetch (cache : Cache) (template : Template) :
    Except Issue (Nat × Blueprint) × Cache :=
  match cache.get? (template.id, template.version) with
  | some found => (.ok found, cache)
  | none =>
    match cache.compiler.compile template with
    | (.error issue, compiler) => (.error issue, { cache with compiler := compiler })
    | (.ok blueprint, compiler) =>
      (.ok (cache.issued, blueprint),
        ⟨compiler, cache.entries ++
          [((template.id, template.version), cache.issued, blueprint)], cache.issued + 1⟩)

/-- Whether a blueprint is in the cache, and the cache without it. -/
def evict (cache : Cache) (key : Key) : Bool × Cache :=
  ((cache.get? key).isSome,
    { cache with entries := cache.entries.filter fun entry => entry.1 != key })

/-- The cache without its blueprints. -/
def clear (cache : Cache) : Cache := { cache with entries := [] }

end Cache

end ChatPrompt.Blueprint
