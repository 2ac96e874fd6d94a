import ChatPrompt.Leaf.Parser

/-!
# A cache of leaves

Templates repeat the same short texts, so a leaf is read once and kept under its text. Each
leaf that is read gets a serial number, which tells two leaves apart also when they have the
same text; a cache that was emptied reads a text anew. Texts that cannot be read are not
kept. For each leaf it remembers whether its last rendering had content, which before any
rendering is known of leaves that are the same everywhere.
-/

namespace ChatPrompt.Leaf

/-- A leaf that was read, and what is known of its last rendering. -/
structure Kept where
  /-- The leaf. -/
  leaf : Leaf
  /-- Whether its last rendering was not blank. -/
  lastContentful : Bool

/-- A leaf that was never rendered. -/
def Kept.fresh (leaf : Leaf) : Kept :=
  ⟨leaf, leaf.staticText?.any fun text => !Text.isBlankText text⟩

/-- The text of a leaf in a scope, remembering whether it has content. -/
def Kept.render (scope : Scope) (kept : Kept) : String × Kept :=
  let text := kept.leaf.render scope
  (text, { kept with lastContentful := !Text.isBlankText text })

/-- Leaves by their texts. -/
structure Cache where
  /-- The texts that are in the cache, each with its leaf and the serial number of that. -/
  entries : List (String × Nat × Leaf)
  /-- Every leaf that was ever read, in the order of the serial numbers. -/
  issued : List Kept

namespace Cache

/-- A cache with nothing in it. -/
def empty : Cache := ⟨[], []⟩

/-- The number of texts in the cache. -/
def size (cache : Cache) : Nat := cache.entries.length

/-- The leaf of a text with its serial number, read if it is not in the cache. -/
def fetch (cache : Cache) (source : String) : Except Fault (Nat × Leaf) × Cache :=
  match cache.entries.lookup source with
  | some found => (.ok found, cache)
  | none =>
    match Leaf.ofText source with
    | .error fault => (.error fault, cache)
    | .ok leaf =>
      let serial := cache.issued.length
      (.ok (serial, leaf),
        ⟨cache.entries ++ [(source, serial, leaf)], cache.issued ++ [Kept.fresh leaf]⟩)

/-- Empties the cache. Leaves that were read keep their numbers. -/
def clear (cache : Cache) : Cache := { cache with entries := [] }

/-- Whether the last rendering of the leaf with a serial number had content. -/
def lastContentful (cache : Cache) (serial : Nat) : Bool :=
  cache.issued[serial]?.any Kept.lastContentful

/-- The text of the leaf with a serial number; nothing if there is no such leaf. -/
def render (cache : Cache) (serial : Nat) (scope : Scope) : Option String × Cache :=
  match cache.issued[serial]? with
  | none => (none, cache)
  | some kept =>
    let (text, kept) := kept.render scope
    (some text, { cache with issued := cache.issued.set serial kept })

end Cache

end ChatPrompt.Leaf
