import ChatPrompt.Toml.Basic

/-!
# Tables of a settings file

A file is a sequence of statements, each of which adds to a tree of tables. A table may be
opened by a header of its own, come about on the way to the header of another table, or be
built up by keys with points in them; these three may not be mixed freely, so that every
table is written in one place. A table written between braces is closed from the start.
-/

namespace ChatPrompt.Toml

/-- How a table came about. -/
inductive TableKind where
  /-- By a header of its own. -/
  | opened
  /-- On the way to the header of another table. -/
  | implied
  /-- By keys with points in them. -/
  | dotted
  deriving DecidableEq, Repr

/-- A part of the tree. -/
inductive Node where
  /-- A value, to which nothing can be added. -/
  | closed (value : Toml)
  /-- A table. -/
  | table (kind : TableKind) (entries : List (String × Node))
  /-- A sequence of tables, each under a header of its own. -/
  | tables (elements : List (List (String × Node)))
  deriving Inhabited

/-- The entries of a table of the tree. -/
abbrev Entries := List (String × Node)

/-- Changes the part under a key, or adds one. -/
def alter (key : String) (change : Option Node → Option Node) : Entries → Option Entries
  | [] => (change none).map fun node => [(key, node)]
  | (name, node) :: rest =>
    if name = key then (change (some node)).map fun node => (name, node) :: rest
    else (alter key change rest).map ((name, node) :: ·)

/-- The elements with the last one changed. -/
def alterLast (change : Entries → Option Entries) : List Entries → Option (List Entries)
  | [] => none
  | [last] => (change last).map fun last => [last]
  | first :: rest => (alterLast change rest).map (first :: ·)

/-- Changes the table that a path leads to, and makes the tables on the way. Keys with points
in them do not lead into a table with a header of its own. -/
def descend (onTheWay : TableKind) (change : TableKind → Entries → Option Entries) :
    List String → TableKind → Entries → Option Entries
  | [], kind, entries => change kind entries
  | key :: rest, _, entries =>
    alter key (fun found =>
      match found with
      | none => (descend onTheWay change rest onTheWay []).map (.table onTheWay)
      | some (.closed _) => none
      | some (.tables elements) =>
        (alterLast (descend onTheWay change rest .opened) elements).map .tables
      | some (.table kind inner) =>
        if onTheWay = .dotted && kind = .opened then none
        else (descend onTheWay change rest kind inner).map (.table kind)) entries

/-- Adds a part under a key that is not there yet. -/
def addNew (key : String) (node : Node) : Entries → Option Entries :=
  alter key fun found => if found.isNone then some node else none

/-- Adds a value under a key, which may have points in it. A table that is built up by such
keys takes no value otherwise, and only it takes values of such keys. -/
def assign (path : List String) (key : String) (value : Toml) (kind : TableKind)
    (entries : Entries) : Option Entries :=
  descend .dotted (fun kind entries =>
    if (kind = .dotted) = path.isEmpty then none else addNew key (.closed value) entries)
    path kind entries

/-- Opens a table, of which only parts may be known so far. -/
def openTable (path : List String) (key : String) (entries : Entries) : Option Entries :=
  descend .implied (fun _ entries =>
    alter key (fun found =>
      match found with
      | none => some (.table .opened [])
      | some (.table .implied inner) => some (.table .opened inner)
      | _ => none) entries) path .opened entries

/-- Opens one more table of a sequence. -/
def openElement (path : List String) (key : String) (entries : Entries) : Option Entries :=
  descend .implied (fun _ entries =>
    alter key (fun found =>
      match found with
      | none => some (.tables [[]])
      | some (.tables elements) => some (.tables (elements ++ [[]]))
      | _ => none) entries) path .opened entries

/-- A statement of a file. -/
inductive Statement where
  /-- A value under a key of the table that is open. -/
  | entry (path : List String) (key : String) (value : Toml)
  /-- The header of a table. -/
  | header (path : List String) (key : String)
  /-- The header of one more table of a sequence. -/
  | element (path : List String) (key : String)

/-- The tree after some statements, with the path of the table that is open. -/
def grow : List Statement → List String → Entries → Option Entries
  | [], _, entries => some entries
  | .entry path key value :: rest, here, entries => do
    let entries ← descend .implied (assign path key value) here .opened entries
    grow rest here entries
  | .header path key :: rest, _, entries => do
    let entries ← openTable path key entries
    grow rest (path ++ [key]) entries
  | .element path key :: rest, _, entries => do
    let entries ← openElement path key entries
    grow rest (path ++ [key]) entries

mutual

/-- A part of the tree as a value. -/
def Node.value : Node → Toml
  | .closed value => value
  | .table _ entries => .table (Node.values entries)
  | .tables elements => .array (Node.elementValues elements)

/-- Named parts as named values. -/
def Node.values : List (String × Node) → List (String × Toml)
  | [] => []
  | (key, node) :: rest => (key, node.value) :: Node.values rest

/-- Tables of a sequence as values. -/
def Node.elementValues : List (List (String × Node)) → List Toml
  | [] => []
  | entries :: rest => .table (Node.values entries) :: Node.elementValues rest

end

/-- The entries of a file with some statements, unless they contradict each other. -/
def ofStatements? (statements : List Statement) : Option (List (String × Toml)) :=
  (grow statements [] []).map Node.values

/-- The table of some values under keys, which may have points in them. -/
def ofPairs? (pairs : List (List String × String × Toml)) : Option Toml :=
  (pairs.foldlM (fun entries pair => assign pair.1 pair.2.1 pair.2.2 .opened entries) []).map
    fun entries => .table (Node.values entries)

end ChatPrompt.Toml
