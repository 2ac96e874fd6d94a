import ChatPrompt.Json.Reader

/-!
# Files

What commands need to know about files, in any setting in which it can be found out: the text
of a file, whether a path leads anywhere, and the files of a directory.
-/

namespace ChatPrompt

/-- What can be found out about files. -/
structure Files (m : Type → Type) where
  /-- The text of a file; nothing where there is none or it is no text. -/
  text? : String → m (Option String)
  /-- Whether a path leads to a file or a directory. -/
  has : String → m Bool
  /-- The names of the files in a directory, not those in directories below it; nothing where
  there is no such directory. -/
  names? : String → m (Option (List String))

namespace Files

/-- The characters of a file's name behind its last dot. A dot at the start of the name
separates nothing. -/
def extension? (name : String) : Option String :=
  let reversed := name.toList.reverse
  match reversed.dropWhile (· != '.') with
  | _ :: _ :: _ => some (String.ofList (reversed.takeWhile (· != '.')).reverse)
  | _ => none

/-- The names of documents among those of files, in their order. -/
def documentNames (names : List String) : List String :=
  (names.filter fun name => extension? name == some "json").mergeSort fun s t => s ≤ t

end Files

end ChatPrompt
