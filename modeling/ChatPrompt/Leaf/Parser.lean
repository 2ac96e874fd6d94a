import ChatPrompt.Expr.Parser
import ChatPrompt.Leaf.Basic
import ChatPrompt.Leaf.Fault

/-!
# Reading leaves

The text is cut at each pair of opening braces and the next pair of closing ones. The tags
are then taken in order: an expression is a piece, a condition opens a block, and the words
for the middle and the end of a block move on to its second part and close it. Blocks that
are open form a stack, innermost first.
-/

namespace ChatPrompt.Leaf

/-- A part of the text of a leaf. -/
inductive Piece where
  /-- Text outside any tag. -/
  | text (content : List Char)
  /-- The inside of a tag that starts at an offset. -/
  | tag (offset : Nat) (inside : List Char)
  /-- A tag that starts at an offset and is never closed. -/
  | unclosed (offset : Nat)
  deriving DecidableEq, Repr

/-- The characters before the first place where a character stands twice, and those after
that pair. -/
def splitAtPair (c : Char) : List Char → Option (List Char × List Char)
  | x :: y :: rest =>
    if x = c && y = c then some ([], rest)
    else (splitAtPair c (y :: rest)).map fun (before, after) => (x :: before, after)
  | _ => none

/-- What lies around the pair is shorter than the whole by the pair. -/
theorem length_of_splitAtPair {c : Char} {cs before after : List Char}
    (h : splitAtPair c cs = some (before, after)) :
    before.length + 2 + after.length = cs.length := by
  induction cs generalizing before with
  | nil => simp [splitAtPair] at h
  | cons x rest ih =>
    cases rest with
    | nil => simp [splitAtPair] at h
    | cons y rest =>
      by_cases hp : x = c && y = c
      · simp only [splitAtPair, hp, if_true, Option.some.injEq, Prod.mk.injEq] at h
        obtain ⟨rfl, rfl⟩ := h
        simp only [List.length_cons, List.length_nil]
        omega
      · simp only [splitAtPair, hp, Bool.false_eq_true, if_false, Option.map_eq_some_iff,
          Prod.exists, Prod.mk.injEq] at h
        obtain ⟨inner, tail, hs, rfl, rfl⟩ := h
        have := ih hs
        simp only [List.length_cons] at this ⊢
        omega

/-- Text as a piece, where there is any. -/
def textPiece (content : List Char) : List Piece :=
  if content.isEmpty then [] else [.text content]

/-- The parts of a text that starts at an offset. -/
def pieces (offset : Nat) (cs : List Char) : List Piece :=
  match hopening : splitAtPair '\x7b' cs with
  | none => textPiece cs
  | some (before, inner) =>
    let start := offset + Text.byteSize before
    match hclosing : splitAtPair '\x7d' inner with
    | none => textPiece before ++ [.unclosed start]
    | some (inside, rest) =>
      have : rest.length < cs.length := by
        have hopened := length_of_splitAtPair hopening
        have hclosed := length_of_splitAtPair hclosing
        omega
      textPiece before ++ .tag start inside :: pieces (start + Text.byteSize inside + 4) rest
termination_by cs.length

/-- What a tag does. -/
inductive Tag where
  /-- Opens a block under a condition, written at a distance from the start of the tag. -/
  | opening (distance : Nat) (condition : List Char)
  /-- Starts the second part of a block. -/
  | middle
  /-- Ends a block. -/
  | ending
  /-- Stands for the value of an expression, written at a distance from the start of the
  tag. -/
  | value (distance : Nat) (expr : List Char)
  deriving DecidableEq, Repr

/-- The meaning of a tag with a word behind a number sign, given what follows that sign and
its distance from the start of the tag. -/
def directive (distance : Nat) (cs : List Char) : Except BlockProblem Tag :=
  let name := cs.takeWhile fun c => !Text.isBlank c
  let tail := cs.dropWhile fun c => !Text.isBlank c
  let argument := Text.trim tail
  if name = ['i', 'f'] then
    if argument.isEmpty then .error .missingCondition
    else
      let blanks := tail.takeWhile Text.isBlank
      .ok (.opening (distance + Text.byteSize name + Text.byteSize blanks) argument)
  else if name = ['e', 'l', 's', 'e'] then
    if argument.isEmpty then .ok .middle else .error (.unexpectedArguments "else")
  else if name = ['e', 'n', 'd', 'i', 'f'] then
    if argument.isEmpty then .ok .ending else .error (.unexpectedArguments "endif")
  else .error (.unknownBlock (String.ofList name))

/-- The meaning of the inside of a tag. -/
def Tag.ofInside (inside : List Char) : Except BlockProblem Tag :=
  let distance := 2 + Text.byteSize (inside.takeWhile Text.isBlank)
  match Text.trim inside with
  | [] => .error .emptyTag
  | '#' :: rest => directive (distance + 1) rest
  | body => .ok (.value distance body)

/-- A block that is not closed yet. -/
structure OpenBlock where
  /-- The condition that decides between its parts. -/
  condition : Expr
  /-- Where its tag starts. -/
  offset : Nat
  /-- The pieces of the first part so far. -/
  whenTrue : List Node
  /-- The pieces of the second part so far, once it has started. -/
  whenFalse : Option (List Node)

/-- The pieces read so far. -/
structure Draft where
  /-- The pieces outside any block. -/
  nodes : List Node
  /-- The blocks that are open, innermost first. -/
  blocks : List OpenBlock

/-- Puts a piece behind those of the part that is being read. -/
def Draft.add (draft : Draft) (node : Node) : Draft :=
  match draft.blocks with
  | [] => { draft with nodes := draft.nodes ++ [node] }
  | block :: outer =>
    let block := match block.whenFalse with
      | none => { block with whenTrue := block.whenTrue ++ [node] }
      | some nodes => { block with whenFalse := some (nodes ++ [node]) }
    { draft with blocks := block :: outer }

/-- Adds what a tag at an offset does. -/
def Draft.addTag (source : String) (draft : Draft) (offset : Nat) (tag : Tag) :
    Except Fault Draft :=
  let broken (problem : BlockProblem) : Except Fault Draft :=
    .error ⟨offset, excerpt source offset, .block problem⟩
  let parsed (distance : Nat) (expr : List Char) : Except Fault Expr :=
    (Expr.ofText (String.ofList expr)).mapError fun e =>
      let place := offset + distance + e.offset
      ⟨place, excerpt source place, .expression e.problem⟩
  match tag with
  | .opening distance condition =>
    (parsed distance condition).map fun condition =>
      { draft with blocks := ⟨condition, offset, [], none⟩ :: draft.blocks }
  | .middle =>
    match draft.blocks with
    | [] => broken .strayElse
    | block :: outer =>
      if block.whenFalse.isSome then broken .duplicateElse
      else .ok { draft with blocks := { block with whenFalse := some [] } :: outer }
  | .ending =>
    match draft.blocks with
    | [] => broken .strayEnd
    | block :: outer =>
      let node := .branch block.condition block.whenTrue (block.whenFalse.getD [])
      .ok (Draft.add { draft with blocks := outer } node)
  | .value distance expr => (parsed distance expr).map fun expr => draft.add (.value expr)

/-- Adds one part of the text. -/
def Draft.addPiece (source : String) (draft : Draft) : Piece → Except Fault Draft
  | .text content => .ok (draft.add (.text (String.ofList content)))
  | .unclosed offset => .error ⟨offset, excerpt source offset, .block .unterminatedTag⟩
  | .tag offset inside =>
    match Tag.ofInside inside with
    | .ok tag => draft.addTag source offset tag
    | .error problem => .error ⟨offset, excerpt source offset, .block problem⟩

/-- Adds the parts of the text in order. -/
def Draft.addPieces (source : String) (draft : Draft) : List Piece → Except Fault Draft
  | [] => .ok draft
  | piece :: rest =>
    match draft.addPiece source piece with
    | .ok next => next.addPieces source rest
    | .error fault => .error fault

/-- The pieces of a text whose blocks are all closed. -/
def nodesOfText (source : String) : Except Fault (List Node) :=
  match Draft.addPieces source ⟨[], []⟩ (pieces 0 source.toList) with
  | .error fault => .error fault
  | .ok draft =>
    match draft.blocks with
    | [] => .ok draft.nodes
    | block :: _ =>
      .error ⟨block.offset, excerpt source block.offset, .block .missingEnd⟩

/-- The leaf that a text writes. -/
def ofText (source : String) : Except Fault Leaf :=
  (nodesOfText source).map fun nodes => ⟨source, nodes⟩

end ChatPrompt.Leaf
