import ChatPrompt.Proofs.Cutting
import Mathlib

/-!
# Leaves are well-nested texts

The reader of leaves keeps the blocks that are open on a stack, and puts each piece into the part
of the innermost block that is being read. A symbol of the grammar does one thing to that stack, or
cannot come at that point. What was read is at any time a sequence of the grammar for each part of
each open block, one inside the other; so a text whose blocks are all closed is such a sequence,
and the pieces are its tree. The other way round, a sequence of the grammar adds the nodes of its
tree to the part that is being read, and leaves the stack as it was.
-/

namespace ChatPrompt.Leaf

/-- The draft after a symbol that stands at an offset, if it can come there. -/
def Draft.push (offset : Nat) (draft : Draft) : Symbol → Option Draft
  | .text content => some (draft.add (.text (String.ofList content)))
  | .value expr => some (draft.add (.value expr))
  | .opening condition =>
    some { draft with blocks := ⟨condition, offset, [], none⟩ :: draft.blocks }
  | .middle =>
    match draft.blocks with
    | [] => none
    | block :: outer =>
      if block.whenFalse.isSome then none
      else some { draft with blocks := { block with whenFalse := some [] } :: outer }
  | .ending =>
    match draft.blocks with
    | [] => none
    | block :: outer =>
      some (Draft.add { draft with blocks := outer }
        (.branch block.condition block.whenTrue (block.whenFalse.getD [])))

/-- The draft after symbols one after the other, each with its offset. -/
def Draft.pushAll (draft : Draft) (symbols : List (Nat × Symbol)) : Option Draft :=
  symbols.foldlM (fun draft symbol => draft.push symbol.1 symbol.2) draft

theorem Draft.pushAll_cons (draft : Draft) (symbol : Nat × Symbol)
    (rest : List (Nat × Symbol)) :
    draft.pushAll (symbol :: rest) =
      (draft.push symbol.1 symbol.2).bind fun next => next.pushAll rest := rfl

/-- Symbols are pushed before those behind them. -/
theorem Draft.pushAll_append (draft : Draft) (symbols others : List (Nat × Symbol)) :
    draft.pushAll (symbols ++ others) =
      (draft.pushAll symbols).bind fun next => next.pushAll others :=
  List.foldlM_append

/-- The draft with nodes added one after the other. -/
def Draft.addAll (draft : Draft) (nodes : List Node) : Draft := nodes.foldl Draft.add draft

/-- Where no block is open, nodes join those outside. -/
theorem Draft.addAll_nil (nodes others : List Node) :
    Draft.addAll ⟨nodes, []⟩ others = ⟨nodes ++ others, []⟩ := by
  induction others generalizing nodes with
  | nil => simp [addAll]
  | cons node rest ih =>
    change Draft.addAll ⟨nodes ++ [node], []⟩ rest = _
    rw [ih, List.append_assoc, List.singleton_append]

/-- Where the first part of a block is read, nodes join it. -/
theorem Draft.addAll_first (nodes : List Node) (condition : Expr) (offset : Nat)
    (first : List Node) (outer : List OpenBlock) (others : List Node) :
    Draft.addAll ⟨nodes, ⟨condition, offset, first, none⟩ :: outer⟩ others =
      ⟨nodes, ⟨condition, offset, first ++ others, none⟩ :: outer⟩ := by
  induction others generalizing first with
  | nil => simp [addAll]
  | cons node rest ih =>
    change Draft.addAll ⟨nodes, ⟨condition, offset, first ++ [node], none⟩ :: outer⟩ rest = _
    rw [ih, List.append_assoc, List.singleton_append]

/-- Where the second part of a block is read, nodes join it. -/
theorem Draft.addAll_second (nodes : List Node) (condition : Expr) (offset : Nat)
    (first second : List Node) (outer : List OpenBlock) (others : List Node) :
    Draft.addAll ⟨nodes, ⟨condition, offset, first, some second⟩ :: outer⟩ others =
      ⟨nodes, ⟨condition, offset, first, some (second ++ others)⟩ :: outer⟩ := by
  induction others generalizing second with
  | nil => simp [addAll]
  | cons node rest ih =>
    change Draft.addAll
      ⟨nodes, ⟨condition, offset, first, some (second ++ [node])⟩ :: outer⟩ rest = _
    rw [ih, List.append_assoc, List.singleton_append]

/-- A sequence of the grammar adds its nodes, and leaves open what was open. -/
theorem Derives.pushAll_eq {symbols : List Symbol} {nodes : List Node}
    (h : Derives symbols nodes) {placed : List (Nat × Symbol)}
    (hplaced : placed.map Prod.snd = symbols) (draft : Draft) :
    draft.pushAll placed = some (draft.addAll nodes) := by
  induction h generalizing placed draft with
  | nil =>
    rw [List.map_eq_nil_iff.1 hplaced]
    rfl
  | text content _ ih =>
    obtain ⟨⟨offset, _⟩, rest, rfl, rfl, hrest⟩ := List.map_eq_cons_iff.1 hplaced
    exact ih hrest _
  | value expr _ ih =>
    obtain ⟨⟨offset, _⟩, rest, rfl, rfl, hrest⟩ := List.map_eq_cons_iff.1 hplaced
    exact ih hrest _
  | @block condition body rest whenTrue nodes _ _ ihbody ihrest =>
    obtain ⟨opened, ended, rfl, hopened, hended⟩ := List.map_eq_append_iff.1 hplaced
    obtain ⟨⟨start, _⟩, body, rfl, rfl, hbody⟩ := List.map_eq_cons_iff.1 hopened
    obtain ⟨⟨finish, _⟩, after, rfl, rfl, hafter⟩ := List.map_eq_cons_iff.1 hended
    rw [List.cons_append, Draft.pushAll_cons, Draft.push, Option.bind_some,
      Draft.pushAll_append, ihbody hbody, Draft.addAll_first, Option.bind_some]
    exact ihrest hafter _
  | @alternative condition first second rest whenTrue whenFalse nodes _ _ _ ihfirst ihsecond
      ihrest =>
    obtain ⟨both, ended, rfl, hboth, hended⟩ := List.map_eq_append_iff.1 hplaced
    obtain ⟨opened, middled, rfl, hopened, hmiddled⟩ := List.map_eq_append_iff.1 hboth
    obtain ⟨⟨start, _⟩, first, rfl, rfl, hfirst⟩ := List.map_eq_cons_iff.1 hopened
    obtain ⟨⟨between, _⟩, second, rfl, rfl, hsecond⟩ := List.map_eq_cons_iff.1 hmiddled
    obtain ⟨⟨finish, _⟩, after, rfl, rfl, hafter⟩ := List.map_eq_cons_iff.1 hended
    have hmiddle : Draft.push between
        ⟨draft.nodes, ⟨condition, start, [] ++ whenTrue, none⟩ :: draft.blocks⟩ .middle =
          some ⟨draft.nodes, ⟨condition, start, [] ++ whenTrue, some []⟩ :: draft.blocks⟩ := rfl
    rw [List.append_assoc, List.cons_append, Draft.pushAll_cons, Draft.push, Option.bind_some,
      Draft.pushAll_append, ihfirst hfirst, Draft.addAll_first, Option.bind_some,
      List.cons_append, Draft.pushAll_cons, hmiddle, Option.bind_some, Draft.pushAll_append,
      ihsecond hsecond, Draft.addAll_second, Option.bind_some]
    exact ihrest hafter _

/-- What was read of a block: a sequence of the grammar for its first part and, once the middle
was met, one for its second part. -/
def OpenBlock.Holds (symbols : List Symbol) : OpenBlock → Prop
  | ⟨_, _, whenTrue, none⟩ => Derives symbols whenTrue
  | ⟨_, _, whenTrue, some whenFalse⟩ => ∃ first second,
      symbols = first ++ .middle :: second ∧ Derives first whenTrue ∧ Derives second whenFalse

/-- What was read when some blocks are open, innermost first: a sequence of the grammar outside
any block, and behind it the start of each block and what was read of it. -/
def Wrote (nodes : List Node) : List OpenBlock → List Symbol → Prop
  | [], symbols => Derives symbols nodes
  | block :: outer, symbols => ∃ before inner,
      symbols = before ++ .opening block.condition :: inner ∧ Wrote nodes outer before ∧
        block.Holds inner

/-- Where a sequence with one node follows what was read, the node joins the draft. -/
theorem Wrote.add (draft : Draft) {symbols more : List Symbol} {node : Node}
    (h : Wrote draft.nodes draft.blocks symbols) (hmore : Derives more [node]) :
    Wrote (draft.add node).nodes (draft.add node).blocks (symbols ++ more) := by
  obtain ⟨nodes, blocks⟩ := draft
  cases blocks with
  | nil => exact Derives.append h hmore
  | cons block outer =>
    obtain ⟨condition, offset, whenTrue, whenFalse⟩ := block
    obtain ⟨before, inner, rfl, hbefore, hinner⟩ := h
    cases whenFalse with
    | none => exact ⟨before, inner ++ more, by simp, hbefore, Derives.append hinner hmore⟩
    | some whenFalse =>
      obtain ⟨first, second, rfl, hfirst, hsecond⟩ := hinner
      exact ⟨before, first ++ .middle :: (second ++ more), by simp, hbefore, first,
        second ++ more, rfl, hfirst, hsecond.append hmore⟩

/-- A block that was read, and the symbol at its end, are a sequence with one node. -/
theorem OpenBlock.Holds.derives {block : OpenBlock} {symbols : List Symbol}
    (h : block.Holds symbols) :
    Derives (.opening block.condition :: symbols ++ [.ending])
      [.branch block.condition block.whenTrue (block.whenFalse.getD [])] := by
  obtain ⟨condition, offset, whenTrue, whenFalse⟩ := block
  cases whenFalse with
  | none => exact .block condition h .nil
  | some whenFalse =>
    obtain ⟨first, second, rfl, hfirst, hsecond⟩ := h
    exact .alternative condition hfirst hsecond .nil

/-- A symbol that can come at some point goes on with what was read. -/
theorem Wrote.push {draft next : Draft} {symbols : List Symbol} {offset : Nat} {symbol : Symbol}
    (h : Wrote draft.nodes draft.blocks symbols) (hpush : draft.push offset symbol = some next) :
    Wrote next.nodes next.blocks (symbols ++ [symbol]) := by
  obtain ⟨nodes, blocks⟩ := draft
  cases symbol with
  | text content =>
    cases hpush
    exact h.add _ (.text content .nil)
  | value expr =>
    cases hpush
    exact h.add _ (.value expr .nil)
  | opening condition =>
    cases hpush
    exact ⟨symbols, [], rfl, h, .nil⟩
  | middle =>
    cases blocks with
    | nil => cases hpush
    | cons block outer =>
      obtain ⟨condition, start, whenTrue, whenFalse⟩ := block
      obtain ⟨before, inner, rfl, hbefore, hinner⟩ := h
      cases whenFalse with
      | some whenFalse => cases hpush
      | none =>
        cases hpush
        exact ⟨before, inner ++ [.middle], by simp, hbefore, inner, [], rfl, hinner, .nil⟩
  | ending =>
    cases blocks with
    | nil => cases hpush
    | cons block outer =>
      obtain ⟨before, inner, rfl, hbefore, hinner⟩ := h
      cases hpush
      have hadded := Wrote.add ⟨nodes, outer⟩ hbefore hinner.derives
      rwa [← List.append_assoc] at hadded

/-- Symbols that can come one after the other go on with what was read. -/
theorem Wrote.pushAll {draft last : Draft} {symbols : List Symbol} {placed : List (Nat × Symbol)}
    (h : Wrote draft.nodes draft.blocks symbols) (hpush : draft.pushAll placed = some last) :
    Wrote last.nodes last.blocks (symbols ++ placed.map Prod.snd) := by
  induction placed generalizing draft symbols with
  | nil =>
    cases hpush
    simpa using h
  | cons symbol rest ih =>
    obtain ⟨next, hnext, hrest⟩ := Option.bind_eq_some_iff.1 hpush
    have hlast := ih (h.push hnext) hrest
    rwa [List.append_assoc, List.singleton_append] at hlast

/-- Symbols leave no block open and some nodes exactly where they are a sequence of the grammar
with these nodes. -/
theorem pushAll_eq_some_iff_derives {placed : List (Nat × Symbol)} {nodes : List Node} :
    Draft.pushAll ⟨[], []⟩ placed = some ⟨nodes, []⟩ ↔
      Derives (placed.map Prod.snd) nodes := by
  constructor
  · intro hpush
    have hstart : Wrote (Draft.mk [] []).nodes (Draft.mk [] []).blocks [] := .nil
    exact hstart.pushAll hpush
  · intro h
    rw [h.pushAll_eq rfl, Draft.addAll_nil, List.nil_append]

/-- A sequence of symbols has at most one tree. -/
theorem Derives.unique {symbols : List Symbol} {nodes others : List Node}
    (h : Derives symbols nodes) (hother : Derives symbols others) : nodes = others := by
  have hplaced : (symbols.map fun symbol => (0, symbol)).map Prod.snd = symbols := by
    rw [List.map_map]
    exact List.map_id _
  have hpush := pushAll_eq_some_iff_derives.2 (hplaced.symm ▸ h)
  have hpush' := pushAll_eq_some_iff_derives.2 (hplaced.symm ▸ hother)
  rw [hpush] at hpush'
  cases hpush'
  rfl

/-- What has a tree says what the tree says, and nothing else. -/
theorem Derives.says_iff {symbols : List Symbol} {nodes : List Node} (h : Derives symbols nodes)
    (scope : Scope) {said : String} :
    Says scope symbols said ↔ said = renderNodes scope nodes := by
  constructor
  · intro hsaid
    obtain ⟨others, hothers, rfl⟩ := hsaid.exists_derives
    rw [h.unique hothers]
  · rintro rfl
    exact h.says scope

/-- A result with another fault has the same value. -/
theorem map_mapError_eq_ok_iff {α β ε ε' : Type} {result : Except ε α} {fault : ε → ε'}
    {f : α → β} {b : β} :
    (result.mapError fault).map f = .ok b ↔ ∃ a, result = .ok a ∧ f a = b := by
  cases result with
  | error e => exact iff_of_false (fun h => nomatch h) (by simp)
  | ok a => simp [Except.mapError, Except.map]

/-- A tag is added exactly where its expression can be read and its symbol can come. -/
theorem addTag_eq_ok_iff {source : String} {draft next : Draft} {offset : Nat} {tag : Tag} :
    draft.addTag source offset tag = .ok next ↔
      ∃ symbol, tag.Means symbol ∧ draft.push offset symbol = some next := by
  obtain ⟨nodes, blocks⟩ := draft
  cases tag with
  | opening distance cs =>
    refine map_mapError_eq_ok_iff.trans ⟨?_, ?_⟩
    · rintro ⟨condition, hread, rfl⟩
      exact ⟨.opening condition, .opening hread, rfl⟩
    · rintro ⟨_, ⟨hread⟩, hpush⟩
      exact ⟨_, hread, Option.some.inj hpush⟩
  | value distance cs =>
    refine map_mapError_eq_ok_iff.trans ⟨?_, ?_⟩
    · rintro ⟨expr, hread, rfl⟩
      exact ⟨.value expr, .value hread, rfl⟩
    · rintro ⟨_, hmeans, hpush⟩
      cases hmeans with
      | value hread => exact ⟨_, hread, Option.some.inj hpush⟩
  | middle =>
    have hpush : Draft.addTag source ⟨nodes, blocks⟩ offset .middle = .ok next ↔
        Draft.push offset ⟨nodes, blocks⟩ .middle = some next := by
      rcases blocks with _ | ⟨⟨condition, start, whenTrue, _ | whenFalse⟩, outer⟩ <;>
        simp [Draft.addTag, Draft.push]
    refine hpush.trans ⟨fun h => ⟨.middle, .middle, h⟩, ?_⟩
    rintro ⟨_, ⟨⟩, h⟩
    exact h
  | ending =>
    have hpush : Draft.addTag source ⟨nodes, blocks⟩ offset .ending = .ok next ↔
        Draft.push offset ⟨nodes, blocks⟩ .ending = some next := by
      cases blocks <;> simp [Draft.addTag, Draft.push]
    refine hpush.trans ⟨fun h => ⟨.ending, .ending, h⟩, ?_⟩
    rintro ⟨_, ⟨⟩, h⟩
    exact h

/-- Where a piece stands; it makes no difference for text. -/
def Piece.offset : Piece → Nat
  | .text _ => 0
  | .tag offset _ => offset
  | .unclosed offset => offset

/-- A piece is added exactly where it is read as a symbol that can come. -/
theorem addPiece_eq_ok_iff {source : String} {draft next : Draft} {piece : Piece} :
    draft.addPiece source piece = .ok next ↔
      ∃ symbol, piece.part.Reads symbol ∧ draft.push piece.offset symbol = some next := by
  cases piece with
  | text content =>
    constructor
    · intro h
      exact ⟨.text content, .text content, congrArg some (Except.ok.inj h)⟩
    · rintro ⟨_, ⟨⟩, hpush⟩
      exact congrArg Except.ok (Option.some.inj hpush)
  | unclosed offset =>
    refine iff_of_false (fun h => nomatch h) ?_
    rintro ⟨_, ⟨⟩, -⟩
  | tag offset inside =>
    rw [Draft.addPiece]
    constructor
    · intro h
      split at h
      · next tag htag =>
        obtain ⟨symbol, hmeans, hpush⟩ := addTag_eq_ok_iff.1 h
        exact ⟨symbol, reads_tag_iff.2 ⟨tag, htag, hmeans⟩, hpush⟩
      · cases h
    · rintro ⟨symbol, hreads, hpush⟩
      obtain ⟨tag, htag, hmeans⟩ := reads_tag_iff.1 hreads
      rw [htag]
      exact addTag_eq_ok_iff.2 ⟨symbol, hmeans, hpush⟩

/-- Pieces are added exactly where they are read as symbols that can come one after the other. -/
theorem addPieces_eq_ok_iff {source : String} {draft last : Draft} {pieces : List Piece} :
    draft.addPieces source pieces = .ok last ↔
      ∃ symbols, List.Forall₂ Part.Reads (pieces.map Piece.part) symbols ∧
        draft.pushAll ((pieces.map Piece.offset).zip symbols) = some last := by
  induction pieces generalizing draft with
  | nil =>
    constructor
    · intro h
      exact ⟨[], .nil, congrArg some (Except.ok.inj h)⟩
    · rintro ⟨_, ⟨⟩, hpush⟩
      exact congrArg Except.ok (Option.some.inj hpush)
  | cons piece rest ih =>
    rw [Draft.addPieces]
    constructor
    · intro h
      split at h
      · next next hnext =>
        obtain ⟨symbol, hreads, hpush⟩ := addPiece_eq_ok_iff.1 hnext
        obtain ⟨symbols, hrest, hlast⟩ := ih.1 h
        refine ⟨symbol :: symbols, .cons hreads hrest, ?_⟩
        exact Option.bind_eq_some_iff.2 ⟨next, hpush, hlast⟩
      · cases h
    · rintro ⟨_, hall, hpush⟩
      cases hall with
      | @cons _ symbol _ symbols hreads hrest =>
        obtain ⟨next, hnext, hlast⟩ := Option.bind_eq_some_iff.1 hpush
        rw [addPiece_eq_ok_iff.2 ⟨symbol, hreads, hnext⟩]
        exact ih.2 ⟨symbols, hrest, hlast⟩

/-- A text is read as nodes exactly where its parts are read as a sequence of the grammar with
these nodes. -/
theorem nodesOfText_eq_ok_iff {source : String} {nodes : List Node} :
    nodesOfText source = .ok nodes ↔
      ∃ symbols, List.Forall₂ Part.Reads ((pieces 0 source.toList).map Piece.part) symbols ∧
        Derives symbols nodes := by
  have hsymbols : ∀ {symbols},
      List.Forall₂ Part.Reads ((pieces 0 source.toList).map Piece.part) symbols →
        (((pieces 0 source.toList).map Piece.offset).zip symbols).map Prod.snd = symbols := by
    intro symbols h
    refine List.map_snd_zip ?_
    rw [← h.length_eq, List.length_map, List.length_map]
  rw [nodesOfText]
  constructor
  · intro h
    split at h
    · cases h
    · next draft hdraft =>
      obtain ⟨symbols, hreads, hpush⟩ := addPieces_eq_ok_iff.1 hdraft
      obtain ⟨found, blocks⟩ := draft
      dsimp only at h
      split at h
      · cases h
        exact ⟨symbols, hreads, hsymbols hreads ▸ pushAll_eq_some_iff_derives.1 hpush⟩
      · cases h
  · rintro ⟨symbols, hreads, hderives⟩
    rw [← hsymbols hreads] at hderives
    rw [addPieces_eq_ok_iff.2 ⟨symbols, hreads, pushAll_eq_some_iff_derives.2 hderives⟩]

/-- Parts that are symbols are closed. -/
theorem not_unclosed_mem {parts : List Part} {symbols : List Symbol}
    (h : List.Forall₂ Part.Reads parts symbols) : .unclosed ∉ parts := by
  induction h with
  | nil => exact List.not_mem_nil
  | cons hreads _ ih =>
    rw [List.mem_cons, not_or]
    refine ⟨?_, ih⟩
    rintro rfl
    cases hreads

/-- A text is a leaf exactly where each tag in it is closed, each part of it is a symbol and the
symbols are a sequence of the grammar. The leaf is then the tree of that sequence, and in every
scope it says what the sequence says. A text is cut into parts in one way. -/
theorem ofText_derives (source : String) :
    ∃ parts, (∀ others, Cut source.toList others ↔ others = parts) ∧
      ((∃ leaf, ofText source = .ok leaf) ↔
        .unclosed ∉ parts ∧ ∃ symbols nodes, List.Forall₂ Part.Reads parts symbols ∧
          Derives symbols nodes) ∧
      ∀ symbols nodes, List.Forall₂ Part.Reads parts symbols → Derives symbols nodes →
        ofText source = .ok ⟨source, nodes⟩ ∧
          ∀ scope said, Says scope symbols said ↔ said = render scope ⟨source, nodes⟩ := by
  have htext : ofText source = (nodesOfText source).map fun nodes => ⟨source, nodes⟩ := rfl
  refine ⟨(pieces 0 source.toList).map Piece.part, fun others => cut_iff 0, ⟨?_, ?_⟩, ?_⟩
  · rintro ⟨leaf, hleaf⟩
    rw [htext] at hleaf
    cases hnodes : nodesOfText source with
    | error e =>
      rw [hnodes] at hleaf
      cases hleaf
    | ok nodes =>
      obtain ⟨symbols, hreads, hderives⟩ := nodesOfText_eq_ok_iff.1 hnodes
      exact ⟨not_unclosed_mem hreads, symbols, nodes, hreads, hderives⟩
  · rintro ⟨-, symbols, nodes, hreads, hderives⟩
    rw [htext, nodesOfText_eq_ok_iff.2 ⟨symbols, hreads, hderives⟩]
    exact ⟨_, rfl⟩
  · intro symbols nodes hreads hderives
    rw [htext, nodesOfText_eq_ok_iff.2 ⟨symbols, hreads, hderives⟩]
    exact ⟨rfl, fun scope said => hderives.says_iff scope⟩

/-- A leaf with a block of two parts. -/
def sampleText : String :=
  "a\x7b\x7b #if x \x7d\x7db\x7b\x7b#else\x7d\x7d\x7b\x7by\x7d\x7d\x7b\x7b#endif\x7d\x7d"

/-- The symbols of that leaf. -/
def sampleSymbols : List Symbol :=
  [.text ['a'], .opening (.path ⟨"x", []⟩), .text ['b'], .middle, .value (.path ⟨"y", []⟩), .ending]

/-- The tree of that leaf. -/
def sampleNodes : List Node :=
  [.text "a", .branch (.path ⟨"x", []⟩) [.text "b"] [.value (.path ⟨"y", []⟩)]]

/-- The parts of that leaf are symbols of the grammar, and the leaf is their tree. -/
theorem ofText_derives_sample :
    Derives sampleSymbols sampleNodes ∧ ofText sampleText = .ok ⟨sampleText, sampleNodes⟩ := by
  have hderives : Derives sampleSymbols sampleNodes :=
    .text ['a'] (.alternative (.path ⟨"x", []⟩) (.text ['b'] .nil)
      (.value (.path ⟨"y", []⟩) .nil) .nil)
  obtain ⟨parts, hparts, -, htree⟩ := ofText_derives sampleText
  have hcut : [.text ['a'], .tag [' ', '#', 'i', 'f', ' ', 'x', ' '], .text ['b'],
      .tag ['#', 'e', 'l', 's', 'e'], .tag ['y'], .tag ['#', 'e', 'n', 'd', 'i', 'f']] = parts :=
    (hparts _).1 ((cut_iff 0).2 (by cbv))
  subst hcut
  refine ⟨hderives, (htree _ _ ?_ hderives).1⟩
  exact .cons (.text _) (.cons (.opening (by rfl) (by rfl) (by cbv)) (.cons (.text _)
    (.cons (.middle (by rfl)) (.cons (.value (by cbv)) (.cons (.ending (by rfl)) .nil)))))

end ChatPrompt.Leaf
