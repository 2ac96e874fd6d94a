import ChatPrompt.Proofs.Nesting
import ChatPrompt.Proofs.Slicing

/-!
# Faults of leaves point into the text

A fault of the tags lies where a tag starts: the one that is read, or the one that opened the block
that is left open. A fault of an expression lies as far behind the place of the expression in the
text as the parser says. That place is found by adding sizes: of what comes before the tag, of its
braces, of the blanks in front of its inside and, in front of a condition, of the word and the
blanks behind it.
-/

namespace ChatPrompt.Leaf

open Text

/-- Where a piece stands in a text that starts at an offset. -/
def Piece.Stands (offset : Nat) (cs : List Char) : Piece → Prop
  | .text _ => True
  | .tag start inside => ∃ before after,
      cs = before ++ '\x7b' :: '\x7b' :: (inside ++ '\x7d' :: '\x7d' :: after) ∧
        start = offset + byteSize before
  | .unclosed start => ∃ before after,
      cs = before ++ '\x7b' :: '\x7b' :: after ∧ start = offset + byteSize before

/-- The expression in a tag, without blanks around it. -/
inductive Wraps : List Char → List Char → Prop where
  /-- The inside of the tag. -/
  | value (inside : List Char) : Wraps inside (trim inside)
  /-- The condition behind the word that opens a block. -/
  | condition {inside rest : List Char} {blank : Char}
    (hbody : trim inside = '#' :: 'i' :: 'f' :: blank :: rest) (hblank : isBlank blank = true) :
    Wraps inside (trim rest)

/-- A piece behind some text stands behind it. -/
theorem Piece.Stands.append {offset : Nat} {cs : List Char} {piece : Piece} (front : List Char)
    (h : piece.Stands (offset + byteSize front) cs) : piece.Stands offset (front ++ cs) := by
  cases piece with
  | text content => trivial
  | tag start inside =>
    obtain ⟨before, after, rfl, rfl⟩ := h
    exact ⟨front ++ before, after, by simp, by rw [byteSize_append, Nat.add_assoc]⟩
  | unclosed start =>
    obtain ⟨before, after, rfl, rfl⟩ := h
    exact ⟨front ++ before, after, by simp, by rw [byteSize_append, Nat.add_assoc]⟩

/-- Text as a piece stands anywhere. -/
theorem stands_textPiece {content : List Char} {piece : Piece} (h : piece ∈ textPiece content)
    (offset : Nat) (cs : List Char) : piece.Stands offset cs := by
  rw [textPiece] at h
  split at h
  · cases h
  · rw [List.mem_singleton.1 h]
    trivial

/-- Each piece stands where it says. -/
theorem stands_pieces (offset : Nat) (cs : List Char) :
    ∀ piece ∈ pieces offset cs, piece.Stands offset cs := by
  induction offset, cs using pieces.induct with
  | case1 offset cs hnone =>
    rw [pieces_of_none hnone]
    exact fun _ h => stands_textPiece h _ _
  | case2 offset cs before inner hopening hclosing =>
    rw [pieces_of_unclosed hopening hclosing]
    obtain ⟨rfl, -⟩ := splitAtPair_eq_some_iff.1 hopening
    refine List.forall_mem_append.2 ⟨fun _ h => stands_textPiece h _ _, ?_⟩
    exact List.forall_mem_singleton.2 ⟨before, inner, rfl, rfl⟩
  | case3 offset cs before inner hopening start inside rest hclosing _ ih =>
    rw [pieces_of_tag hopening hclosing]
    obtain ⟨rfl, -⟩ := splitAtPair_eq_some_iff.1 hopening
    obtain ⟨rfl, -⟩ := splitAtPair_eq_some_iff.1 hclosing
    refine List.forall_mem_append.2 ⟨fun _ h => stands_textPiece h _ _, ?_⟩
    refine List.forall_mem_cons.2 ⟨⟨before, rest, rfl, rfl⟩, fun piece hpiece => ?_⟩
    have hsize : offset + byteSize (before ++ '\x7b' :: '\x7b' :: (inside ++ ['\x7d', '\x7d'])) =
        start + byteSize inside + 4 := by
      have hopen : '\x7b'.utf8Size = 1 := rfl
      have hclose : '\x7d'.utf8Size = 1 := rfl
      simp only [byteSize_append, byteSize_cons, byteSize_nil, hopen, hclose, start]
      omega
    have hstands := ih piece hpiece
    rw [← hsize] at hstands
    simpa using hstands.append (before ++ '\x7b' :: '\x7b' :: (inside ++ ['\x7d', '\x7d']))

/-- A tag with an expression has it behind the blanks at its start. -/
theorem ofInside_eq_value {inside expr : List Char} {distance : Nat}
    (h : Tag.ofInside inside = .ok (.value distance expr)) :
    expr = trim inside ∧ distance = 2 + byteSize (inside.takeWhile isBlank) := by
  rw [Tag.ofInside] at h
  split at h
  · cases h
  · next word hbody =>
    rcases (directive_eq_ok_iff _ fun _ _ => isBlank_of_trim_eq_cons hbody).1 h with
      ⟨_, _, -, -, -, htag⟩ | ⟨-, htag⟩ | ⟨-, htag⟩ <;> cases htag
  · cases h
    exact ⟨rfl, rfl⟩

/-- A tag with a condition has it behind these blanks, the word and the blanks behind that. -/
theorem ofInside_eq_opening {inside expr : List Char} {distance : Nat}
    (h : Tag.ofInside inside = .ok (.opening distance expr)) :
    ∃ blank rest, trim inside = '#' :: 'i' :: 'f' :: blank :: rest ∧ isBlank blank = true ∧
      expr = trim rest ∧ distance = 2 + byteSize (inside.takeWhile isBlank) + 3 +
        byteSize ((blank :: rest).takeWhile isBlank) := by
  rw [Tag.ofInside] at h
  split at h
  · cases h
  · next word hbody =>
    rcases (directive_eq_ok_iff _ fun _ _ => isBlank_of_trim_eq_cons hbody).1 h with
      ⟨blank, rest, rfl, hblank, -, htag⟩ | ⟨-, htag⟩ | ⟨-, htag⟩
    · obtain ⟨rfl, rfl⟩ := Tag.opening.inj htag
      have hword : byteSize ['i', 'f'] = 2 := rfl
      exact ⟨blank, rest, hbody, hblank, rfl, by omega⟩
    · cases htag
    · cases htag
  · cases h

/-- The expression of a tag stands in its inside, as far behind its braces as the tag says. -/
theorem exists_of_ofInside {inside expr : List Char} {distance : Nat}
    (h : Tag.ofInside inside = .ok (.value distance expr) ∨
      Tag.ofInside inside = .ok (.opening distance expr)) :
    Wraps inside expr ∧
      ∃ before after, inside = before ++ (expr ++ after) ∧ distance = 2 + byteSize before := by
  obtain ⟨trail, hinside, -⟩ := exists_takeWhile_append_trim inside
  rcases h with h | h
  · obtain ⟨rfl, rfl⟩ := ofInside_eq_value h
    exact ⟨.value inside, _, trail, hinside, rfl⟩
  · obtain ⟨blank, rest, hbody, hblank, rfl, rfl⟩ := ofInside_eq_opening h
    obtain ⟨more, hrest, -⟩ := exists_takeWhile_append_trim (blank :: rest)
    rw [trim_cons hblank] at hrest
    refine ⟨.condition hbody hblank, inside.takeWhile isBlank ++ ['#', 'i', 'f'] ++
      (blank :: rest).takeWhile isBlank, more ++ trail, ?_, ?_⟩
    · calc inside
          = inside.takeWhile isBlank ++ ('#' :: 'i' :: 'f' :: (blank :: rest) ++ trail) := by
            rw [hbody] at hinside
            exact hinside
        _ = _ := by
            conv_lhs => rw [hrest]
            simp
    · simp only [byteSize_append]
      have hword : byteSize ['#', 'i', 'f'] = 3 := rfl
      omega

/-! ### Faults -/

/-- A fault of the tags at the start of a tag. -/
def BlockFault (source : String) (offset : Nat) (fault : Fault) : Prop :=
  ∃ problem, fault = ⟨offset, excerpt source offset, .block problem⟩

/-- A fault of the expression in a tag, as far behind the place of the expression as the parser
says. -/
def ExpressionFault (source : String) (start : Nat) (inside : List Char) (fault : Fault) : Prop :=
  ∃ distance expr e, (Tag.ofInside inside = .ok (.value distance expr) ∨
      Tag.ofInside inside = .ok (.opening distance expr)) ∧
    Expr.ofText (String.ofList expr) = .error e ∧
    fault = ⟨start + distance + e.offset, excerpt source (start + distance + e.offset),
      .expression e.problem⟩

/-- A fault of a piece. -/
def Piece.Faulty (source : String) (fault : Fault) : Piece → Prop
  | .text _ => False
  | .tag start inside => BlockFault source start fault ∨ ExpressionFault source start inside fault
  | .unclosed start => BlockFault source start fault

/-- An expression that cannot be read is a fault of its own, with another offset. -/
theorem map_mapError_eq_error_iff {α β ε ε' : Type} {result : Except ε α} {fault : ε → ε'}
    {f : α → β} {e : ε'} :
    (result.mapError fault).map f = .error e ↔ ∃ cause, result = .error cause ∧ fault cause = e := by
  cases result with
  | error cause => simp [Except.mapError, Except.map]
  | ok a => exact iff_of_false (fun h => nomatch h) (by simp)

/-- A tag fails with a fault of the tags where it starts, or of its expression. -/
theorem faulty_of_addTag {source : String} {draft : Draft} {start : Nat} {inside : List Char}
    {tag : Tag} {fault : Fault} (htag : Tag.ofInside inside = .ok tag)
    (h : draft.addTag source start tag = .error fault) :
    BlockFault source start fault ∨ ExpressionFault source start inside fault := by
  cases tag with
  | opening distance condition =>
    obtain ⟨e, he, rfl⟩ := map_mapError_eq_error_iff.1 h
    exact .inr ⟨distance, condition, e, .inr htag, he, rfl⟩
  | value distance expr =>
    obtain ⟨e, he, rfl⟩ := map_mapError_eq_error_iff.1 h
    exact .inr ⟨distance, expr, e, .inl htag, he, rfl⟩
  | middle =>
    rw [Draft.addTag] at h
    split at h
    · cases h
      exact .inl ⟨_, rfl⟩
    · split at h
      · cases h
        exact .inl ⟨_, rfl⟩
      · cases h
  | ending =>
    rw [Draft.addTag] at h
    split at h
    · cases h
      exact .inl ⟨_, rfl⟩
    · cases h

/-- A piece fails with a fault of its own. -/
theorem faulty_of_addPiece {source : String} {draft : Draft} {piece : Piece} {fault : Fault}
    (h : draft.addPiece source piece = .error fault) : piece.Faulty source fault := by
  cases piece with
  | text content => cases h
  | unclosed start =>
    cases h
    exact ⟨_, rfl⟩
  | tag start inside =>
    rw [Draft.addPiece] at h
    split at h
    · next tag htag => exact faulty_of_addTag htag h
    · cases h
      exact .inl ⟨_, rfl⟩

/-- Adding a node opens no block. -/
theorem map_offset_add (draft : Draft) (node : Node) :
    (draft.add node).blocks.map OpenBlock.offset = draft.blocks.map OpenBlock.offset := by
  obtain ⟨nodes, blocks⟩ := draft
  rcases blocks with _ | ⟨⟨condition, offset, whenTrue, _ | whenFalse⟩, outer⟩ <;> rfl

/-- A piece opens at most one block, at its own place. -/
theorem offset_mem_of_addPiece {source : String} {draft next : Draft} {piece : Piece}
    (h : draft.addPiece source piece = .ok next) {offset : Nat}
    (hoffset : offset ∈ next.blocks.map OpenBlock.offset) :
    offset ∈ draft.blocks.map OpenBlock.offset ∨ ∃ inside, piece = .tag offset inside := by
  obtain ⟨symbol, hreads, hpush⟩ := addPiece_eq_ok_iff.1 h
  obtain ⟨nodes, blocks⟩ := draft
  cases symbol with
  | text content =>
    cases hpush
    rw [map_offset_add] at hoffset
    exact .inl hoffset
  | value expr =>
    cases hpush
    rw [map_offset_add] at hoffset
    exact .inl hoffset
  | opening condition =>
    cases hpush
    rcases List.mem_cons.1 hoffset with rfl | hold
    · cases piece with
      | tag start inside => exact .inr ⟨inside, rfl⟩
      | text | unclosed => cases hreads
    · exact .inl hold
  | middle =>
    rcases blocks with _ | ⟨⟨condition, start, whenTrue, _ | whenFalse⟩, outer⟩
    · cases hpush
    · cases hpush
      exact .inl hoffset
    · cases hpush
  | ending =>
    cases blocks with
    | nil => cases hpush
    | cons block outer =>
      cases hpush
      rw [map_offset_add] at hoffset
      exact .inl (List.mem_cons_of_mem _ hoffset)

/-- Where the blocks are opened that are left open. -/
theorem offset_mem_of_addPieces {source : String} {draft last : Draft} {parts : List Piece}
    (h : draft.addPieces source parts = .ok last) {offset : Nat}
    (hoffset : offset ∈ last.blocks.map OpenBlock.offset) :
    offset ∈ draft.blocks.map OpenBlock.offset ∨ ∃ inside, .tag offset inside ∈ parts := by
  induction parts generalizing draft with
  | nil =>
    cases h
    exact .inl hoffset
  | cons piece rest ih =>
    rw [Draft.addPieces] at h
    split at h
    · next next hnext =>
      rcases ih h with hold | ⟨inside, hinside⟩
      · rcases offset_mem_of_addPiece hnext hold with hold | ⟨inside, rfl⟩
        · exact .inl hold
        · exact .inr ⟨inside, List.mem_cons_self⟩
      · exact .inr ⟨inside, List.mem_cons_of_mem _ hinside⟩
    · cases h

/-- Pieces fail with a fault of one of them. -/
theorem faulty_of_addPieces {source : String} {draft : Draft} {parts : List Piece} {fault : Fault}
    (h : draft.addPieces source parts = .error fault) :
    ∃ piece ∈ parts, piece.Faulty source fault := by
  induction parts generalizing draft with
  | nil => cases h
  | cons piece rest ih =>
    rw [Draft.addPieces] at h
    split at h
    · next next hnext =>
      obtain ⟨other, hother, hfaulty⟩ := ih h
      exact ⟨other, List.mem_cons_of_mem _ hother, hfaulty⟩
    · next found hfound =>
      cases h
      exact ⟨piece, List.mem_cons_self, faulty_of_addPiece hfound⟩

/-- A text that is no leaf has a fault of one of its pieces. -/
theorem exists_faulty {source : String} {fault : Fault} (h : ofText source = .error fault) :
    ∃ piece ∈ pieces 0 source.toList, piece.Faulty source fault := by
  have hnodes : nodesOfText source = .error fault := by
    cases hread : nodesOfText source with
    | error other =>
      rw [ofText, hread] at h
      cases h
      rfl
    | ok nodes =>
      rw [ofText, hread] at h
      cases h
  rw [nodesOfText] at hnodes
  split at hnodes
  · next hpieces =>
    cases hnodes
    exact faulty_of_addPieces hpieces
  · next draft hdraft =>
    split at hnodes
    · cases hnodes
    · next block outer hblocks =>
      cases hnodes
      have hmem : block.offset ∈ draft.blocks.map OpenBlock.offset := by simp [hblocks]
      rcases offset_mem_of_addPieces hdraft hmem with hold | ⟨inside, hinside⟩
      · cases hold
      · exact ⟨_, hinside, .inl ⟨_, rfl⟩⟩

/-- A fault lies between two characters of the text that it is found in. A fault of the tags lies
in front of two opening braces. A fault of an expression lies as far behind the start of an
expression of a tag, without blanks around it, as where it is read on its own. -/
structure PointsInto (source : String) (fault : Fault) : Prop where
  /-- It lies between two characters, or at one end. -/
  boundary : IsBoundary fault.offset source.toList
  /-- It does not lie behind the end. -/
  within : fault.offset ≤ source.utf8ByteSize
  /-- A fault of the tags lies where a tag starts. -/
  block : ∀ problem, fault.problem = .block problem → ∃ before after,
    source.toList = before ++ '\x7b' :: '\x7b' :: after ∧ byteSize before = fault.offset
  /-- A fault of an expression lies in it where it is read on its own, and the expression lies
  between the braces of its tag. -/
  expression : ∀ problem, fault.problem = .expression problem →
    ∃ before expr after start inside offset, source.toList = before ++ (expr ++ after) ∧
      .tag start inside ∈ pieces 0 source.toList ∧ Wraps inside expr ∧
      start + 2 ≤ byteSize before ∧
      byteSize before + byteSize expr ≤ start + 2 + byteSize inside ∧
      Expr.ofText (String.ofList expr) = .error ⟨offset, problem⟩ ∧
      fault.offset = byteSize before + offset

/-- A fault of the tags in front of two braces points into the text. -/
theorem BlockFault.pointsInto {source : String} {offset : Nat} {fault : Fault}
    (h : BlockFault source offset fault) {before after : List Char}
    (hsource : source.toList = before ++ '\x7b' :: '\x7b' :: after)
    (hoffset : offset = 0 + byteSize before) : PointsInto source fault := by
  obtain ⟨problem, rfl⟩ := h
  rw [Nat.zero_add] at hoffset
  have hboundary : IsBoundary offset source.toList := ⟨before, _, hsource, hoffset.symm⟩
  exact ⟨hboundary, byteSize_toList source ▸ hboundary.le,
    fun _ _ => ⟨before, after, hsource, hoffset.symm⟩, fun _ h => nomatch h⟩

/-- A fault of an expression points into the text of its tag. -/
theorem ExpressionFault.pointsInto {source : String} {start : Nat} {inside : List Char}
    {fault : Fault} (h : ExpressionFault source start inside fault)
    (hmem : .tag start inside ∈ pieces 0 source.toList) : PointsInto source fault := by
  obtain ⟨distance, expr, e, htag, he, rfl⟩ := h
  obtain ⟨hwraps, front, back, rfl, rfl⟩ := exists_of_ofInside htag
  obtain ⟨before, after, hsource, rfl⟩ := stands_pieces 0 source.toList _ hmem
  have hwhole : source.toList = (before ++ '\x7b' :: '\x7b' :: front) ++
      (expr ++ (back ++ '\x7d' :: '\x7d' :: after)) := by simp [hsource]
  have hplace : 0 + byteSize before + (2 + byteSize front) =
      byteSize (before ++ '\x7b' :: '\x7b' :: front) := by
    have hopen : '\x7b'.utf8Size = 1 := rfl
    simp only [byteSize_append, byteSize_cons, hopen]
    omega
  have hboundary := (Expr.isBoundary_of_error he).append (before ++ '\x7b' :: '\x7b' :: front)
    (back ++ '\x7d' :: '\x7d' :: after)
  rw [String.toList_ofList, ← hwhole, ← hplace] at hboundary
  refine ⟨hboundary, byteSize_toList source ▸ hboundary.le, fun _ h => (nomatch h), ?_⟩
  rintro problem hproblem
  cases hproblem
  have hinside : byteSize (front ++ (expr ++ back)) =
      byteSize front + (byteSize expr + byteSize back) := by
    rw [byteSize_append, byteSize_append]
  refine ⟨_, expr, _, _, _, e.offset, hwhole, hmem, hwraps, ?_, ?_, he, by rw [← hplace]⟩ <;>
    omega

/-- What is shown of a text for a fault of one of its pieces. -/
theorem Piece.Faulty.excerpt_eq {source : String} {fault : Fault} {piece : Piece}
    (h : piece.Faulty source fault) : fault.excerpt = excerpt source fault.offset := by
  cases piece with
  | text content => cases h
  | unclosed start =>
    obtain ⟨_, rfl⟩ := h
    rfl
  | tag start inside =>
    rcases h with ⟨_, rfl⟩ | ⟨_, _, _, -, -, rfl⟩ <;> rfl

/-- A fault of one of the pieces of a text points into the text. -/
theorem Piece.Faulty.pointsInto {source : String} {fault : Fault} {piece : Piece}
    (h : piece.Faulty source fault) (hmem : piece ∈ pieces 0 source.toList) :
    PointsInto source fault := by
  have hstands := stands_pieces 0 source.toList piece hmem
  cases piece with
  | text content => cases h
  | unclosed start =>
    obtain ⟨before, after, hsource, hoffset⟩ := hstands
    exact BlockFault.pointsInto h hsource hoffset
  | tag start inside =>
    obtain ⟨before, after, hsource, hoffset⟩ := hstands
    rcases h with hblock | hexpression
    · exact hblock.pointsInto hsource hoffset
    · exact hexpression.pointsInto hmem

/-- Where a text is no leaf, its fault points into it. All slices that are taken of the text exist:
those of its pieces, those of its tags, and the one that is shown with the fault. -/
theorem pointsInto_of_error {source : String} {fault : Fault} (h : ofText source = .error fault) :
    PointsInto source fault ∧ Sliced source.toList 0 (pieces 0 source.toList) ∧
      (∀ start inside, .tag start inside ∈ pieces 0 source.toList →
        Tag.sliced? inside = some (Tag.ofInside inside)) ∧
      slicedExcerpt? source fault.offset = some fault.excerpt := by
  obtain ⟨piece, hpiece, hfaulty⟩ := exists_faulty h
  refine ⟨hfaulty.pointsInto hpiece, sliced_pieces _, fun _ inside _ => Tag.sliced?_eq inside, ?_⟩
  rw [slicedExcerpt?_eq, hfaulty.excerpt_eq]

/-- A condition that is not finished, behind blanks of several bytes. -/
def brokenCondition : String :=
  "ä\x7b\x7b\u2003#if\u00a0\u3000n ==\u2003\x7d\x7d"

/-- It fails at the end of the condition. -/
theorem pointsInto_brokenCondition :
    ofText brokenCondition =
        .error ⟨19, brokenCondition, .expression (.expectedValue none)⟩ ∧
      PointsInto brokenCondition ⟨19, brokenCondition, .expression (.expectedValue none)⟩ := by
  have hread : ofText brokenCondition =
      .error ⟨19, brokenCondition, .expression (.expectedValue none)⟩ := by cbv
  exact ⟨hread, (pointsInto_of_error hread).1⟩

end ChatPrompt.Leaf
