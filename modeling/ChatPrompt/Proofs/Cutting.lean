import ChatPrompt.Leaf.Parser
import ChatPrompt.Proofs.LeafGrammar
import Mathlib.Data.List.DropRight

/-!
# Cutting leaves into parts

The reader of leaves cuts a text exactly as the grammar does: it finds the first pair of braces,
and what it leaves is cut in the same way. So every text has one list of parts. A tag is then read
as the symbol that its inside is in the grammar, or not at all.
-/

namespace ChatPrompt

namespace Text

/-- A blank at the start is trimmed. -/
theorem trim_cons {blank : Char} (h : isBlank blank = true) (cs : List Char) :
    trim (blank :: cs) = trim cs := by
  rw [trim, trim, trimStart, trimStart, List.dropWhile_cons_of_pos h]

/-- What is trimmed does not end with a blank. -/
theorem isBlank_of_trim_eq {cs before : List Char} {last : Char}
    (h : trim cs = before ++ [last]) : isBlank last = false := by
  have hne : (trimStart cs).rdropWhile isBlank ≠ [] := by
    change trim cs ≠ []
    simp [h]
  have hlast := List.rdropWhile_last_not isBlank (trimStart cs) hne
  have heq : (trimStart cs).rdropWhile isBlank = before ++ [last] := h
  simpa [heq] using hlast

/-- Neither does the rest of it behind its first character. -/
theorem isBlank_of_trim_eq_cons {cs rest before : List Char} {first last : Char}
    (h : trim cs = first :: rest) (hrest : rest = before ++ [last]) : isBlank last = false := by
  subst hrest
  have hcons : trim cs = (first :: before) ++ [last] := h
  exact isBlank_of_trim_eq hcons

/-- Only blanks are trimmed away altogether. -/
theorem isBlank_of_trim_eq_nil {cs : List Char} (h : trim cs = []) :
    ∀ c ∈ cs, isBlank c = true := by
  have hstart : ∀ c ∈ trimStart cs, isBlank c = true := List.rdropWhile_eq_nil_iff.1 h
  refine List.dropWhile_eq_nil_iff.1 ?_
  by_contra hne
  -- what is left at the start would begin with a character that is not blank
  have hfirst := List.head_dropWhile_not isBlank hne
  rw [hstart _ (List.head_mem hne)] at hfirst
  cases hfirst

/-- Only blanks are trimmed away at the end. -/
theorem exists_trimEnd_append (cs : List Char) :
    ∃ trail, cs = trimEnd cs ++ trail ∧ ∀ c ∈ trail, isBlank c = true := by
  refine ⟨(cs.reverse.takeWhile isBlank).reverse, ?_, ?_⟩
  · rw [trimEnd, ← List.reverse_append, List.takeWhile_append_dropWhile, List.reverse_reverse]
  · exact fun c hc => List.mem_takeWhile_imp (List.mem_reverse.1 hc)

/-- Only blanks are trimmed away, those at the start and some at the end. -/
theorem exists_takeWhile_append_trim (cs : List Char) : ∃ trail,
    cs = cs.takeWhile isBlank ++ (trim cs ++ trail) ∧ ∀ c ∈ trail, isBlank c = true := by
  obtain ⟨trail, hstart, htrail⟩ := exists_trimEnd_append (trimStart cs)
  refine ⟨trail, ?_, htrail⟩
  rw [trim, ← hstart, trimStart, List.takeWhile_append_dropWhile]

end Text

/-- The empty text is no expression. -/
theorem Expr.ofText_nil (expr : Expr) : Expr.ofText (String.ofList []) ≠ .ok expr := by
  have htokens : Token.ofText (String.ofList []) = .ok [] := by
    rw [Token.ofText, String.toList_ofList, Lexer.tokensFrom]
  rw [Expr.ofText, htokens]
  intro h
  cases h

/-- A text that starts with a number sign is no expression. -/
theorem Expr.ofText_numberSign (cs : List Char) (expr : Expr) :
    Expr.ofText (String.ofList ('#' :: cs)) ≠ .ok expr := by
  have hlexeme : ∀ offset, Lexer.lexeme offset '#' cs =
      .error ⟨offset, .unexpectedCharacter '#'⟩ := fun _ => rfl
  have htokens : Token.ofText (String.ofList ('#' :: cs)) =
      .error ⟨0, .unexpectedCharacter '#'⟩ := by
    rw [Token.ofText, String.toList_ofList, Lexer.tokensFrom, hlexeme]
  rw [Expr.ofText, htokens]
  intro h
  cases h

namespace Leaf

/-- A pair stands at the start or after it. -/
theorem hasPair_cons_iff {c x : Char} {cs : List Char} :
    HasPair c (x :: cs) ↔ (x = c ∧ cs.head? = some c) ∨ HasPair c cs := by
  rw [HasPair, List.infix_cons_iff, List.cons_prefix_cons]
  refine or_congr_left (and_congr eq_comm ?_)
  cases cs with
  | nil => simp
  | cons y rest => simp [List.cons_prefix_cons, eq_comm]

/-- Nothing is no pair. -/
theorem not_hasPair_nil (c : Char) : ¬ HasPair c [] := by simp [HasPair]

/-- A text is split at its start, or after its first character. -/
theorem splitAtPair_cons (c x : Char) (cs : List Char) :
    splitAtPair c (x :: cs) =
      if x = c ∧ cs.head? = some c then some ([], cs.tail)
      else (splitAtPair c cs).map fun (before, after) => (x :: before, after) := by
  cases cs with
  | nil => simp [splitAtPair]
  | cons y rest => simp [splitAtPair]

/-- A text is not split where there is no pair. -/
theorem splitAtPair_eq_none_iff {c : Char} {cs : List Char} :
    splitAtPair c cs = none ↔ ¬ HasPair c cs := by
  induction cs with
  | nil => simp [splitAtPair, not_hasPair_nil]
  | cons x rest ih =>
    rw [splitAtPair_cons, hasPair_cons_iff, not_or, ← ih]
    split
    · next hpair => simp [hpair]
    · next hpair => simp [hpair]

/-- A text is split at the first pair: together with the first of its characters, what comes
before holds none. -/
theorem splitAtPair_eq_some_iff {c : Char} {cs before after : List Char} :
    splitAtPair c cs = some (before, after) ↔
      cs = before ++ c :: c :: after ∧ ¬ HasPair c (before ++ [c]) := by
  induction cs generalizing before with
  | nil => simp [splitAtPair]
  | cons x rest ih =>
    rw [splitAtPair_cons]
    cases before with
    | nil =>
      have hno : ¬ HasPair c ([] ++ [c]) := by simp [hasPair_cons_iff, not_hasPair_nil]
      rw [List.nil_append, List.cons.injEq]
      split
      · next hpair =>
        obtain ⟨rfl, hhead⟩ := hpair
        obtain ⟨others, rfl⟩ := List.head?_eq_some_iff.1 hhead
        simpa [eq_comm] using fun _ => hno
      · next hpair =>
        refine iff_of_false (by simp) ?_
        rintro ⟨⟨rfl, rfl⟩, -⟩
        exact hpair ⟨rfl, rfl⟩
    | cons first inner =>
      -- the characters before the pair start as the text does
      have hhead : ∀ {others}, rest = inner ++ c :: others →
          (inner ++ [c]).head? = rest.head? := by
        rintro others rfl
        cases inner <;> rfl
      rw [List.cons_append, List.cons.injEq, List.cons_append, hasPair_cons_iff, not_or]
      split
      · next hpair =>
        refine iff_of_false (by simp) ?_
        rintro ⟨⟨rfl, hrest⟩, hno, -⟩
        exact hno ⟨hpair.1, (hhead hrest).trans hpair.2⟩
      · next hpair =>
        simp only [Option.map_eq_some_iff, Prod.exists, Prod.mk.injEq, List.cons.injEq]
        constructor
        · rintro ⟨inner', after', hsplit, ⟨rfl, rfl⟩, rfl⟩
          obtain ⟨hrest, hno⟩ := ih.1 hsplit
          exact ⟨⟨rfl, hrest⟩, fun hboth => hpair ⟨hboth.1, (hhead hrest) ▸ hboth.2⟩, hno⟩
        · rintro ⟨⟨rfl, hrest⟩, -, hno⟩
          exact ⟨inner, after, ih.2 ⟨hrest, hno⟩, ⟨rfl, rfl⟩, rfl⟩

/-- A piece as a part, wherever it stands. -/
def Piece.part : Piece → Part
  | .text content => .text content
  | .tag _ inside => .tag inside
  | .unclosed _ => .unclosed

/-- Text is the same as a piece and as a part. -/
theorem map_part_textPiece (content : List Char) :
    (textPiece content).map Piece.part = Part.ofText content := by
  rw [textPiece, Part.ofText]
  simp only [List.isEmpty_iff]
  split <;> rfl

/-- A text without a pair of opening braces is one piece. -/
theorem pieces_of_none {cs : List Char} (h : splitAtPair '\x7b' cs = none) (offset : Nat) :
    pieces offset cs = textPiece cs := by
  rw [pieces]
  split
  · rfl
  · next hsome =>
    rw [h] at hsome
    cases hsome

/-- A tag without a pair of closing braces is the last piece. -/
theorem pieces_of_unclosed {cs before inner : List Char}
    (hopening : splitAtPair '\x7b' cs = some (before, inner))
    (hclosing : splitAtPair '\x7d' inner = none) (offset : Nat) :
    pieces offset cs = textPiece before ++ [.unclosed (offset + Text.byteSize before)] := by
  rw [pieces]
  split
  · next hnone =>
    rw [hopening] at hnone
    cases hnone
  · next hsome =>
    rw [hopening] at hsome
    cases hsome
    dsimp only
    split
    · rfl
    · next hinside =>
      rw [hclosing] at hinside
      cases hinside

/-- A tag comes before the pieces of what follows it. -/
theorem pieces_of_tag {cs before inner inside rest : List Char}
    (hopening : splitAtPair '\x7b' cs = some (before, inner))
    (hclosing : splitAtPair '\x7d' inner = some (inside, rest)) (offset : Nat) :
    pieces offset cs = textPiece before ++ .tag (offset + Text.byteSize before) inside ::
      pieces (offset + Text.byteSize before + Text.byteSize inside + 4) rest := by
  rw [pieces]
  split
  · next hnone =>
    rw [hopening] at hnone
    cases hnone
  · next hsome =>
    rw [hopening] at hsome
    cases hsome
    dsimp only
    split
    · next hinside =>
      rw [hclosing] at hinside
      cases hinside
    · next hinside =>
      rw [hclosing] at hinside
      cases hinside
      rfl

/-- The pieces of a text are its parts. -/
theorem cut_pieces (offset : Nat) (cs : List Char) :
    Cut cs ((pieces offset cs).map Piece.part) := by
  induction offset, cs using pieces.induct with
  | case1 offset cs hnone =>
    rw [pieces_of_none hnone, map_part_textPiece]
    exact .plain (splitAtPair_eq_none_iff.1 hnone)
  | case2 offset cs before inner hopening hclosing =>
    obtain ⟨rfl, hno⟩ := splitAtPair_eq_some_iff.1 hopening
    rw [pieces_of_unclosed hopening hclosing, List.map_append, map_part_textPiece]
    exact .unclosed hno (splitAtPair_eq_none_iff.1 hclosing)
  | case3 offset cs before inner hopening start inside rest hclosing _ ih =>
    rw [pieces_of_tag hopening hclosing, List.map_append, map_part_textPiece, List.map_cons]
    obtain ⟨rfl, hopened⟩ := splitAtPair_eq_some_iff.1 hopening
    obtain ⟨rfl, hclosed⟩ := splitAtPair_eq_some_iff.1 hclosing
    exact .tag hopened hclosed ih

/-- A text has one list of parts, and these are its pieces. -/
theorem cut_iff {cs : List Char} {parts : List Part} (offset : Nat) :
    Cut cs parts ↔ parts = (pieces offset cs).map Piece.part := by
  refine ⟨fun h => ?_, fun h => h ▸ cut_pieces offset cs⟩
  induction h generalizing offset with
  | plain hno =>
    rw [pieces_of_none (splitAtPair_eq_none_iff.2 hno), map_part_textPiece]
  | unclosed hopening hclosing =>
    rw [pieces_of_unclosed (splitAtPair_eq_some_iff.2 ⟨rfl, hopening⟩)
      (splitAtPair_eq_none_iff.2 hclosing), List.map_append, map_part_textPiece]
    rfl
  | @tag before inside rest parts hopening hclosing _ ih =>
    rw [pieces_of_tag (splitAtPair_eq_some_iff.2 ⟨rfl, hopening⟩)
      (splitAtPair_eq_some_iff.2 ⟨rfl, hclosing⟩), List.map_append, map_part_textPiece,
      List.map_cons, ih]
    rfl

/-- Of three braces in a row the first two are a pair, at either end of a tag. -/
example : (pieces 0 "\x7b\x7b\x7ba\x7d\x7d\x7d".toList).map Piece.part =
    [.tag ['\x7b', 'a'], .text ['\x7d']] := by cbv

/-- The symbol that a tag is, if the expression in it can be read. -/
inductive Tag.Means : Tag → Symbol → Prop where
  /-- A condition. -/
  | opening {distance : Nat} {cs : List Char} {condition : Expr}
    (h : Expr.ofText (String.ofList cs) = .ok condition) :
    Means (.opening distance cs) (.opening condition)
  /-- The middle of a block. -/
  | middle : Means .middle .middle
  /-- The end of a block. -/
  | ending : Means .ending .ending
  /-- An expression. -/
  | value {distance : Nat} {cs : List Char} {expr : Expr}
    (h : Expr.ofText (String.ofList cs) = .ok expr) :
    Means (.value distance cs) (.value expr)

/-- A word without blanks ends where the first blank stands. -/
theorem word_eq (word : List Char) {tail : List Char}
    (hword : ∀ c ∈ word, Text.isBlank c = false)
    (htail : ∀ c ∈ tail.head?, Text.isBlank c = true) :
    (word ++ tail).takeWhile (fun c => !Text.isBlank c) = word ∧
      (word ++ tail).dropWhile (fun c => !Text.isBlank c) = tail := by
  have hnot : ∀ c ∈ word, (!Text.isBlank c) = true := fun c hc => by simp [hword c hc]
  rw [List.takeWhile_append_of_pos hnot, List.dropWhile_append_of_pos hnot]
  cases tail with
  | nil => simp
  | cons blank rest => simp [htail blank rfl]

/-- Text that is blank altogether stands nowhere at the end of a text that ends otherwise. -/
theorem eq_nil_of_trim {word tail : List Char}
    (hends : ∀ before last, word ++ tail = before ++ [last] → Text.isBlank last = false)
    (hblank : Text.trim tail = []) : tail = [] := by
  rcases List.eq_nil_or_concat tail with hnil | ⟨before, last, rfl⟩
  · exact hnil
  · have hlast := Text.isBlank_of_trim_eq_nil hblank last (by simp)
    rw [hends (word ++ before) last (by simp)] at hlast
    cases hlast

/-- The word behind a number sign is one of three, and only the first has something behind it,
if no blank stands at the end. -/
theorem directive_eq_ok_iff {cs : List Char} (distance : Nat) {tag : Tag}
    (hends : ∀ before last, cs = before ++ [last] → Text.isBlank last = false) :
    directive distance cs = .ok tag ↔
      (∃ blank rest, cs = 'i' :: 'f' :: blank :: rest ∧ Text.isBlank blank = true ∧
        Text.trim rest ≠ [] ∧ tag = .opening (distance + Text.byteSize ['i', 'f'] +
          Text.byteSize ((blank :: rest).takeWhile Text.isBlank)) (Text.trim rest)) ∨
      (cs = ['e', 'l', 's', 'e'] ∧ tag = .middle) ∨
      (cs = ['e', 'n', 'd', 'i', 'f'] ∧ tag = .ending) := by
  constructor
  · intro h
    rw [directive] at h
    have hsplit := List.takeWhile_append_dropWhile (p := fun c => !Text.isBlank c) (l := cs)
    generalize cs.takeWhile (fun c => !Text.isBlank c) = word at h hsplit
    generalize htail : cs.dropWhile (fun c => !Text.isBlank c) = tail at h hsplit
    subst hsplit
    dsimp only at h
    split at h
    · next hif =>
      subst hif
      split at h
      · cases h
      · next hargument =>
        cases tail with
        | nil => exact absurd rfl hargument
        | cons blank rest =>
          have hblank : Text.isBlank blank = true := by
            have hfirst := List.head?_dropWhile_not (fun c => !Text.isBlank c)
              (['i', 'f'] ++ blank :: rest)
            rw [htail] at hfirst
            simpa using hfirst
          rw [Text.trim_cons hblank] at h hargument
          exact .inl ⟨blank, rest, rfl, hblank, by simpa using hargument,
            (Except.ok.inj h).symm⟩
    · split at h
      · next helse =>
        subst helse
        split at h
        · next hargument =>
          rw [eq_nil_of_trim hends (List.isEmpty_iff.1 hargument)]
          exact .inr (.inl ⟨rfl, (Except.ok.inj h).symm⟩)
        · cases h
      · split at h
        · next hendif =>
          subst hendif
          split at h
          · next hargument =>
            rw [eq_nil_of_trim hends (List.isEmpty_iff.1 hargument)]
            exact .inr (.inr ⟨rfl, (Except.ok.inj h).symm⟩)
          · cases h
        · cases h
  · rintro (⟨blank, rest, rfl, hblank, hrest, rfl⟩ | ⟨rfl, rfl⟩ | ⟨rfl, rfl⟩)
    · have hword : ∀ c ∈ ['i', 'f'], Text.isBlank c = false :=
        List.forall_mem_cons.2 ⟨rfl, List.forall_mem_singleton.2 rfl⟩
      obtain ⟨hname, htail⟩ : ('i' :: 'f' :: blank :: rest).takeWhile
            (fun c => !Text.isBlank c) = ['i', 'f'] ∧
          ('i' :: 'f' :: blank :: rest).dropWhile (fun c => !Text.isBlank c) = blank :: rest :=
        word_eq ['i', 'f'] hword (by simpa using hblank)
      have hargument : (Text.trim rest).isEmpty = false := by simpa using hrest
      rw [directive, hname, htail, Text.trim_cons hblank]
      simp [hargument]
    · rfl
    · rfl

/-- A tag is the symbol that its inside is in the grammar. -/
theorem reads_tag_iff {inside : List Char} {symbol : Symbol} :
    Part.Reads (.tag inside) symbol ↔
      ∃ tag, Tag.ofInside inside = .ok tag ∧ tag.Means symbol := by
  have hends : ∀ {cs}, Text.trim inside = '#' :: cs →
      ∀ before last, cs = before ++ [last] → Text.isBlank last = false :=
    fun hbody _ _ hcs => Text.isBlank_of_trim_eq_cons hbody hcs
  constructor
  · intro h
    rw [Tag.ofInside]
    cases h with
    | @value _ expr h =>
      split
      · next hnil => exact absurd (hnil ▸ h) (Expr.ofText_nil expr)
      · next rest hbody => exact absurd (hbody ▸ h) (Expr.ofText_numberSign rest expr)
      · exact ⟨_, rfl, .value h⟩
    | @opening _ rest _ condition hbody hblank h =>
      have hrest : Text.trim rest ≠ [] := fun hnil => Expr.ofText_nil condition (hnil ▸ h)
      rw [hbody]
      exact ⟨_, (directive_eq_ok_iff _ (hends hbody)).2
        (.inl ⟨_, rest, rfl, hblank, hrest, rfl⟩), .opening h⟩
    | middle hbody =>
      rw [hbody]
      exact ⟨_, (directive_eq_ok_iff _ (hends hbody)).2 (.inr (.inl ⟨rfl, rfl⟩)), .middle⟩
    | ending hbody =>
      rw [hbody]
      exact ⟨_, (directive_eq_ok_iff _ (hends hbody)).2 (.inr (.inr ⟨rfl, rfl⟩)), .ending⟩
  · rintro ⟨tag, htag, hmeans⟩
    rw [Tag.ofInside] at htag
    split at htag
    · cases htag
    · next rest hbody =>
      rcases (directive_eq_ok_iff _ (hends hbody)).1 htag with
        ⟨blank, argument, rfl, hblank, -, rfl⟩ | ⟨rfl, rfl⟩ | ⟨rfl, rfl⟩
      · cases hmeans with
        | opening h => exact .opening hbody hblank h
      · cases hmeans
        exact .middle hbody
      · cases hmeans
        exact .ending hbody
    · cases htag
      cases hmeans with
      | value h => exact .value h

end Leaf

end ChatPrompt
