import ChatPrompt.Proofs.Nesting
import ChatPrompt.Proofs.Trimming

/-!
# Expressions in tags

A tag reaches to the next two closing braces, also where they stand in a text in quotes. So an
expression can be written in a tag exactly if no two closing braces stand in a row anywhere in it.
If they do, they can only stand in quotes, and the tag ends there, between quotes. If they do not,
the tag ends behind the expression, whose last character is no brace, and the expression has the
value and decides the condition that it does on its own.
-/

namespace ChatPrompt

namespace Text

/-- Blanks at the end are trimmed behind any text that is not blank. -/
theorem trimEnd_append (front : List Char) {cs : List Char} (h : trimEnd cs ≠ []) :
    trimEnd (front ++ cs) = front ++ trimEnd cs := by
  have hne : (cs.reverse.dropWhile isBlank).isEmpty = false := by
    rw [List.isEmpty_eq_false_iff]
    exact fun hnil => h (by rw [trimEnd, hnil, List.reverse_nil])
  rw [trimEnd, trimEnd, List.reverse_append, List.dropWhile_append, hne]
  simp

end Text

namespace Leaf

/-- What stands in front of the condition in the tag that opens a block. -/
def ifWord : List Char := ['#', 'i', 'f', ' ']

/-- A condition keeps its place when its tag is trimmed. -/
theorem trim_ifWord_append {cs : List Char} (h : Text.trimEnd cs ≠ []) :
    Text.trim (ifWord ++ cs) = ifWord ++ Text.trimEnd cs := by
  have hstart : Text.trimStart (ifWord ++ cs) = ifWord ++ cs := rfl
  rw [Text.trim, hstart, Text.trimEnd_append ifWord h]

/-- An expression in a tag is its value. -/
theorem reads_value {cs : List Char} {e : Expr} (h : Expr.ofText (String.ofList cs) = .ok e) :
    Part.Reads (.tag cs) (.value e) := .value (Expr.ofText_trim h)

/-- A condition in a tag opens a block. -/
theorem reads_opening {cs : List Char} {e : Expr} (h : Expr.ofText (String.ofList cs) = .ok e) :
    Part.Reads (.tag (ifWord ++ cs)) (.opening e) := by
  obtain ⟨trail, hcs, htrail⟩ := Text.exists_trimEnd_append cs
  have hread : Expr.ofText (String.ofList (Text.trimEnd cs)) = .ok e := by
    have hwhole : Expr.ofText (String.ofList ([] ++ (Text.trimEnd cs ++ trail))) = .ok e := by
      rwa [List.nil_append, ← hcs]
    exact Expr.ofText_of_blanks (List.forall_mem_nil _) htrail hwhole
  have hne : Text.trimEnd cs ≠ [] := fun hnil => Expr.ofText_nil e (hnil ▸ hread)
  exact .opening (trim_ifWord_append hne) rfl (Expr.ofText_trim hread)

/-- A tag that ends between quotes is nothing. -/
theorem not_reads_of_unclosed {cs : List Char} (h : Lexer.Unclosed cs) (symbol : Symbol) :
    ¬ Part.Reads (.tag cs) symbol := by
  have htrim := h.trim
  have hsign : ∀ rest, Text.trim cs ≠ '#' :: rest := by
    intro rest hrest
    rw [hrest] at htrim
    exact absurd htrim.isSpace_or_isTokenChar (by decide)
  intro hreads
  cases hreads with
  | value hread => exact Expr.ofText_ne_of_unclosed htrim _ hread
  | opening hbody => exact hsign _ hbody
  | middle hbody => exact hsign _ hbody
  | ending hbody => exact hsign _ hbody

/-- Neither is one with a condition. -/
theorem not_reads_ifWord_of_unclosed {cs : List Char} (h : Lexer.Unclosed cs) (symbol : Symbol) :
    ¬ Part.Reads (.tag (ifWord ++ cs)) symbol := by
  obtain ⟨trail, hcs, htrail⟩ := Text.exists_trimEnd_append cs
  have hend : Lexer.Unclosed (Text.trimEnd cs) := .of_trail htrail (hcs ▸ h)
  have hbody := trim_ifWord_append hend.ne_nil
  intro hreads
  cases hreads with
  | value hread => exact Expr.ofText_numberSign _ _ (hbody ▸ hread)
  | @opening _ rest blank _ hopening _ hread =>
    obtain ⟨-, rfl⟩ : blank = ' ' ∧ rest = Text.trimEnd cs := by
      simpa [ifWord] using hopening.symm.trans hbody
    exact Expr.ofText_ne_of_unclosed hend.trim _ hread
  | middle hmiddle => exact absurd (hmiddle.symm.trans hbody) (by simp [ifWord])
  | ending hending => exact absurd (hending.symm.trans hbody) (by simp [ifWord])

/-- A text in a tag. -/
def valueTag (text : String) : String := "\x7b\x7b" ++ text ++ "\x7d\x7d"

/-- A text as the condition of a block of two parts. -/
def branchTags (text : String) : String :=
  "\x7b\x7b#if " ++ text ++ "\x7d\x7dA\x7b\x7b#else\x7d\x7dB\x7b\x7b#endif\x7d\x7d"

/-- The tags of a block behind the one that opens it. -/
def behindIf : List Char := "A\x7b\x7b#else\x7d\x7dB\x7b\x7b#endif\x7d\x7d".toList

/-- A tag in front of others is cut off at its end. -/
theorem cut_tag {inside rest : List Char} {parts : List Part}
    (hclosing : ¬ HasPair '\x7d' (inside ++ ['\x7d'])) (hrest : Cut rest parts) :
    Cut ('\x7b' :: '\x7b' :: (inside ++ '\x7d' :: '\x7d' :: rest)) (.tag inside :: parts) := by
  have hopening : ¬ HasPair '\x7b' ([] ++ ['\x7b']) := by simp [hasPair_cons_iff, not_hasPair_nil]
  exact .tag hopening hclosing hrest

/-- A text whose parts are symbols of the grammar is their leaf. -/
theorem ofText_of_cut {source : String} {parts : List Part} {symbols : List Symbol}
    {nodes : List Node} (hcut : Cut source.toList parts)
    (hreads : List.Forall₂ Part.Reads parts symbols) (hderives : Derives symbols nodes) :
    ofText source = .ok ⟨source, nodes⟩ := by
  rw [(cut_iff 0).1 hcut] at hreads
  rw [ofText, nodesOfText_eq_ok_iff.2 ⟨symbols, hreads, hderives⟩]
  rfl

/-- A text with a part that is nothing is no leaf. -/
theorem exists_fault_of_cut {source : String} {part : Part} {parts : List Part}
    (hcut : Cut source.toList (part :: parts)) (hpart : ∀ symbol, ¬ part.Reads symbol) :
    ∃ fault, ofText source = .error fault := by
  rw [ofText]
  cases hnodes : nodesOfText source with
  | error fault => exact ⟨fault, rfl⟩
  | ok nodes =>
    obtain ⟨symbols, hreads, -⟩ := nodesOfText_eq_ok_iff.1 hnodes
    rw [← (cut_iff 0).1 hcut] at hreads
    cases hreads with
    | cons hfirst _ => exact absurd hfirst (hpart _)

/-- An expression that is broken off in front of two closing braces is broken off between quotes. -/
theorem unclosed_of_pair {before after : List Char} {e : Expr}
    (h : Expr.ofText (String.ofList (before ++ '\x7d' :: '\x7d' :: after)) = .ok e) :
    Lexer.Unclosed before := by
  rw [Expr.ofText_eq_ok_iff, String.toList_ofList] at h
  obtain ⟨kinds, hkinds, -⟩ := h
  obtain ⟨ts, hscans, -⟩ := Lexer.hasKinds_iff.1 hkinds
  exact hscans.unclosed (by decide) (by decide)

/-- The last character of an expression is no closing brace. -/
theorem not_hasPair_append {cs : List Char} {e : Expr} (h : Expr.ofText (String.ofList cs) = .ok e)
    (hno : ¬ HasPair '\x7d' cs) : ¬ HasPair '\x7d' (cs ++ ['\x7d']) := by
  intro hpair
  rcases List.infix_concat_iff.1 hpair with hend | hinside
  · obtain ⟨front, hfront⟩ := hend
    have hlast : front ++ ['\x7d'] ++ ['\x7d'] = cs ++ ['\x7d'] := by simpa using hfront
    obtain rfl := List.append_cancel_right hlast
    rw [Expr.ofText_eq_ok_iff, String.toList_ofList] at h
    obtain ⟨kinds, hkinds, -⟩ := h
    obtain ⟨ts, hscans, -⟩ := Lexer.hasKinds_iff.1 hkinds
    exact absurd hscans.isSpace_or_isTokenChar (by decide)
  · exact hno hinside

/-- What stands behind the tag that opens a block is cut into the other tags and the texts. -/
theorem cut_behindIf : Cut behindIf
    [.text ['A'], .tag ['#', 'e', 'l', 's', 'e'], .text ['B'], .tag ['#', 'e', 'n', 'd', 'i', 'f']] :=
  (cut_iff 0).2 (by cbv)

/-- The characters of an expression in a tag. -/
theorem toList_valueTag (text : String) : (valueTag text).toList =
    '\x7b' :: '\x7b' :: (text.toList ++ '\x7d' :: '\x7d' :: []) := by
  simp [valueTag]

/-- The characters of an expression as a condition. -/
theorem toList_branchTags (text : String) : (branchTags text).toList =
    '\x7b' :: '\x7b' :: (ifWord ++ text.toList ++ '\x7d' :: '\x7d' :: behindIf) := by
  have hfront : "\x7b\x7b#if ".toList = '\x7b' :: '\x7b' :: ifWord := rfl
  have hback : "\x7d\x7dA\x7b\x7b#else\x7d\x7dB\x7b\x7b#endif\x7d\x7d".toList =
      '\x7d' :: '\x7d' :: behindIf := rfl
  rw [branchTags, String.toList_append, String.toList_append, hfront, hback]
  rfl

/-- A text that is an expression can be written in a tag, and as a condition, exactly if no two
closing braces stand in a row in it. The tag then says the value of the expression in every scope,
and the block says its first part where the expression holds and its second part elsewhere. -/
theorem ofText_interpolated {text : String} {e : Expr} (h : Expr.ofText text = .ok e) :
    (¬ HasPair '\x7d' text.toList →
      (∃ leaf, ofText (valueTag text) = .ok leaf ∧
        ∀ scope, leaf.render scope = Value.text (e.eval scope)) ∧
      ∃ leaf, ofText (branchTags text) = .ok leaf ∧
        ∀ scope, leaf.render scope = if e.holds scope then "A" else "B") ∧
    (HasPair '\x7d' text.toList →
      (∃ fault, ofText (valueTag text) = .error fault) ∧
      ∃ fault, ofText (branchTags text) = .error fault) := by
  have hread : Expr.ofText (String.ofList text.toList) = .ok e := by rwa [String.ofList_toList]
  constructor
  · intro hno
    have hvalue := not_hasPair_append hread hno
    have hif : ¬ HasPair '\x7d' (ifWord ++ text.toList ++ ['\x7d']) := by
      simpa [ifWord, hasPair_cons_iff] using hvalue
    constructor
    · have hcut := cut_tag hvalue (.plain (not_hasPair_nil _))
      rw [← toList_valueTag] at hcut
      refine ⟨_, ofText_of_cut hcut (.cons (reads_value hread) .nil) (.value e .nil), fun scope => ?_⟩
      simp [render, renderNodes, Node.render]
    · have hcut := cut_tag hif cut_behindIf
      rw [← toList_branchTags] at hcut
      refine ⟨_, ofText_of_cut hcut (.cons (reads_opening hread) (.cons (.text _)
        (.cons (.middle rfl) (.cons (.text _) (.cons (.ending rfl) .nil)))))
        (.alternative e (.text _ .nil) (.text _ .nil) .nil), fun scope => ?_⟩
      simp [render, renderNodes, Node.render]
  · intro hpair
    obtain ⟨before, after, hsplit⟩ : ∃ before after,
        splitAtPair '\x7d' text.toList = some (before, after) := by
      cases hsplit : splitAtPair '\x7d' text.toList with
      | none => exact absurd hpair (splitAtPair_eq_none_iff.1 hsplit)
      | some parts => exact ⟨_, _, rfl⟩
    obtain ⟨htext, hfirst⟩ := splitAtPair_eq_some_iff.1 hsplit
    have hunclosed : Lexer.Unclosed before := unclosed_of_pair (htext ▸ hread)
    constructor
    · have hcut := cut_tag hfirst (cut_pieces 0 (after ++ ['\x7d', '\x7d']))
      have htag : (valueTag text).toList =
          '\x7b' :: '\x7b' :: (before ++ '\x7d' :: '\x7d' :: (after ++ ['\x7d', '\x7d'])) := by
        simp [toList_valueTag, htext]
      rw [← htag] at hcut
      exact exists_fault_of_cut hcut (not_reads_of_unclosed hunclosed)
    · have hif : ¬ HasPair '\x7d' (ifWord ++ before ++ ['\x7d']) := by
        simpa [ifWord, hasPair_cons_iff] using hfirst
      have hcut := cut_tag hif (cut_pieces 0 (after ++ '\x7d' :: '\x7d' :: behindIf))
      have htags : (branchTags text).toList = '\x7b' :: '\x7b' ::
          (ifWord ++ before ++ '\x7d' :: '\x7d' :: (after ++ '\x7d' :: '\x7d' :: behindIf)) := by
        simp [toList_branchTags, htext]
      rw [← htags] at hcut
      exact exists_fault_of_cut hcut (not_reads_ifWord_of_unclosed hunclosed)

/-- A comparison with two closing braces, which a backslash keeps apart. -/
def apartBraces : String := "name == '\x7d\\\x7d'"

/-- It can be written in a tag, and as a condition. -/
theorem ofText_apartBraces :
    Expr.ofText apartBraces =
        .ok (.comparison (.path ⟨"name", []⟩) .eq (.literal (.string "\x7d\x7d"))) ∧
      ¬ HasPair '\x7d' apartBraces.toList ∧
      (∃ leaf, ofText (valueTag apartBraces) = .ok leaf) ∧
      ∃ leaf, ofText (branchTags apartBraces) = .ok leaf := by
  have hread : Expr.ofText apartBraces =
      .ok (.comparison (.path ⟨"name", []⟩) .eq (.literal (.string "\x7d\x7d"))) := by cbv
  have hno : ¬ HasPair '\x7d' apartBraces.toList := splitAtPair_eq_none_iff.1 rfl
  obtain ⟨⟨value, hvalue, -⟩, branch, hbranch, -⟩ := (ofText_interpolated hread).1 hno
  exact ⟨hread, hno, ⟨value, hvalue⟩, branch, hbranch⟩

/-- A text in quotes that is an expression and cannot be written in a tag. -/
theorem exists_expression_refused :
    Expr.ofText "'\x7d\x7d'" = .ok (.literal (.string "\x7d\x7d")) ∧
      valueTag "'\x7d\x7d'" = "\x7b\x7b'\x7d\x7d'\x7d\x7d" ∧
      ofText "\x7b\x7b'\x7d\x7d'\x7d\x7d" =
        .error ⟨2, "\x7b\x7b'\x7d\x7d'\x7d\x7d", .expression .unterminatedString⟩ :=
  ⟨by cbv, by cbv, by cbv⟩

end Leaf

end ChatPrompt
