import ChatPrompt.Proofs.Scanning

/-!
# Tokens are read as they were written

A token can be written in one way or, if it is a text, with either quote around it. Between two
quotes a backslash stands before each backslash and before each quote of that kind; all other
characters stand for themselves. Where white space stands between any two tokens no token can grow
into the next one: each is a lexeme of its own, and it starts where it was written.
-/

namespace ChatPrompt.Lexer

open Number

/-- The ways to write a token. -/
inductive Written : Token.Kind → List Char → Prop where
  /-- A name that is no word with a meaning of its own. -/
  | name {word : String} (hplain : isPlainName word = true)
    (hmeaning : word ∉ ["true", "false", "null"]) : Written (.name word) word.toList
  /-- Any text, between quotes of either kind. -/
  | text (value : String) {quote : Char} (hquote : quote = '"' ∨ quote = '\'') :
    Written (.text value) (quote :: (value.toList.flatMap (escapedIn quote) ++ [quote]))
  /-- An integer, in decimal digits. -/
  | integer {n : Int} (h : n.natAbs < 2 ^ 53) :
    Written (.number (exactInt n)) (toString n).toList
  /-- A mark. -/
  | mark (sign : Mark) : Written (.mark sign) sign.text.toList

/-- A written token, and the white space in front of it. -/
structure Word where
  /-- What the token is. -/
  kind : Token.Kind
  /-- The characters that it is written with. -/
  chars : List Char
  /-- It is written with these characters. -/
  written : Written kind chars
  /-- The characters in front of it. -/
  gap : List Char
  /-- They are white space. -/
  blank : gap.all isSpace = true

/-- Written tokens one after the other, each behind its white space. -/
def wordsText (words : List Word) : List Char := words.flatMap fun word => word.gap ++ word.chars

/-- The tokens as they were written from an offset on. -/
def wordsTokens (offset : Nat) : List Word → List Token
  | [] => []
  | word :: rest => ⟨word.kind, offset + Text.byteSize word.gap⟩ ::
      wordsTokens (offset + Text.byteSize (word.gap ++ word.chars)) rest

/-- White space is no character of a name, no equals sign, and belongs to no number. -/
theorem isSpace_head {after : List Char} (h : ∀ c ∈ after.head?, isSpace c = true) :
    (∀ c ∈ after.head?, isNameChar c = false) ∧ after.head? ≠ some '=' ∧ numberBody after = [] := by
  cases after with
  | nil => simp [numberBody]
  | cons c rest =>
    have hspace : isSpace c = true := h c rfl
    simp only [isSpace, Bool.or_eq_true, decide_eq_true_eq] at hspace
    rcases hspace with ((rfl | rfl) | rfl) | rfl <;>
      exact ⟨fun d hd => by cases hd; rfl, fun heq => absurd (Option.some.inj heq) (by decide), rfl⟩

/-- An integer is written with a digit in front, or with a minus sign in front of one. -/
theorem exists_toString_eq_cons (n : Int) : ∃ c digits, (toString n).toList = c :: digits ∧
    (∀ d ∈ digits, d.isDigit = true) ∧
      (c.isDigit = true ∨ c = '-' ∧ digits.head?.any Char.isDigit = true) := by
  cases n with
  | ofNat n =>
    have htext : (toString (Int.ofNat n)).toList = Nat.toDigits 10 n := Nat.toList_repr
    obtain ⟨c, rest, hdigits⟩ :=
      List.exists_cons_of_ne_nil (Nat.toDigits_ne_nil (n := n) (b := 10))
    have hall := digits_toDigits n
    rw [hdigits, List.forall_mem_cons] at hall
    exact ⟨c, rest, htext.trans hdigits, hall.2, .inl hall.1⟩
  | negSucc n =>
    have htext := toList_toString_negSucc n
    have hall := digits_toDigits (n + 1)
    refine ⟨'-', _, htext, hall, .inr ⟨rfl, ?_⟩⟩
    obtain ⟨c, rest, hdigits⟩ :=
      List.exists_cons_of_ne_nil (Nat.toDigits_ne_nil (n := n + 1) (b := 10))
    rw [hdigits] at hall ⊢
    exact hall c List.mem_cons_self

/-- A mark in front of white space is a lexeme. -/
theorem isLexeme_mark_of_isSpace (sign : Mark) {after : List Char}
    (h : ∀ c ∈ after.head?, isSpace c = true) :
    IsLexeme sign.text.toList after (some (.mark sign)) := by
  obtain ⟨hname, hequals, -⟩ := isSpace_head h
  cases sign with
  | trueWord => exact .word (List.all_eq_true.1 (by decide)) rfl hname
  | falseWord => exact .word (List.all_eq_true.1 (by decide)) rfl hname
  | nullWord => exact .word (List.all_eq_true.1 (by decide)) rfl hname
  | _ => exact .mark rfl fun _ => hequals

/-- A written token in front of white space is a lexeme. -/
theorem Written.isLexeme {kind : Token.Kind} {chars after : List Char} (hwritten : Written kind chars)
    (h : ∀ c ∈ after.head?, isSpace c = true) : IsLexeme chars after (some kind) := by
  obtain ⟨hname, -, hnumber⟩ := isSpace_head h
  cases hwritten with
  | @name word hplain hmeaning =>
    rw [← word_eq_name hmeaning]
    exact isLexeme_word hplain hname
  | text value hquote =>
    have hlexeme := IsLexeme.text hquote (quotes_escapedIn hquote value.toList) after
    rwa [String.ofList_toList] at hlexeme
  | @integer n hn =>
    obtain ⟨c, digits, htext, hdigits, hfirst⟩ := exists_toString_eq_cons n
    have hvalue := floatOfText?_toString hn
    rw [htext] at hvalue ⊢
    refine .number hfirst ?_ hvalue
    rw [numberBody_append hdigits, hnumber, List.append_nil]
  | mark sign => exact isLexeme_mark_of_isSpace sign h

/-- White space in front of a text only moves its tokens. -/
theorem Scans.gap {gap : List Char} (hgap : gap.all isSpace = true) {offset : Nat}
    {after : List Char} {ts : List Token} (h : Scans (offset + Text.byteSize gap) after ts) :
    Scans offset (gap ++ after) ts := by
  induction gap generalizing offset with
  | nil => exact h
  | cons c rest ih =>
    obtain ⟨hspace, hrest⟩ := Bool.and_eq_true_iff.1 hgap
    rw [Text.byteSize_cons, ← Nat.add_assoc] at h
    exact .cons (.space hspace _) (ih hrest h)

/-- Tokens that stand apart are read one by one, each where it was written. -/
theorem scans_words {words : List Word} (hgaps : ∀ word ∈ words.tail, word.gap ≠ [])
    {trail : List Char} (htrail : trail.all isSpace = true) (offset : Nat) :
    Scans offset (wordsText words ++ trail) (wordsTokens offset words) := by
  induction words generalizing offset with
  | nil =>
    have hend := Scans.gap htrail (.nil (offset + Text.byteSize trail))
    rwa [List.append_nil] at hend
  | cons word rest ih =>
    have hrest := ih (fun other hother => hgaps other (List.mem_of_mem_tail hother))
      (offset + Text.byteSize (word.gap ++ word.chars))
    have hafter : ∀ c ∈ (wordsText rest ++ trail).head?, isSpace c = true := by
      cases rest with
      | nil => exact fun c hc => List.all_eq_true.1 htrail c (List.mem_of_mem_head? hc)
      | cons next others =>
        obtain ⟨c, gap, hgap⟩ := List.exists_cons_of_ne_nil (hgaps next List.mem_cons_self)
        intro d hd
        have hblank := next.blank
        simp_all [wordsText]
    rw [Text.byteSize_append, ← Nat.add_assoc] at hrest
    have hword := Scans.gap word.blank (.cons (word.written.isLexeme hafter) hrest)
    simpa [wordsText, wordsTokens, tokenAt, Text.byteSize_append, Nat.add_assoc] using hword

/-- No token is lost, and none is added. -/
theorem map_kind_wordsTokens (offset : Nat) (words : List Word) :
    (wordsTokens offset words).map Token.kind = words.map Word.kind := by
  induction words generalizing offset with
  | nil => rfl
  | cons word rest ih => exact congrArg (word.kind :: ·) (ih _)

/-- Each token starts where its characters start. -/
theorem getElem?_wordsTokens (offset : Nat) (before after : List Word) (word : Word) :
    (wordsTokens offset (before ++ word :: after))[before.length]? =
      some ⟨word.kind, offset + Text.byteSize (wordsText before ++ word.gap)⟩ := by
  induction before generalizing offset with
  | nil => rfl
  | cons first rest ih =>
    rw [List.cons_append, wordsTokens, List.length_cons, List.getElem?_cons_succ, ih]
    simp [wordsText, Text.byteSize_append, Nat.add_assoc]

/-- Tokens that are written with white space between any two of them are read back, each with the
offset at which its text starts. There may be white space around them too. -/
theorem ofText_words (words : List Word) (hgaps : ∀ word ∈ words.tail, word.gap ≠ [])
    (trail : List Char) (htrail : trail.all isSpace = true) :
    ∃ ts, Token.ofText (String.ofList (wordsText words ++ trail)) = .ok ts ∧
      ts.map Token.kind = words.map Word.kind ∧
      ∀ before word after, words = before ++ word :: after → ts[before.length]? =
        some ⟨word.kind, Text.byteSize (wordsText before ++ word.gap)⟩ := by
  refine ⟨wordsTokens 0 words, ?_, map_kind_wordsTokens 0 words, ?_⟩
  · rw [Token.ofText, String.toList_ofList]
    exact tokensFrom_eq_ok_iff.2 (scans_words hgaps htrail 0)
  · rintro before word after rfl
    rw [getElem?_wordsTokens, Nat.zero_add]

end ChatPrompt.Lexer

namespace ChatPrompt.Sample

open Lexer

/-- Tokens that would grow into each other, and a text with everything that is escaped. -/
def apartWords : List Word :=
  [⟨.name "größe$1", _, .name (by decide) (by decide), [], by decide⟩,
    ⟨.mark .not, _, .mark .not, [' '], by decide⟩,
    ⟨.mark .ge, _, .mark .ge, ['\t'], by decide⟩,
    ⟨.number (Number.exactInt (-3)), _, .integer (by decide), ['\r', '\n'], by decide⟩,
    ⟨.mark .dot, _, .mark .dot, [' '], by decide⟩,
    ⟨.number (Number.exactInt 0), _, .integer (by decide), [' '], by decide⟩,
    ⟨.text "a\\\"'\n€", _, .text _ (.inl rfl), [' ', ' '], by decide⟩,
    ⟨.mark .nullWord, _, .mark .nullWord, [' '], by decide⟩]

/-- They are read back, and the last one starts where it was written. -/
theorem ofText_apartWords :
    String.ofList (wordsText apartWords ++ ['\n']) =
        "größe$1 !\t>=\r\n-3 . 0  \"a\\\\\\\"'\n€\" null\n" ∧
      (∀ word ∈ apartWords.tail, word.gap ≠ []) ∧ ['\n'].all isSpace = true ∧
      ∃ ts, Token.ofText (String.ofList (wordsText apartWords ++ ['\n'])) = .ok ts ∧
        ts.map Token.kind = apartWords.map Word.kind ∧ ts[7]? = some ⟨.mark .nullWord, 37⟩ := by
  have hgaps : ∀ word ∈ apartWords.tail, word.gap ≠ [] := by decide
  have htrail : ['\n'].all isSpace = true := by decide
  obtain ⟨ts, hread, hkinds, hoffsets⟩ := ofText_words apartWords hgaps ['\n'] htrail
  refine ⟨by decide +kernel, hgaps, htrail, ts, hread, hkinds, ?_⟩
  have hlast := hoffsets (apartWords.take 7) _ [] rfl
  have hsize : Text.byteSize (wordsText (apartWords.take 7) ++ [' ']) = 37 := by decide +kernel
  exact hlast.trans (congrArg (fun size => some (Token.mk (.mark .nullWord) size)) hsize)

end ChatPrompt.Sample
