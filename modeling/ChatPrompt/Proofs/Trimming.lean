import ChatPrompt.Proofs.Cutting
import ChatPrompt.Proofs.Spelling

/-!
# Expressions in the middle of a text

No token starts or ends with a blank, so a text has the tokens that it has without the blanks at its
ends, and an expression stays what it is when it is trimmed.

A character that is neither white space nor in any token can only stand in quotes. So a text with
tokens that is broken off in front of such a character ends in the middle of a text in quotes. Blanks
at its ends make no difference to that either: trimmed or not, it has no tokens.
-/

namespace ChatPrompt

namespace Lexer

/-- Where a blank starts a lexeme, it is white space of its own. -/
theorem IsLexeme.of_isBlank_first {c : Char} {body after : List Char} {kind : Option Token.Kind}
    (h : IsLexeme (c :: body) after kind) (hblank : Text.isBlank c = true) :
    body = [] ∧ kind = none := by
  cases kind with
  | some kind =>
    have hfirst := h.isTokenChar_first
    rw [isTokenChar_of_isBlank hblank] at hfirst
    cases hfirst
  | none =>
    obtain ⟨d, hd, -⟩ := h.exists_space
    exact ⟨(List.cons.inj hd).2, rfl⟩

/-- Where a blank ends a lexeme, it is white space of its own. -/
theorem IsLexeme.of_isBlank_last {front after : List Char} {c : Char} {kind : Option Token.Kind}
    (h : IsLexeme (front ++ [c]) after kind) (hblank : Text.isBlank c = true) :
    front = [] ∧ kind = none := by
  cases kind with
  | some kind =>
    have hlast := h.isTokenChar_last
    rw [isTokenChar_of_isBlank hblank] at hlast
    cases hlast
  | none =>
    obtain ⟨d, hd, -⟩ := h.exists_space
    exact ⟨(List.append_eq_singleton_iff.1 hd).resolve_right (by simp) |>.1, rfl⟩

/-- The empty text has no tokens. -/
theorem scans_nil_iff {offset : Nat} {ts : List Token} : Scans offset [] ts ↔ ts = [] := by
  rw [← tokensFrom_eq_ok_iff, tokensFrom, Except.ok.injEq, eq_comm]

/-- Blanks in front of a text are no tokens. -/
theorem Scans.of_lead {lead : List Char} (hlead : ∀ c ∈ lead, Text.isBlank c = true) {offset : Nat}
    {cs : List Char} {ts : List Token} (h : Scans offset (lead ++ cs) ts) :
    Scans (offset + Text.byteSize lead) cs ts := by
  induction lead generalizing offset with
  | nil => exact h
  | cons c rest ih =>
    obtain ⟨hblank, hrest⟩ := List.forall_mem_cons.1 hlead
    rw [Text.byteSize_cons, ← Nat.add_assoc]
    refine ih hrest ?_
    rw [List.cons_append] at h
    generalize hall : c :: (rest ++ cs) = all at h
    cases h with
    | nil => cases hall
    | cons hrun hafter =>
      obtain ⟨d, body, rfl⟩ := hrun.exists_cons
      obtain ⟨rfl, htail⟩ := List.cons.inj hall
      obtain ⟨rfl, rfl⟩ := hrun.of_isBlank_first hblank
      rw [htail]
      exact hafter

/-- The last character of two runs stands in the second, unless that is empty. -/
theorem eq_or_exists_of_append {run after cs : List Char} {c : Char}
    (h : cs ++ [c] = run ++ after) :
    after = [] ∧ run = cs ++ [c] ∨ ∃ front, after = front ++ [c] ∧ cs = run ++ front := by
  rcases List.eq_nil_or_concat' after with rfl | ⟨front, d, rfl⟩
  · exact .inl ⟨rfl, by rw [h, List.append_nil]⟩
  · rw [← List.append_assoc] at h
    obtain ⟨hcs, hd⟩ := List.append_inj' h rfl
    exact .inr ⟨front, by rw [hd], hcs⟩

/-- Neither is one behind it. -/
theorem Scans.of_last {c : Char} (hblank : Text.isBlank c = true) {offset : Nat} {cs : List Char}
    {ts : List Token} (h : Scans offset (cs ++ [c]) ts) : Scans offset cs ts := by
  generalize hall : cs ++ [c] = all at h
  induction h generalizing cs with
  | nil => simp at hall
  | @cons offset run after kind ts hrun hafter ih =>
    rcases eq_or_exists_of_append hall with ⟨rfl, rfl⟩ | ⟨front, rfl, rfl⟩
    · obtain ⟨rfl, rfl⟩ := hrun.of_isBlank_last hblank
      simpa [tokenAt, scans_nil_iff] using hafter
    · exact .cons hrun.cut (ih rfl)

/-- Nor are several. -/
theorem Scans.of_trail {trail : List Char} (htrail : ∀ c ∈ trail, Text.isBlank c = true)
    {offset : Nat} {cs : List Char} {ts : List Token} (h : Scans offset (cs ++ trail) ts) :
    Scans offset cs ts := by
  induction trail generalizing cs with
  | nil => rwa [List.append_nil] at h
  | cons c rest ih =>
    obtain ⟨hblank, hrest⟩ := List.forall_mem_cons.1 htrail
    rw [List.append_cons] at h
    exact .of_last hblank (ih hrest h)

/-- The last character of a text with tokens is white space or one that tokens have. -/
theorem Scans.isSpace_or_isTokenChar {c : Char} {offset : Nat} {cs : List Char} {ts : List Token}
    (h : Scans offset (cs ++ [c]) ts) : isSpace c = true ∨ isTokenChar c = true := by
  generalize hall : cs ++ [c] = all at h
  induction h generalizing cs with
  | nil => simp at hall
  | @cons offset run after kind ts hrun hafter ih =>
    rcases eq_or_exists_of_append hall with ⟨rfl, rfl⟩ | ⟨front, rfl, rfl⟩
    · cases kind with
      | some kind => exact .inr hrun.isTokenChar_last
      | none =>
        obtain ⟨d, hd, hspace⟩ := hrun.exists_space
        obtain ⟨-, hlast⟩ := (List.append_eq_singleton_iff.1 hd).resolve_right (by simp)
        rw [(List.cons.inj hlast).1]
        exact .inl hspace
    · exact ih rfl

/-! ### Texts that end between quotes -/

/-- A quote is no backslash. -/
theorem quote_ne {quote : Char} (h : quote = '"' ∨ quote = '\'') : quote ≠ '\\' := by
  rcases h with rfl | rfl <;> decide

/-- Nothing is read behind a quote exactly if no text in quotes starts there. -/
theorem inside?_eq_none_iff {quote : Char} (hquote : quote ≠ '\\') {cs : List Char} :
    inside? quote cs = none ↔ ∀ body value, body <+: cs → ¬ Quotes quote body value := by
  constructor
  · rintro hnone body value ⟨after, rfl⟩ hquotes
    obtain ⟨text, htext, -⟩ := exists_inside? hquote hquotes after
    rw [hnone] at htext
    cases htext
  · intro hno
    cases hinside : inside? quote cs with
    | none => rfl
    | some text => exact absurd (quotes_of_inside? hinside) (hno _ _ ⟨_, text.whole⟩)

/-- A text that has tokens up to a quote, and no closing one behind it. -/
inductive Unclosed : List Char → Prop where
  /-- The quote. -/
  | quote {quote : Char} (hquote : quote = '"' ∨ quote = '\'') {inner : List Char}
    (h : ∀ body value, body <+: inner → ¬ Quotes quote body value) : Unclosed (quote :: inner)
  /-- A lexeme in front of it. -/
  | cons {run after : List Char} {kind : Option Token.Kind} (hrun : IsLexeme run after kind)
    (h : Unclosed after) : Unclosed (run ++ after)

/-- There is a quote in it. -/
theorem Unclosed.ne_nil {cs : List Char} (h : Unclosed cs) : cs ≠ [] := by
  induction h with
  | quote => exact List.cons_ne_nil _ _
  | cons _ _ ih => exact List.append_ne_nil_of_right_ne_nil _ ih

/-- It has no tokens. -/
theorem Unclosed.not_scans {cs : List Char} (h : Unclosed cs) (offset : Nat) (ts : List Token) :
    ¬ Scans offset cs ts := by
  rw [← tokensFrom_eq_ok_iff]
  induction h generalizing offset ts with
  | quote hquote h =>
    have hnone := (inside?_eq_none_iff (quote_ne hquote)).2 h
    simp [tokensFrom, lexeme_quote offset _ hquote, hnone]
  | @cons run after kind hrun _ ih =>
    rw [tokensFrom_append hrun]
    cases hafter : tokensFrom (offset + Text.byteSize run) after with
    | error e => simp [Except.map]
    | ok others => exact absurd hafter (ih _ others)

/-- A lexeme that is broken off in front of a character that only stands in quotes is a text. -/
theorem IsLexeme.unclosed {c : Char} (hspace : isSpace c = false) (htoken : isTokenChar c = false)
    {cs rest after : List Char} {kind : Option Token.Kind}
    (h : IsLexeme (cs ++ c :: rest) after kind) : Unclosed cs := by
  cases kind with
  | none =>
    obtain ⟨d, hd, hblank⟩ := h.exists_space
    have hmem : c ∈ [d] := by simp [← hd]
    rw [List.mem_singleton.1 hmem, hblank] at hspace
    cases hspace
  | some kind =>
    rcases h.isTokenChar_or_quotes with hall | ⟨quote, body, value, hquote, hquotes, hrun⟩
    · rw [hall c (by simp)] at htoken
      cases htoken
    · cases cs with
      | nil =>
        rw [(List.cons.inj hrun).1, isTokenChar_quote hquote] at htoken
        cases htoken
      | cons d inner =>
        obtain ⟨rfl, rfl⟩ := List.cons.inj hrun
        refine .quote hquote fun part other hpart hclosed => ?_
        -- a closing quote in front of the character would have ended the text there
        obtain ⟨more, rfl⟩ := hpart
        have hwhole : Quotes d (part ++ (more ++ c :: rest)) value := by
          rwa [← List.append_assoc]
        simpa using hclosed.eq_nil_of_append (quote_ne hquote) hwhole

/-- A text with tokens that is broken off in front of a character that only stands in quotes ends
between quotes. -/
theorem Scans.unclosed {c : Char} (hspace : isSpace c = false) (htoken : isTokenChar c = false)
    {offset : Nat} {cs rest : List Char} {ts : List Token} (h : Scans offset (cs ++ c :: rest) ts) :
    Unclosed cs := by
  generalize hall : cs ++ c :: rest = all at h
  induction h generalizing cs with
  | nil => simp at hall
  | @cons offset run after kind ts hrun hafter ih =>
    have hbehind : ∀ {inner}, cs = run ++ inner → inner ++ c :: rest = after → Unclosed cs := by
      rintro inner rfl rfl
      exact .cons hrun.cut (ih rfl)
    rcases List.append_eq_append_iff.1 hall with ⟨inner, hinner, hrest⟩ | ⟨inner, hinner, hrest⟩
    · cases inner with
      | nil =>
        have hrun : cs = run ++ [] := by rw [hinner, List.append_nil, List.append_nil]
        exact hbehind hrun hrest
      | cons d others =>
        obtain ⟨rfl, -⟩ := List.cons.inj hrest
        subst hinner
        exact hrun.unclosed hspace htoken
    · exact hbehind hinner hrest.symm

/-- Blanks in front of a text that ends between quotes make no difference. -/
theorem Unclosed.of_lead {lead : List Char} (hlead : ∀ c ∈ lead, Text.isBlank c = true)
    {cs : List Char} (h : Unclosed (lead ++ cs)) : Unclosed cs := by
  induction lead with
  | nil => exact h
  | cons c rest ih =>
    obtain ⟨hblank, hrest⟩ := List.forall_mem_cons.1 hlead
    refine ih hrest ?_
    rw [List.cons_append] at h
    generalize hall : c :: (rest ++ cs) = all at h
    cases h with
    | quote hquote =>
      have hchar := isTokenChar_of_isBlank hblank
      rw [(List.cons.inj hall).1, isTokenChar_quote hquote] at hchar
      cases hchar
    | cons hrun hafter =>
      obtain ⟨d, body, rfl⟩ := hrun.exists_cons
      obtain ⟨rfl, htail⟩ := List.cons.inj hall
      obtain ⟨rfl, rfl⟩ := hrun.of_isBlank_first hblank
      rw [htail]
      exact hafter

/-- Neither does one at its end. -/
theorem Unclosed.of_last {c : Char} (hblank : Text.isBlank c = true) {cs : List Char}
    (h : Unclosed (cs ++ [c])) : Unclosed cs := by
  generalize hall : cs ++ [c] = all at h
  induction h generalizing cs with
  | @quote quote hquote inner hinner =>
    cases cs with
    | nil =>
      have hchar := isTokenChar_of_isBlank hblank
      rw [(List.cons.inj hall).1, isTokenChar_quote hquote] at hchar
      cases hchar
    | cons d front =>
      obtain ⟨rfl, rfl⟩ := List.cons.inj hall
      exact .quote hquote fun body value hbody =>
        hinner body value (hbody.trans (List.prefix_append _ _))
  | cons hrun hafter ih =>
    rcases eq_or_exists_of_append hall with ⟨rfl, rfl⟩ | ⟨front, rfl, rfl⟩
    · exact absurd rfl hafter.ne_nil
    · exact .cons hrun.cut (ih rfl)

/-- Nor do several. -/
theorem Unclosed.of_trail {trail : List Char} (htrail : ∀ c ∈ trail, Text.isBlank c = true)
    {cs : List Char} (h : Unclosed (cs ++ trail)) : Unclosed cs := by
  induction trail generalizing cs with
  | nil => rwa [List.append_nil] at h
  | cons c rest ih =>
    obtain ⟨hblank, hrest⟩ := List.forall_mem_cons.1 htrail
    rw [List.append_cons] at h
    exact .of_last hblank (ih hrest h)

/-- Nor does trimming. -/
theorem Unclosed.trim {cs : List Char} (h : Unclosed cs) : Unclosed (Text.trim cs) := by
  obtain ⟨trail, hcs, htrail⟩ := Text.exists_takeWhile_append_trim cs
  rw [hcs] at h
  exact .of_trail htrail (.of_lead (fun _ hc => List.mem_takeWhile_imp hc) h)

/-- It starts with white space or a character that tokens have. -/
theorem Unclosed.isSpace_or_isTokenChar {c : Char} {cs : List Char} (h : Unclosed (c :: cs)) :
    isSpace c = true ∨ isTokenChar c = true := by
  generalize hall : c :: cs = all at h
  cases h with
  | quote hquote => exact .inr ((List.cons.inj hall).1 ▸ isTokenChar_quote hquote)
  | @cons _ _ kind hrun _ =>
    obtain ⟨d, body, rfl⟩ := hrun.exists_cons
    obtain ⟨rfl, -⟩ := List.cons.inj hall
    cases kind with
    | some kind => exact .inr hrun.isTokenChar_first
    | none =>
      obtain ⟨d, hd, hspace⟩ := hrun.exists_space
      exact .inl ((List.cons.inj hd).1 ▸ hspace)

end Lexer

namespace Expr

/-- An expression between blanks is that expression. -/
theorem ofText_of_blanks {lead cs trail : List Char} (hlead : ∀ c ∈ lead, Text.isBlank c = true)
    (htrail : ∀ c ∈ trail, Text.isBlank c = true) {e : Expr}
    (h : ofText (String.ofList (lead ++ (cs ++ trail))) = .ok e) :
    ofText (String.ofList cs) = .ok e := by
  rw [ofText_eq_ok_iff, String.toList_ofList] at h ⊢
  obtain ⟨kinds, hkinds, hderives⟩ := h
  obtain ⟨ts, hscans, rfl⟩ := Lexer.hasKinds_iff.1 hkinds
  obtain ⟨others, hothers, hsame⟩ := (hscans.of_lead hlead).of_trail htrail |>.shift 0
  exact ⟨_, Lexer.hasKinds_iff.2 ⟨others, hothers, hsame⟩, hderives⟩

/-- An expression stays the same when it is trimmed. -/
theorem ofText_trim {cs : List Char} {e : Expr} (h : ofText (String.ofList cs) = .ok e) :
    ofText (String.ofList (Text.trim cs)) = .ok e := by
  obtain ⟨trail, hcs, htrail⟩ := Text.exists_takeWhile_append_trim cs
  rw [hcs] at h
  exact ofText_of_blanks (fun _ hc => List.mem_takeWhile_imp hc) htrail h

/-- A text that ends between quotes is no expression. -/
theorem ofText_ne_of_unclosed {cs : List Char} (h : Lexer.Unclosed cs) (e : Expr) :
    ofText (String.ofList cs) ≠ .ok e := by
  rw [Ne, ofText_eq_ok_iff, String.toList_ofList]
  rintro ⟨kinds, hkinds, -⟩
  obtain ⟨ts, hscans, -⟩ := Lexer.hasKinds_iff.1 hkinds
  exact h.not_scans 0 ts hscans

end Expr

end ChatPrompt
