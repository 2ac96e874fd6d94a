import ChatPrompt.Proofs.Parsing
import ChatPrompt.Proofs.Scanning

/-!
# Where the faults of an expression lie

A place in a text is a boundary if some of its characters, from the first on, take exactly that
many bytes. Tokens start at boundaries, because offsets are sums of sizes of characters. A fault
lies where a lexeme starts, where a token starts, at the end of the text or, if there is nothing to
read, at its start; so it lies at a boundary too.

The parser never moves back: what a step leaves is the end of what it was given, and a fault that it
meets there lies at a token that it was given.
-/

namespace ChatPrompt

namespace Text

/-- A place between two characters of a text, or at one of its ends, in bytes from its start. -/
def IsBoundary (offset : Nat) (cs : List Char) : Prop :=
  ∃ before after, cs = before ++ after ∧ byteSize before = offset

section

variable {offset : Nat} {cs : List Char}

/-- A text starts at a boundary. -/
theorem isBoundary_zero (cs : List Char) : IsBoundary 0 cs := ⟨[], cs, rfl, rfl⟩

/-- It ends at one. -/
theorem isBoundary_byteSize (cs : List Char) : IsBoundary (byteSize cs) cs :=
  ⟨cs, [], (List.append_nil cs).symm, rfl⟩

/-- No boundary lies behind the end. -/
theorem IsBoundary.le (h : IsBoundary offset cs) : offset ≤ byteSize cs := by
  obtain ⟨before, after, rfl, rfl⟩ := h
  rw [byteSize_append]
  exact Nat.le_add_right _ _

/-- The size of a text is the size of its characters. -/
theorem byteSize_toList (text : String) : byteSize text.toList = text.utf8ByteSize := by
  obtain ⟨cs, rfl⟩ : ∃ cs, text = String.ofList cs := ⟨_, String.ofList_toList.symm⟩
  rw [String.toList_ofList]
  induction cs with
  | nil => rfl
  | cons c rest ih =>
    rw [String.ofList_cons, String.utf8ByteSize_append, String.utf8ByteSize_singleton,
      byteSize_cons, ih]

/-- A boundary stays one in the middle of a longer text. -/
theorem IsBoundary.append (h : IsBoundary offset cs) (before after : List Char) :
    IsBoundary (byteSize before + offset) (before ++ (cs ++ after)) := by
  obtain ⟨first, last, rfl, rfl⟩ := h
  exact ⟨before ++ first, last ++ after, by simp, byteSize_append before first⟩

end

end Text

namespace Lexer

/-- Tokens start at boundaries. -/
theorem Scans.isBoundary {offset : Nat} {cs : List Char} {ts : List Token} (h : Scans offset cs ts) :
    ∀ token ∈ ts, ∃ place, Text.IsBoundary place cs ∧ token.offset = offset + place := by
  induction h with
  | nil => simp
  | @cons offset run after kind ts _ _ ih =>
    intro token htoken
    rcases List.mem_append.1 htoken with hfirst | hlater
    · refine ⟨0, Text.isBoundary_zero _, ?_⟩
      cases kind with
      | none => cases hfirst
      | some kind => rw [List.mem_singleton.1 hfirst]; rfl
    · obtain ⟨place, hplace, heq⟩ := ih token hlater
      refine ⟨Text.byteSize run + place, ?_, by omega⟩
      simpa using hplace.append run []

/-- Where no lexeme can be read is a boundary. -/
theorem isBoundary_of_error {offset : Nat} {cs : List Char} {e : SyntaxError}
    (h : tokensFrom offset cs = .error e) :
    ∃ place, Text.IsBoundary place cs ∧ e.offset = offset + place := by
  induction offset, cs using tokensFrom.induct with
  | case1 offset =>
    rw [tokensFrom] at h
    cases h
  | case2 offset c rest fault hlexeme =>
    rw [tokensFrom, hlexeme] at h
    cases h
    have hagrees := agrees_lexeme offset rest c
    rw [hlexeme] at hagrees
    exact ⟨0, Text.isBoundary_zero _, hagrees⟩
  | case3 offset c rest found hlexeme fault htail ih =>
    rw [tokensFrom, hlexeme] at h
    dsimp only at h
    rw [htail] at h
    cases h
    obtain ⟨place, hplace, heq⟩ := ih htail
    have hwhole := hplace.append (c :: found.body) []
    rw [List.append_nil, List.cons_append, found.whole] at hwhole
    exact ⟨_, hwhole, by rw [heq, Nat.add_assoc]⟩
  | case4 offset c rest found hlexeme others htail ih =>
    rw [tokensFrom, hlexeme] at h
    dsimp only at h
    rw [htail] at h
    cases h

end Lexer

namespace Parser

/-- A place where one of some tokens starts, or where the text ends. -/
def Starts (finish : Nat) (ts : List Token) (offset : Nat) : Prop :=
  offset = finish ∨ ∃ token ∈ ts, token.offset = offset

section

variable {finish offset : Nat} {ts others rest : List Token} {e : SyntaxError}

/-- A place of fewer tokens is one of all. -/
theorem Starts.mono (h : Starts finish ts offset) (hts : ts ⊆ others) :
    Starts finish others offset :=
  h.imp_right fun ⟨token, htoken, heq⟩ => ⟨token, hts htoken, heq⟩

/-- The first of some tokens, if there is one, is one of them. -/
theorem starts_offsetOf (finish : Nat) (ts : List Token) : Starts finish ts (offsetOf finish ts) := by
  cases ts with
  | nil => exact .inl rfl
  | cons token rest => exact .inr ⟨token, List.mem_cons_self, rfl⟩

/-- A number that names no place is reported where it starts. -/
theorem offset_of_placeOf {value : Number.Extended} (h : placeOf offset value = .error e) :
    e.offset = offset := by
  cases value with
  | finite x =>
    rw [placeOf] at h
    split at h
    · cases h
    · cases h
      rfl
  | nan | infinite => cases h; rfl

/-- Steps fail at their tokens or at the end. -/
theorem starts_of_segments (h : segments finish ts = .error e) : Starts finish ts e.offset := by
  have hindex : ∀ {offset value}, (placeOf offset value).map Segment.index = .error e →
      e.offset = offset := by
    intro offset value hplace
    cases hvalue : placeOf offset value with
    | error fault =>
      rw [hvalue] at hplace
      cases hplace
      exact offset_of_placeOf hvalue
    | ok place =>
      rw [hvalue] at hplace
      cases hplace
  fun_induction segments finish ts with
  | case1 | case5 =>
    cases h
    exact .inl rfl
  | case2 point kind offset rest step fault hstep | case6 point kind offset rest step fault hstep =>
    cases h
    refine .inr ⟨⟨kind, offset⟩, by simp, ?_⟩
    dsimp only [step] at hstep
    split at hstep
    · cases hstep
    · exact (hindex hstep).symm
    · cases hstep
      rfl
  | case3 _ _ _ _ _ _ _ _ hrest ih =>
    cases h
    exact (ih hrest).mono fun _ hmem => by simp [hmem]
  | case7 _ _ _ _ _ _ _ _ _ hrest ih =>
    cases h
    exact (ih hrest).mono fun _ hmem => by simp [hmem]
  | case9 point kind offset step segment hsegment close hclose =>
    cases h
    exact (starts_offsetOf finish close).mono fun _ hmem => by simp [hmem]
  | case4 | case8 | case10 => cases h

/-- Whatever is read of some tokens at a level fails at one of them, or at the end. -/
def FailsWithin (finish : Nat) (ts : List Token) : Prop :=
  ∀ level e, parse finish level ts = .error e → Starts finish ts e.offset

/-- What is left behind some tokens that were read is the end of them. -/
theorem rest_subset {level : Level} {inner : Parsed Expr ts.length}
    (h : parse finish level ts = .ok inner) : inner.rest ⊆ ts := by
  obtain ⟨used, hused, -⟩ := isSound finish ts level inner.value inner.rest ⟨inner.shorter, h⟩
  intro token htoken
  have hmem := List.mem_append_right used htoken
  rwa [← hused] at hmem

/-- A parenthesis that is not closed is reported at the next token or at the end. -/
theorem starts_of_closed {size : Nat} {value : Expr} {shorter : rest.length < size}
    (h : closed finish value rest shorter = .error e) : Starts finish rest e.offset := by
  rw [closed.eq_def] at h
  split at h
  · cases h
    exact .inl rfl
  · split at h
    · cases h
    · cases h
      exact .inr ⟨_, List.mem_cons_self, rfl⟩

/-- An operand fails at its tokens or at the end, if what is read of fewer tokens does. -/
theorem starts_of_operand
    (ih : ∀ shorter : List Token, shorter.length < ts.length → FailsWithin finish shorter)
    (h : operand finish ts = .error e) : Starts finish ts e.offset := by
  rw [operand.eq_def] at h
  split at h
  · cases h
    exact .inl rfl
  · next point after =>
    split at h
    · next hinner =>
      cases h
      rw [← parse_operand] at hinner
      exact (ih after (Nat.lt_succ_self _) _ _ hinner).mono (List.subset_cons_self _ _)
    · cases h
  · next point after =>
    split at h
    · next hinner =>
      cases h
      exact (ih after (Nat.lt_succ_self _) _ _ hinner).mono (List.subset_cons_self _ _)
    · next inner hinner =>
      exact (starts_of_closed h).mono
        (List.Subset.trans (rest_subset hinner) (List.subset_cons_self _ _))
  · cases h
  · cases h
  · cases h
  · cases h
  · cases h
  · split at h
    · next htail =>
      cases h
      exact (starts_of_segments htail).mono (List.subset_cons_self _ _)
    · cases h
  · cases h
    exact .inr ⟨_, List.mem_cons_self, rfl⟩

/-- What is joined to an operand fails at the tokens behind it or at the end, if what is read of
fewer tokens does. -/
theorem starts_of_chain {level : Level} {left : Expr}
    (ih : ∀ shorter : List Token, shorter.length < ts.length → FailsWithin finish shorter)
    (h : chain finish level left ts = .error e) : Starts finish ts e.offset := by
  induction hlength : ts.length using Nat.strongRecOn generalizing ts left with
  | ind length ihchain =>
    subst hlength
    rw [chain.eq_def] at h
    split at h
    · cases h
    · next token after =>
      split at h
      · cases h
      · next join hjoin =>
        split at h
        · next hright =>
          cases h
          exact (ih after (Nat.lt_succ_self _) _ _ hright).mono (List.subset_cons_self _ _)
        · next right hright =>
          have hshorter : right.rest.length < (token :: after).length :=
            Nat.lt_trans right.shorter (Nat.lt_succ_self _)
          dsimp only at h
          split at h
          · next hall =>
            cases h
            exact (ihchain _ hshorter (fun shorter hlt => ih shorter (Nat.lt_trans hlt hshorter))
              hall rfl).mono (List.Subset.trans (rest_subset hright) (List.subset_cons_self _ _))
          · cases h

/-- Whatever is read fails at its tokens or at the end. -/
theorem failsWithin (finish : Nat) (ts : List Token) : FailsWithin finish ts := by
  induction hlength : ts.length using Nat.strongRecOn generalizing ts with
  | ind length ihlength =>
    have ih : ∀ shorter : List Token, shorter.length < ts.length → FailsWithin finish shorter :=
      fun shorter hlt => ihlength shorter.length (hlength ▸ hlt) shorter rfl
    intro level
    induction level using Level.induct with
    | operand =>
      intro e h
      rw [parse_operand] at h
      exact starts_of_operand ih h
    | looser level hlevel ihlevel =>
      intro e h
      have hrank : level.rank ≠ 0 := by cases level <;> simp_all [Level.rank]
      rw [parse, dif_neg hrank] at h
      split at h
      · next hfirst =>
        cases h
        exact ihlevel _ hfirst
      · next first hfirst =>
        dsimp only at h
        split at h
        · next hall =>
          cases h
          exact (starts_of_chain (fun shorter hlt => ih shorter (Nat.lt_trans hlt first.shorter))
            hall).mono (rest_subset hfirst)
        · cases h

end

end Parser

namespace Expr

/-- Where a text fails to be an expression is a boundary in it. -/
theorem isBoundary_of_error {text : String} {e : SyntaxError} (h : ofText text = .error e) :
    Text.IsBoundary e.offset text.toList := by
  have hfinish := Text.byteSize_toList text
  rw [ofText, Token.ofText] at h
  cases htokens : Lexer.tokensFrom 0 text.toList with
  | error fault =>
    rw [htokens] at h
    cases h
    obtain ⟨place, hplace, heq⟩ := Lexer.isBoundary_of_error htokens
    rwa [heq, Nat.zero_add]
  | ok ts =>
    rw [htokens] at h
    have hstarts : ∀ {offset}, Parser.Starts text.utf8ByteSize ts offset →
        Text.IsBoundary offset text.toList := by
      rintro offset (rfl | ⟨token, htoken, rfl⟩)
      · rw [← hfinish]
        exact Text.isBoundary_byteSize _
      · obtain ⟨place, hplace, heq⟩ :=
          (Lexer.tokensFrom_eq_ok_iff.1 htokens).isBoundary token htoken
        rwa [heq, Nat.zero_add]
    change ofTokens text.utf8ByteSize ts = .error e at h
    rw [ofTokens.eq_def] at h
    split at h
    · cases h
      exact Text.isBoundary_zero _
    · split at h
      · next hparse =>
        cases h
        exact hstarts (Parser.failsWithin _ _ _ _ hparse)
      · next all hparse =>
        split at h
        · cases h
        · next token rest hrest =>
          cases h
          have hmem : token ∈ ts := Parser.rest_subset hparse (by simp [hrest])
          exact hstarts (.inr ⟨token, hmem, rfl⟩)

end Expr

end ChatPrompt
