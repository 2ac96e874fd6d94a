import ChatPrompt.Proofs.Lexemes
import ChatPrompt.Text.Blank

/-!
# What a lexeme is

A lexeme is a run of characters, and whether it is one depends besides on what stands behind it:
another character of a name would make a word longer, a digit a number, and an equals sign some
marks. Said as a relation between the run, what stands behind it and the kind of the token, this is
exactly what the lexer finds at the start of a text, and a fault that it finds is one of its first
character. The tokens of a text are then those of its lexemes, one after the other.

Taking characters away behind a lexeme leaves it one, so the tokens in front of any place of a text
are known from the characters in front of it, as long as no text in quotes is cut there.
-/

namespace ChatPrompt

open Number

/-- The words among the marks. -/
def Mark.isWord : Mark → Bool
  | .trueWord | .falseWord | .nullWord => true
  | _ => false

/-- The marks that an equals sign behind them makes into another one. -/
def Mark.takesEquals : Mark → Bool
  | .gt | .lt | .not => true
  | _ => false

namespace Lexer

/-- White space between tokens. -/
def isSpace (c : Char) : Bool := c = ' ' || c = '\t' || c = '\n' || c = '\r'

/-- What stands behind an opening quote, the closing one included, and the characters that are
meant. -/
inductive Quotes (quote : Char) : List Char → List Char → Prop where
  /-- The closing quote. -/
  | close : Quotes quote [quote] []
  /-- A backslash, which the character behind it belongs to, whatever it is. -/
  | escape (c : Char) {body value : List Char} (h : Quotes quote body value) :
    Quotes quote ('\\' :: c :: body) (unescaped c :: value)
  /-- Any other character. -/
  | plain {c : Char} (hescape : c ≠ '\\') (hquote : c ≠ quote) {body value : List Char}
    (h : Quotes quote body value) : Quotes quote (c :: body) (c :: value)

/-- A run of characters is one lexeme if some others stand behind it. Its kind is that of its token;
white space has none. -/
inductive IsLexeme : List Char → List Char → Option Token.Kind → Prop where
  /-- White space, one character at a time. -/
  | space {c : Char} (h : isSpace c = true) (after : List Char) : IsLexeme [c] after none
  /-- A mark that is no word. -/
  | mark {sign : Mark} (hword : sign.isWord = false) {after : List Char}
    (hafter : sign.takesEquals = true → after.head? ≠ some '=') :
    IsLexeme sign.text.toList after (some (.mark sign))
  /-- A text in quotes, whatever stands behind it. -/
  | text {quote : Char} (hquote : quote = '"' ∨ quote = '\'') {body value : List Char}
    (h : Quotes quote body value) (after : List Char) :
    IsLexeme (quote :: body) after (some (.text (String.ofList value)))
  /-- A number, with a minus sign or not. -/
  | number {c : Char} {body after : List Char} {value : Extended}
    (hfirst : c.isDigit = true ∨ c = '-' ∧ body.head?.any Char.isDigit = true)
    (hbody : numberBody (body ++ after) = body) (hvalue : floatOfText? (c :: body) = some value) :
    IsLexeme (c :: body) after (some (.number value))
  /-- A word. -/
  | word {c : Char} {body after : List Char} (hall : ∀ d ∈ c :: body, isNameChar d = true)
    (hfirst : c.isDigit = false) (hafter : ∀ d ∈ after.head?, isNameChar d = false) :
    IsLexeme (c :: body) after (some (word (c :: body)))

/-- A mark that nothing behind it can make into another one is a lexeme anywhere. -/
theorem isLexeme_mark (sign : Mark) (hword : sign.isWord = false)
    (halone : sign.takesEquals = false) (after : List Char) :
    IsLexeme sign.text.toList after (some (.mark sign)) :=
  .mark hword fun htakes => absurd htakes (by simp [halone])

/-! ### Texts in quotes -/

/-- There is one closing quote, and nothing more belongs to the text. -/
theorem Quotes.eq_nil_of_append {quote : Char} (hquote : quote ≠ '\\') {body value : List Char}
    (h : Quotes quote body value) {more other : List Char}
    (hmore : Quotes quote (body ++ more) other) : more = [] := by
  induction h generalizing other with
  | close =>
    generalize hall : [quote] ++ more = all at hmore
    cases hmore with
    | close => exact (List.cons.inj hall).2
    | escape => exact absurd (List.cons.inj hall).1 hquote
    | plain _ hne => exact absurd (List.cons.inj hall).1.symm hne
  | escape c _ ih =>
    rw [List.cons_append, List.cons_append] at hmore
    cases hmore with
    | escape _ hrest => exact ih hrest
    | plain hescape => exact absurd rfl hescape
  | @plain c hescape hne body _ _ ih =>
    generalize hall : c :: body ++ more = all at hmore
    cases hmore with
    | close => exact absurd (List.cons.inj hall).1 hne
    | escape => exact absurd (List.cons.inj hall).1 hescape
    | plain _ _ hrest =>
      rw [← (List.cons.inj hall).2] at hrest
      exact ih hrest

/-- A character between two quotes of a kind. -/
def escapedIn (quote c : Char) : List Char := if c = '\\' ∨ c = quote then ['\\', c] else [c]

/-- What is written between quotes is what is meant. -/
theorem quotes_escapedIn {quote : Char} (hquote : quote = '"' ∨ quote = '\'') (value : List Char) :
    Quotes quote (value.flatMap (escapedIn quote) ++ [quote]) value := by
  induction value with
  | nil => exact .close
  | cons c rest ih =>
    rw [List.flatMap_cons, List.append_assoc, escapedIn]
    by_cases h : c = '\\' ∨ c = quote
    · have hcharacter : unescaped c = c := by
        rcases h with rfl | rfl
        · rfl
        · rcases hquote with rfl | rfl <;> rfl
      have hescaped := Quotes.escape c ih
      rw [hcharacter] at hescaped
      rwa [if_pos h]
    · obtain ⟨hescape, hplain⟩ := not_or.1 h
      rw [if_neg h]
      exact .plain hescape hplain ih

/-- What is read behind an opening quote ends with the closing one. -/
theorem quotes_of_inside? {quote : Char} {cs : List Char} {text : Inside cs}
    (h : inside? quote cs = some text) : Quotes quote text.body text.value := by
  induction cs using inside?.induct quote with
  | case1 => simp [inside?] at h
  | case2 => simp [inside?] at h
  | case3 e rest ih =>
    simp only [inside?, if_true, Option.map_eq_some_iff] at h
    obtain ⟨tail, htail, rfl⟩ := h
    exact .escape e (ih htail)
  | case4 rest hescape =>
    cases rest with
    | nil =>
      simp only [inside?, hescape, if_true, if_false, Option.some.injEq] at h
      subst h
      exact .close
    | cons d rest =>
      simp only [inside?, hescape, if_true, if_false, Option.some.injEq] at h
      subst h
      exact .close
  | case5 c rest hescape hquote ih =>
    cases rest with
    | nil => simp [inside?, hescape, hquote] at h
    | cons d rest =>
      simp only [inside?, hescape, hquote, if_false, Option.map_eq_some_iff] at h
      obtain ⟨tail, htail, rfl⟩ := h
      exact .plain hescape hquote (ih htail)

/-- What ends with a closing quote is read behind an opening one, whatever follows. -/
theorem exists_inside? {quote : Char} (hquote : quote ≠ '\\') {body value : List Char}
    (h : Quotes quote body value) (after : List Char) :
    ∃ text, inside? quote (body ++ after) = some text ∧ text.value = value ∧ text.body = body := by
  induction h with
  | close => exact ⟨_, inside?_close quote hquote after, rfl, rfl⟩
  | escape c _ ih =>
    obtain ⟨tail, htail, hvalue, hbody⟩ := ih
    exact ⟨_, inside?_escape htail, congrArg (_ :: ·) hvalue, congrArg (_ :: _ :: ·) hbody⟩
  | plain hescape hne _ ih =>
    obtain ⟨tail, htail, hvalue, hbody⟩ := ih
    exact ⟨_, inside?_plain hescape hne htail, congrArg (_ :: ·) hvalue, congrArg (_ :: ·) hbody⟩

section

variable (offset : Nat) {c : Char} (rest : List Char)

/-- A quote starts a text, if that ends. -/
theorem lexeme_quote (hc : c = '"' ∨ c = '\'') : lexeme offset c rest =
    match inside? c rest with
    | some text =>
      .ok ⟨some (.text (String.ofList text.value)), text.body, text.after, text.whole⟩
    | none => .error ⟨offset, .unterminatedString⟩ := by
  rcases hc with rfl | rfl <;> rfl

/-- A sign of comparison that no equals sign follows stands alone, and so does a negation. -/
theorem lexeme_comparing {sign : Mark} (hsign : sign.takesEquals = true)
    (hc : sign.text.toList = [c]) (hrest : rest.head? ≠ some '=') :
    lexeme offset c rest = .ok (mark sign rest) := by
  have halone : ∀ others, rest ≠ '=' :: others := by
    rintro others rfl
    exact hrest rfl
  cases sign with
  | gt =>
    obtain rfl : '>' = c := (List.cons.inj hc).1
    simp [lexeme]
  | lt =>
    obtain rfl : '<' = c := (List.cons.inj hc).1
    simp [lexeme]
  | not =>
    obtain rfl : '!' = c := (List.cons.inj hc).1
    simp [lexeme]
  | _ => cases hsign

/-- Any other character starts a word or nothing. -/
theorem lexeme_other (hmarks : c ∉ marks) (hdigit : c.isDigit = false) :
    lexeme offset c rest = if isNameChar c then
        .ok ⟨some (word (c :: rest.takeWhile isNameChar)), rest.takeWhile isNameChar,
          rest.dropWhile isNameChar, List.takeWhile_append_dropWhile⟩
      else .error ⟨offset, .unexpectedCharacter c⟩ := by
  simp only [marks, List.mem_cons, List.not_mem_nil, or_false, not_or] at hmarks
  simp [lexeme, hmarks, hdigit]

/-- What is found at the start of a text is a lexeme, or else a fault of its first character. -/
def Agrees (offset : Nat) (c : Char) {rest : List Char} : Except SyntaxError (Lexeme rest) → Prop
  | .ok found => IsLexeme (c :: found.body) found.after found.kind
  | .error e => e.offset = offset

/-- A quote starts a text or a fault. -/
theorem agrees_quote (hc : c = '"' ∨ c = '\'') : Agrees offset c (lexeme offset c rest) := by
  rw [lexeme_quote offset rest hc]
  split
  · next text htext => exact .text hc (quotes_of_inside? htext) _
  · rfl

/-- A sign of comparison or a negation starts one of two marks. -/
theorem agrees_comparing (hc : c = '>' ∨ c = '<' ∨ c = '!') :
    Agrees offset c (lexeme offset c rest) := by
  by_cases hequals : rest.head? = some '='
  · obtain ⟨others, rfl⟩ := List.head?_eq_some_iff.1 hequals
    rcases hc with rfl | rfl | rfl
    · exact isLexeme_mark .ge rfl rfl _
    · exact isLexeme_mark .le rfl rfl _
    · exact isLexeme_mark .ne rfl rfl _
  · obtain ⟨sign, hsign, htext⟩ : ∃ sign : Mark, sign.takesEquals = true ∧ sign.text.toList = [c] := by
      rcases hc with rfl | rfl | rfl
      · exact ⟨.gt, rfl, rfl⟩
      · exact ⟨.lt, rfl, rfl⟩
      · exact ⟨.not, rfl, rfl⟩
    have hword : sign.isWord = false := by
      cases sign <;> first | rfl | cases hsign
    rw [lexeme_comparing offset rest hsign htext hequals]
    have hlexeme : IsLexeme sign.text.toList rest (some (.mark sign)) := .mark hword fun _ => hequals
    rwa [htext] at hlexeme

/-- An equals sign or a connective has to be doubled. -/
theorem agrees_doubled (hc : c = '=' ∨ c = '&' ∨ c = '|') :
    Agrees offset c (lexeme offset c rest) := by
  by_cases hagain : rest.head? = some c
  · obtain ⟨others, rfl⟩ := List.head?_eq_some_iff.1 hagain
    rcases hc with rfl | rfl | rfl
    · exact isLexeme_mark .eq rfl rfl _
    · exact isLexeme_mark .and rfl rfl _
    · exact isLexeme_mark .or rfl rfl _
  · have halone : ∀ others, rest ≠ c :: others := by
      rintro others rfl
      exact hagain rfl
    obtain ⟨problem, hlexeme⟩ : ∃ problem, lexeme offset c rest = .error ⟨offset, problem⟩ := by
      rcases hc with rfl | rfl | rfl <;> simp [lexeme]
    rw [hlexeme]
    rfl

/-- A number is one or a fault. -/
theorem agrees_numeric (hc : c.isDigit = true ∨ c = '-' ∧ rest.head?.any Char.isDigit = true) :
    Agrees offset c (lexeme offset c rest) := by
  rw [lexeme_numeric offset rest hc]
  split
  · next value hvalue =>
    refine .number (hc.imp_right ?_) ?_ hvalue
    · rintro ⟨rfl, hdigit⟩
      cases rest with
      | nil => cases hdigit
      | cons d others => simp_all [numberBody]
    · dsimp only
      rw [numberBody_append_drop]
  · rfl

/-- A minus sign starts a number or a fault. -/
theorem agrees_minus : Agrees offset '-' (lexeme offset '-' rest) := by
  by_cases hdigit : rest.head?.any Char.isDigit = true
  · exact agrees_numeric offset rest (.inr ⟨rfl, hdigit⟩)
  · have hlexeme : lexeme offset '-' rest = .error ⟨offset, .unexpectedCharacter '-'⟩ := by
      have hminus : isNameChar '-' = false ∧ Char.isDigit '-' = false := by decide
      simp [lexeme, hdigit, hminus]
    rw [hlexeme]
    rfl

/-- A character without a meaning of its own starts a number, a word or a fault. -/
theorem agrees_other (hc : c ∉ marks) : Agrees offset c (lexeme offset c rest) := by
  cases hdigit : c.isDigit with
  | true => exact agrees_numeric offset rest (.inl hdigit)
  | false =>
    rw [lexeme_other offset rest hc hdigit]
    split
    · next hname =>
      refine .word ?_ hdigit ?_
      · exact List.forall_mem_cons.2 ⟨hname, fun d hd => List.mem_takeWhile_imp hd⟩
      · intro d hd
        have hstop := List.head?_dropWhile_not isNameChar rest
        rw [hd] at hstop
        simpa using hstop
    · rfl

/-- Whatever is found is a lexeme, or else a fault of the first character. -/
theorem agrees_lexeme (c : Char) : Agrees offset c (lexeme offset c rest) := by
  by_cases hmarks : c ∈ marks
  · simp only [marks, List.mem_cons, List.not_mem_nil, or_false] at hmarks
    rcases hmarks with rfl | rfl | rfl | rfl | rfl | rfl | rfl | rfl | rfl | rfl | rfl | rfl | rfl |
      rfl | rfl | rfl | rfl | rfl
    · exact .space rfl _
    · exact .space rfl _
    · exact .space rfl _
    · exact .space rfl _
    · exact isLexeme_mark .openParen rfl rfl _
    · exact isLexeme_mark .closeParen rfl rfl _
    · exact isLexeme_mark .openBracket rfl rfl _
    · exact isLexeme_mark .closeBracket rfl rfl _
    · exact isLexeme_mark .dot rfl rfl _
    · exact agrees_quote offset rest (.inl rfl)
    · exact agrees_quote offset rest (.inr rfl)
    · exact agrees_comparing offset rest (.inl rfl)
    · exact agrees_comparing offset rest (.inr (.inl rfl))
    · exact agrees_doubled offset rest (.inl rfl)
    · exact agrees_comparing offset rest (.inr (.inr rfl))
    · exact agrees_doubled offset rest (.inr (.inl rfl))
    · exact agrees_doubled offset rest (.inr (.inr rfl))
    · exact agrees_minus offset rest
  · exact agrees_other offset rest hmarks

end

/-- A mark is found where it stands. -/
theorem exists_lexeme_mark {sign : Mark} (hword : sign.isWord = false) {after : List Char}
    (hafter : sign.takesEquals = true → after.head? ≠ some '=') (offset : Nat) {c : Char}
    {body : List Char} (htext : sign.text.toList = c :: body) :
    ∃ found, lexeme offset c (body ++ after) = .ok found ∧ found.kind = some (.mark sign) ∧
      found.body = body := by
  cases htakes : sign.takesEquals with
  | true =>
    have hbody : body = [] := by
      cases sign <;> first | exact (List.cons.inj htext).2.symm | cases htakes
    subst hbody
    exact ⟨_, lexeme_comparing offset after htakes htext (hafter htakes), rfl, rfl⟩
  | false =>
    cases sign with
    | gt | lt | not => cases htakes
    | trueWord | falseWord | nullWord => cases hword
    | _ =>
      cases htext
      exact ⟨_, rfl, rfl, rfl⟩

/-- A lexeme is found where it stands. -/
theorem exists_lexeme {c : Char} {body after : List Char} {kind : Option Token.Kind}
    (h : IsLexeme (c :: body) after kind) (offset : Nat) :
    ∃ found, lexeme offset c (body ++ after) = .ok found ∧ found.kind = kind ∧
      found.body = body := by
  generalize hrun : c :: body = run at h
  cases h with
  | space h =>
    cases hrun
    simp only [isSpace, Bool.or_eq_true, decide_eq_true_eq] at h
    rcases h with ((rfl | rfl) | rfl) | rfl <;> exact ⟨_, rfl, rfl, rfl⟩
  | mark hword hafter => exact exists_lexeme_mark hword hafter offset hrun.symm
  | text hquote hquotes =>
    cases hrun
    have hescape : c ≠ '\\' := by rcases hquote with rfl | rfl <;> decide
    obtain ⟨text, htext, hvalue, hbody⟩ := exists_inside? hescape hquotes after
    have hlexeme := lexeme_quote offset (body ++ after) hquote
    rw [htext] at hlexeme
    exact ⟨_, hlexeme, by rw [hvalue], hbody⟩
  | number hfirst hbody hvalue =>
    cases hrun
    have hlexeme := lexeme_numeric offset (body ++ after) (hfirst.imp_right fun h => ⟨h.1, by
      obtain ⟨-, h⟩ := h
      cases body with
      | nil => cases h
      | cons d others => exact h⟩)
    rw [← hbody] at hvalue
    rw [hvalue] at hlexeme
    exact ⟨_, hlexeme, rfl, hbody⟩
  | word hall hfirst hafter =>
    cases hrun
    obtain ⟨hname, hbody⟩ := List.forall_mem_cons.1 hall
    have htake : (body ++ after).takeWhile isNameChar = body := by
      rw [List.takeWhile_append_of_pos hbody]
      cases after with
      | nil => simp
      | cons next others => simp [hafter next rfl]
    have hlexeme := lexeme_word hname hfirst offset (body ++ after)
    exact ⟨_, hlexeme, congrArg (fun run => some (word (c :: run))) htake, htake⟩

/-- A lexeme has a first character. -/
theorem IsLexeme.exists_cons {run after : List Char} {kind : Option Token.Kind}
    (h : IsLexeme run after kind) : ∃ c body, run = c :: body := by
  cases h with
  | @mark sign _ _ => cases sign <;> exact ⟨_, _, rfl⟩
  | space | text | number | word => exact ⟨_, _, rfl⟩

/-- White space is one character. -/
theorem IsLexeme.exists_space {run after : List Char} (h : IsLexeme run after none) :
    ∃ c, run = [c] ∧ isSpace c = true := by
  cases h with
  | @space c hspace => exact ⟨c, rfl, hspace⟩

/-! ### The tokens of a text -/

/-- The token of a lexeme that starts at an offset, if it is one. -/
def tokenAt (offset : Nat) (kind : Option Token.Kind) : List Token :=
  (kind.map fun kind => ⟨kind, offset⟩).toList

/-- A text that starts at an offset is cut into lexemes, which have these tokens. -/
inductive Scans : Nat → List Char → List Token → Prop where
  /-- The empty text. -/
  | nil (offset : Nat) : Scans offset [] []
  /-- A lexeme in front of others. -/
  | cons {offset : Nat} {run after : List Char} {kind : Option Token.Kind} {ts : List Token}
    (hrun : IsLexeme run after kind) (hafter : Scans (offset + Text.byteSize run) after ts) :
    Scans offset (run ++ after) (tokenAt offset kind ++ ts)

/-- The token of a lexeme comes before those of what follows. -/
theorem tokensFrom_append {run after : List Char} {kind : Option Token.Kind}
    (h : IsLexeme run after kind) (offset : Nat) :
    tokensFrom offset (run ++ after) =
      (tokensFrom (offset + Text.byteSize run) after).map (tokenAt offset kind ++ ·) := by
  obtain ⟨c, body, rfl⟩ := h.exists_cons
  obtain ⟨found, hlexeme, hkind, hbody⟩ := exists_lexeme h offset
  have hafter : found.after = after := by
    have hwhole := found.whole
    rw [hbody] at hwhole
    exact List.append_cancel_left hwhole
  rw [List.cons_append, tokensFrom, hlexeme]
  dsimp only
  rw [hkind, hbody, hafter]
  cases tokensFrom (offset + Text.byteSize (c :: body)) after with
  | error e => rfl
  | ok ts => cases kind <;> rfl

/-- What is found at the start of a text is a lexeme. -/
theorem isLexeme_of_lexeme {offset : Nat} {c : Char} {rest : List Char} {found : Lexeme rest}
    (h : lexeme offset c rest = .ok found) : IsLexeme (c :: found.body) found.after found.kind := by
  have hagrees := agrees_lexeme offset rest c
  rwa [h] at hagrees

/-- The tokens that are read are those of the lexemes. -/
theorem tokensFrom_eq_ok_iff {offset : Nat} {cs : List Char} {ts : List Token} :
    tokensFrom offset cs = .ok ts ↔ Scans offset cs ts := by
  constructor
  · intro h
    induction offset, cs using tokensFrom.induct generalizing ts with
    | case1 offset =>
      rw [tokensFrom] at h
      cases h
      exact .nil offset
    | case2 offset c rest e hlexeme =>
      rw [tokensFrom, hlexeme] at h
      cases h
    | case3 offset c rest found hlexeme e htail _ =>
      rw [tokensFrom, hlexeme] at h
      dsimp only at h
      rw [htail] at h
      cases h
    | case4 offset c rest found hlexeme others htail ih =>
      have hscans := Scans.cons (isLexeme_of_lexeme hlexeme) (ih htail)
      rw [List.cons_append, found.whole] at hscans
      rw [tokensFrom, hlexeme] at h
      dsimp only at h
      rw [htail] at h
      cases h
      cases hkind : found.kind <;> rwa [hkind] at hscans
  · intro h
    induction h with
    | nil offset => rw [tokensFrom]
    | cons hrun _ ih =>
      rw [tokensFrom_append hrun, ih]
      rfl

/-- A text has one list of kinds, wherever it starts. -/
theorem Scans.shift {offset : Nat} {cs : List Char} {ts : List Token} (h : Scans offset cs ts)
    (other : Nat) : ∃ others, Scans other cs others ∧ others.map Token.kind = ts.map Token.kind := by
  induction h generalizing other with
  | nil _ => exact ⟨[], .nil other, rfl⟩
  | @cons _ run _ kind _ hrun _ ih =>
    obtain ⟨others, hothers, hkinds⟩ := ih (other + Text.byteSize run)
    refine ⟨_, .cons hrun hothers, ?_⟩
    rw [List.map_append, List.map_append, hkinds]
    cases kind <;> rfl

/-- The kinds of the tokens of a text. -/
theorem hasKinds_iff {offset : Nat} {cs : List Char} {kinds : List Token.Kind} :
    HasKinds offset cs kinds ↔ ∃ ts, Scans offset cs ts ∧ ts.map Token.kind = kinds := by
  simp only [HasKinds, tokensFrom_eq_ok_iff]

/-- A lexeme that is a token is read for itself. -/
theorem IsLexeme.lexes {run after : List Char} {kind : Token.Kind}
    (h : IsLexeme run after (some kind)) : Lexes run [kind] after := by
  intro offset all
  rw [HasKinds, tokensFrom_append h]
  cases htail : tokensFrom (offset + Text.byteSize run) after with
  | error e => simp [HasKinds, htail, Except.map]
  | ok ts => simp [HasKinds, htail, Except.map, tokenAt, eq_comm]

/-! ### Lexemes one by one -/

theorem lexes_dot (after : List Char) : Lexes ['.'] [.mark .dot] after :=
  (isLexeme_mark .dot rfl rfl after).lexes

theorem lexes_openBracket (after : List Char) : Lexes ['['] [.mark .openBracket] after :=
  (isLexeme_mark .openBracket rfl rfl after).lexes

theorem lexes_closeBracket (after : List Char) : Lexes [']'] [.mark .closeBracket] after :=
  (isLexeme_mark .closeBracket rfl rfl after).lexes

/-- A text in double quotes is read for itself. -/
theorem lexes_text (key after : List Char) :
    Lexes ('"' :: (key.flatMap escaped ++ ['"'])) [.text (String.ofList key)] after :=
  (IsLexeme.text (.inl rfl) (quotes_escapedIn (.inl rfl) key) after).lexes

/-- A plain name is a word, if no further character of a name stands behind it. -/
theorem isLexeme_word {name : String} (h : isPlainName name = true) {after : List Char}
    (hafter : ∀ c ∈ after.head?, isNameChar c = false) :
    IsLexeme name.toList after (some (word name.toList)) := by
  simp only [isPlainName, Bool.and_eq_true, List.all_eq_true, Bool.not_eq_true'] at h
  obtain ⟨⟨hne, hall⟩, hfirst⟩ := h
  cases hname : name.toList with
  | nil => simp_all
  | cons c run =>
    rw [hname] at hall hfirst
    exact .word hall hfirst hafter

/-- It is read for itself. -/
theorem lexes_word {name : String} (h : isPlainName name = true) {after : List Char}
    (hafter : ∀ c ∈ after.head?, isNameChar c = false) :
    Lexes name.toList [word name.toList] after := (isLexeme_word h hafter).lexes

/-- Digits are read as one number, if that is one and nothing behind them belongs to a number. -/
theorem lexes_digits {digits after : List Char} (hne : digits ≠ [])
    (hdigits : ∀ c ∈ digits, c.isDigit = true) (hafter : numberBody after = []) {value : Extended}
    (hvalue : floatOfText? digits = some value) : Lexes digits [.number value] after := by
  obtain ⟨c, run, rfl⟩ := List.exists_cons_of_ne_nil hne
  obtain ⟨hdigit, hrun⟩ := List.forall_mem_cons.1 hdigits
  refine (IsLexeme.number (.inl hdigit) ?_ hvalue).lexes
  rw [numberBody_append hrun, hafter, List.append_nil]

/-- A whole number of at most 53 bits is read for itself, if nothing behind its digits belongs to a
number. -/
theorem lexes_toDigits {n : Nat} (h : n < 2 ^ 53) {after : List Char}
    (hafter : numberBody after = []) :
    Lexes (Nat.toDigits 10 n) [.number (exactWhole n)] after :=
  lexes_digits Nat.toDigits_ne_nil (digits_toDigits n) hafter (floatOfText?_toDigits h)

/-! ### What a token was written with -/

/-- Every token of a text is a lexeme there. -/
theorem Scans.exists_isLexeme {offset : Nat} {cs : List Char} {ts : List Token}
    (h : Scans offset cs ts) {token : Token} (hmem : token ∈ ts) :
    ∃ run after, IsLexeme run after (some token.kind) := by
  induction h with
  | nil => cases hmem
  | @cons _ _ _ kind _ hrun _ ih =>
    rcases List.mem_append.1 hmem with hfirst | hlater
    · cases kind with
      | none => cases hfirst
      | some kind =>
        obtain rfl := List.mem_singleton.1 hfirst
        exact ⟨_, _, hrun⟩
    · exact ih hlater

/-- A word is one with a meaning of its own, or a name, and then its own name. -/
theorem word_eq_mark_or_name (text : List Char) : (∃ sign, word text = .mark sign) ∨
    word text = .name (String.ofList text) ∧ String.ofList text ∉ ["true", "false", "null"] := by
  rw [word]
  split
  · exact .inl ⟨_, rfl⟩
  · next htrue =>
    split
    · exact .inl ⟨_, rfl⟩
    · next hfalse =>
      split
      · exact .inl ⟨_, rfl⟩
      · next hnull =>
        refine .inr ⟨rfl, fun hmem => ?_⟩
        have htext : (String.ofList text).toList = text := String.toList_ofList
        simp only [List.mem_cons, List.not_mem_nil, or_false] at hmem
        rcases hmem with heq | heq | heq
        · exact htrue (htext.symm.trans (congrArg String.toList heq))
        · exact hfalse (htext.symm.trans (congrArg String.toList heq))
        · exact hnull (htext.symm.trans (congrArg String.toList heq))

/-- A name is written with its characters, and is no word with a meaning of its own. -/
theorem IsLexeme.isPlainName {run after : List Char} {name : String}
    (h : IsLexeme run after (some (.name name))) :
    isPlainName name = true ∧ name ∉ ["true", "false", "null"] := by
  generalize hkind : some (Token.Kind.name name) = kind at h
  cases h with
  | @word c body _ hall hfirst _ =>
    rcases word_eq_mark_or_name (c :: body) with ⟨sign, hsign⟩ | ⟨hname, hmeaning⟩
    · rw [hsign] at hkind
      cases hkind
    · rw [hname] at hkind
      cases hkind
      refine ⟨?_, hmeaning⟩
      simp only [ChatPrompt.isPlainName, String.toList_ofList, List.head?_cons, Option.any_some, hfirst,
        List.all_eq_true.2 hall, Bool.not_false, Bool.and_true]
      simp
  | _ => cases hkind

/-- A number is read from its characters. -/
theorem IsLexeme.floatOfText?_eq {run after : List Char} {value : Extended}
    (h : IsLexeme run after (some (.number value))) : floatOfText? run = some value := by
  generalize hkind : some (Token.Kind.number value) = kind at h
  cases h with
  | number _ _ hvalue =>
    cases hkind
    exact hvalue
  | @word c body _ _ _ _ =>
    rcases word_eq_mark_or_name (c :: body) with ⟨sign, hsign⟩ | ⟨hname, -⟩
    · rw [hsign] at hkind
      cases hkind
    · rw [hname] at hkind
      cases hkind
  | _ => cases hkind

/-! ### What stands behind a lexeme -/

/-- What belongs to a number still does with more characters behind it. -/
theorem numberBody_prefix (cs more : List Char) : numberBody cs <+: numberBody (cs ++ more) := by
  induction cs with
  | nil => exact List.nil_prefix
  | cons c rest ih =>
    by_cases h : c.isDigit || (c = '.' && rest.head?.any Char.isDigit)
    · have hmore : c.isDigit || (c = '.' && (rest ++ more).head?.any Char.isDigit) := by
        cases rest with
        | nil => simp_all
        | cons d others => exact h
      rw [List.cons_append, numberBody, numberBody, if_pos h, if_pos hmore]
      exact (List.prefix_cons_inj c).2 ih
    · rw [numberBody, if_neg h]
      exact List.nil_prefix

/-- What belongs to a number is known without the characters behind it. -/
theorem numberBody_numberBody (cs : List Char) : numberBody (numberBody cs) = numberBody cs := by
  induction cs with
  | nil => rfl
  | cons c rest ih =>
    by_cases h : c.isDigit || (c = '.' && rest.head?.any Char.isDigit)
    · have hshort : c.isDigit || (c = '.' && (numberBody rest).head?.any Char.isDigit) := by
        cases rest with
        | nil => simp_all
        | cons d others =>
          by_cases hdigit : d.isDigit
          · simp_all [numberBody]
          · simp_all
      rw [numberBody, if_pos h, numberBody, if_pos hshort, ih]
    · rw [numberBody, if_neg h]
      rfl

/-- A lexeme is still one if characters behind it are taken away. -/
theorem IsLexeme.cut {run after more : List Char} {kind : Option Token.Kind}
    (h : IsLexeme run (after ++ more) kind) : IsLexeme run after kind := by
  have hhead : ∀ {c}, after.head? = some c → (after ++ more).head? = some c := by
    intro c hc
    rw [List.head?_append, hc]
    rfl
  cases h with
  | space h => exact .space h after
  | mark hword hafter => exact .mark hword fun htakes heq => hafter htakes (hhead heq)
  | text hquote h => exact .text hquote h after
  | @number c body _ value hfirst hbody hvalue =>
    refine .number hfirst ?_ hvalue
    rw [← List.append_assoc] at hbody
    have hlower := numberBody_prefix body after
    have hupper := numberBody_prefix (body ++ after) more
    rw [hbody] at hupper
    have hshort := numberBody_numberBody (body ++ after ++ more)
    rw [hbody] at hshort
    rw [hshort] at hlower
    exact hupper.eq_of_length_le hlower.length_le
  | word hall hfirst hafter => exact .word hall hfirst fun d hd => hafter d (hhead hd)

/-! ### The characters of a token -/

/-- The characters of marks that are no words, the quotes, and the sign of a number. -/
def symbols : List Char :=
  ['(', ')', '[', ']', '.', '"', '\'', '>', '<', '=', '!', '&', '|', '-']

/-- A character that a token can have outside quotes. -/
def isTokenChar (c : Char) : Bool := isNameChar c || symbols.contains c

/-- A blank stands in no token outside quotes. -/
theorem isTokenChar_of_isBlank {c : Char} (h : Text.isBlank c = true) : isTokenChar c = false := by
  have hall : (Text.blankRanges.all fun range =>
      (List.range (range.2 + 1 - range.1)).all fun step =>
        !isTokenChar (Char.ofNat (range.1 + step))) = true := by decide +kernel
  obtain ⟨range, hrange, hbounds⟩ := List.any_eq_true.1 h
  simp only [Bool.and_eq_true, decide_eq_true_eq] at hbounds
  have hstep : c.toNat - range.1 ∈ List.range (range.2 + 1 - range.1) := by
    rw [List.mem_range]
    omega
  have hblank := List.all_eq_true.1 (List.all_eq_true.1 hall range hrange) _ hstep
  rw [Nat.add_sub_cancel' hbounds.1, Char.ofNat_toNat] at hblank
  simpa using hblank

/-- A number has digits and points. -/
theorem isTokenChar_of_mem_numberBody {cs : List Char} :
    ∀ c ∈ numberBody cs, isTokenChar c = true := by
  induction cs with
  | nil => simp [numberBody]
  | cons d rest ih =>
    rw [numberBody]
    split
    · next h =>
      refine List.forall_mem_cons.2 ⟨?_, ih⟩
      rw [Bool.or_eq_true, Bool.and_eq_true, decide_eq_true_eq] at h
      rcases h with hdigit | ⟨rfl, -⟩
      · simp [isTokenChar, isNameChar_of_isDigit hdigit]
      · rfl
    · simp

/-- What stands behind an opening quote ends with the closing one. -/
theorem Quotes.exists_append {quote : Char} {body value : List Char} (h : Quotes quote body value) :
    ∃ inner, body = inner ++ [quote] := by
  induction h with
  | close => exact ⟨[], rfl⟩
  | escape c _ ih =>
    obtain ⟨inner, rfl⟩ := ih
    exact ⟨'\\' :: c :: inner, rfl⟩
  | @plain c _ _ _ _ _ ih =>
    obtain ⟨inner, rfl⟩ := ih
    exact ⟨c :: inner, rfl⟩

/-- A token has no other characters, unless it is a text in quotes. -/
theorem IsLexeme.isTokenChar_or_quotes {run after : List Char} {kind : Token.Kind}
    (h : IsLexeme run after (some kind)) : (∀ c ∈ run, isTokenChar c = true) ∨
      ∃ quote body value, (quote = '"' ∨ quote = '\'') ∧ Quotes quote body value ∧
        run = quote :: body := by
  cases h with
  | @mark sign hword _ =>
    refine .inl ?_
    cases sign with
    | trueWord | falseWord | nullWord => cases hword
    | _ => exact List.all_eq_true.1 (by decide)
  | @text quote hquote body value h => exact .inr ⟨quote, body, value, hquote, h, rfl⟩
  | @number c body _ _ hfirst hbody hvalue =>
    refine .inl (List.forall_mem_cons.2 ⟨?_, ?_⟩)
    · rcases hfirst with hdigit | ⟨rfl, -⟩
      · simp [isTokenChar, isNameChar_of_isDigit hdigit]
      · rfl
    · rw [← hbody]
      exact isTokenChar_of_mem_numberBody
  | word hall => exact .inl fun d hd => by simp [isTokenChar, hall d hd]

/-- A quote is a character of a token. -/
theorem isTokenChar_quote {quote : Char} (h : quote = '"' ∨ quote = '\'') :
    isTokenChar quote = true := by
  rcases h with rfl | rfl <;> rfl

/-- The first character of a token is none that only a text in quotes can have. -/
theorem IsLexeme.isTokenChar_first {c : Char} {body after : List Char} {kind : Token.Kind}
    (h : IsLexeme (c :: body) after (some kind)) : isTokenChar c = true := by
  rcases h.isTokenChar_or_quotes with hall | ⟨quote, _, _, hquote, -, hrun⟩
  · exact hall c List.mem_cons_self
  · rw [(List.cons.inj hrun).1]
    exact isTokenChar_quote hquote

/-- Neither is the last one. -/
theorem IsLexeme.isTokenChar_last {front after : List Char} {c : Char} {kind : Token.Kind}
    (h : IsLexeme (front ++ [c]) after (some kind)) : isTokenChar c = true := by
  rcases h.isTokenChar_or_quotes with hall | ⟨quote, _, _, hquote, hquotes, hrun⟩
  · exact hall c (by simp)
  · obtain ⟨inner, rfl⟩ := hquotes.exists_append
    rw [← List.cons_append] at hrun
    rw [(List.append_inj_right' hrun rfl |> List.cons.inj).1]
    exact isTokenChar_quote hquote

end Lexer

end ChatPrompt
