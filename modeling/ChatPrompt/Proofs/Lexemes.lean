import ChatPrompt.Expr.Lexer
import ChatPrompt.Proofs.Decimals

/-!
# Reading tokens one after the other

Where a token ends is decided by the characters behind it, and nothing else of them matters. So a
run of characters is read as tokens of its own, with given characters behind it, if whatever these
are read as comes behind those tokens. Runs that stand one behind the other are then read one by
one. What a token is does not depend on where it starts, so the tokens are told by their kinds.

A word needs a character behind it that belongs to no name. Digits take every point that a digit
follows along with them.
-/

namespace ChatPrompt.Lexer

open Number

/-- Some characters that start at an offset are read as tokens of these kinds. -/
def HasKinds (offset : Nat) (cs : List Char) (kinds : List Token.Kind) : Prop :=
  ∃ ts, tokensFrom offset cs = .ok ts ∧ ts.map Token.kind = kinds

/-- A run of characters is read as tokens of these kinds, and the characters behind it for
themselves. -/
def Lexes (run : List Char) (kinds : List Token.Kind) (after : List Char) : Prop :=
  ∀ offset all, HasKinds offset (run ++ after) all ↔
    ∃ others, HasKinds (offset + Text.byteSize run) after others ∧ all = kinds ++ others

section

variable {offset : Nat} {c : Char} {rest run after : List Char} {kind : Token.Kind}
  {kinds : List Token.Kind}

theorem hasKinds_nil_iff : HasKinds offset [] kinds ↔ kinds = [] := by
  rw [HasKinds, tokensFrom]
  simp [eq_comm]

/-- A token comes before the tokens of what it leaves. -/
theorem hasKinds_cons_iff {found : Lexeme rest} (h : lexeme offset c rest = .ok found)
    (hkind : found.kind = some kind) :
    HasKinds offset (c :: rest) kinds ↔ ∃ others,
      HasKinds (offset + Text.byteSize (c :: found.body)) found.after others ∧
        kinds = [kind] ++ others := by
  rw [HasKinds, tokensFrom, h]
  dsimp only
  rw [hkind]
  cases htail : tokensFrom (offset + Text.byteSize (c :: found.body)) found.after with
  | error e => simp [HasKinds, htail]
  | ok ts => simp [HasKinds, htail, eq_comm]

/-- Where the first characters are no token, there are no tokens. -/
theorem not_hasKinds_of_error {e : SyntaxError} (h : lexeme offset c rest = .error e) :
    ¬ HasKinds offset (c :: rest) kinds := by
  rw [HasKinds, tokensFrom, h]
  simp

theorem lexes_nil (after : List Char) : Lexes [] [] after := fun _ _ => by simp [Text.byteSize_nil]

/-- Two runs one behind the other are read one by one. -/
theorem Lexes.append {second : List Char} {more : List Token.Kind}
    (hrun : Lexes run kinds (second ++ after)) (hsecond : Lexes second more after) :
    Lexes (run ++ second) (kinds ++ more) after := by
  intro offset all
  rw [List.append_assoc, hrun offset all, Text.byteSize_append, ← Nat.add_assoc]
  constructor
  · rintro ⟨others, hothers, rfl⟩
    obtain ⟨last, hlast, rfl⟩ := (hsecond _ _).1 hothers
    exact ⟨last, hlast, (List.append_assoc _ _ _).symm⟩
  · rintro ⟨last, hlast, rfl⟩
    exact ⟨more ++ last, (hsecond _ _).2 ⟨last, hlast, rfl⟩, List.append_assoc _ _ _⟩

end

/-- A character between double quotes: a backslash stands before a backslash and a quote. -/
def escaped (c : Char) : List Char := if c = '\\' ∨ c = '"' then ['\\', c] else [c]

/-- The closing quote ends a text. -/
theorem inside?_close (quote : Char) (h : quote ≠ '\\') (rest : List Char) :
    inside? quote (quote :: rest) = some ⟨[], [quote], rest, rfl⟩ := by
  cases rest <;> simp [inside?, h]

/-- A backslash takes the character behind it along. -/
theorem inside?_escape {quote c : Char} {rest : List Char} {tail : Inside rest}
    (h : inside? quote rest = some tail) : inside? quote ('\\' :: c :: rest) =
      some ⟨unescaped c :: tail.value, '\\' :: c :: tail.body, tail.after,
        by simp [tail.whole]⟩ := by
  simp [inside?, h]

/-- Any other character stands for itself. -/
theorem inside?_plain {quote c : Char} {rest : List Char} {tail : Inside rest}
    (hescape : c ≠ '\\') (hquote : c ≠ quote) (h : inside? quote rest = some tail) :
    inside? quote (c :: rest) =
      some ⟨c :: tail.value, c :: tail.body, tail.after, by simp [tail.whole]⟩ := by
  cases rest with
  | nil => cases h
  | cons next others => simp [inside?, hescape, hquote, h]

/-- The characters that start a token or stand between tokens, and belong to no name. -/
def marks : List Char :=
  [' ', '\t', '\n', '\r', '(', ')', '[', ']', '.', '"', '\'', '>', '<', '=', '!', '&', '|', '-']

/-- A character of a name is none of them. -/
theorem not_mem_marks {c : Char} (h : isNameChar c = true) : c ∉ marks := by
  have hmarks : marks.all (fun mark => !isNameChar mark) = true := by decide
  intro hmem
  have hmark := List.all_eq_true.1 hmarks c hmem
  rw [h] at hmark
  cases hmark

/-- A digit is a character of a name. -/
theorem isNameChar_of_isDigit {c : Char} (h : c.isDigit = true) : isNameChar c = true := by
  have hascii : c.toNat < 128 := by
    simp only [Char.isDigit, Bool.and_eq_true, decide_eq_true_eq] at h
    exact Nat.lt_of_le_of_lt (UInt32.le_iff_toNat_le.1 h.2) (by decide)
  simp [isNameChar, Text.isAlphanumeric, hascii, Char.isAlphanum, h]

/-- A character of a name that is no digit starts a word. -/
theorem lexeme_word {c : Char} (h : isNameChar c = true) (hdigit : c.isDigit = false)
    (offset : Nat) (rest : List Char) :
    lexeme offset c rest = .ok ⟨some (word (c :: rest.takeWhile isNameChar)),
      rest.takeWhile isNameChar, rest.dropWhile isNameChar, List.takeWhile_append_dropWhile⟩ := by
  have hmarks := not_mem_marks h
  simp only [marks, List.mem_cons, List.not_mem_nil, or_false, not_or] at hmarks
  simp [lexeme, hmarks, hdigit, h]

/-- A word without a meaning of its own is a name. -/
theorem word_eq_name {name : String} (h : name ∉ ["true", "false", "null"]) :
    word name.toList = .name name := by
  obtain ⟨text, rfl⟩ : ∃ text, name = String.ofList text := ⟨_, String.ofList_toList.symm⟩
  rw [String.toList_ofList, word, if_neg, if_neg, if_neg]
  all_goals
    rintro rfl
    exact h (by decide)

/-- A digit starts a number with all that belongs to it, and so does a minus sign in front of one. If
that is no number, it is an error. -/
theorem lexeme_numeric (offset : Nat) {c : Char} (rest : List Char)
    (hc : c.isDigit = true ∨ c = '-' ∧ rest.head?.any Char.isDigit = true) :
    lexeme offset c rest = match floatOfText? (c :: numberBody rest) with
      | some value => .ok ⟨some (.number value), numberBody rest,
          rest.drop (numberBody rest).length, numberBody_append_drop rest⟩
      | none => .error ⟨offset, .invalidNumber (String.ofList (c :: numberBody rest))⟩ := by
  rcases hc with hdigit | ⟨rfl, hdigit⟩
  · have hmarks := not_mem_marks (isNameChar_of_isDigit hdigit)
    simp only [marks, List.mem_cons, List.not_mem_nil, or_false, not_or] at hmarks
    cases hvalue : floatOfText? (c :: numberBody rest) <;> simp [lexeme, hmarks, hdigit, hvalue]
  · cases hvalue : floatOfText? ('-' :: numberBody rest) <;> simp [lexeme, hdigit, hvalue]

section

variable {digits : List Char}

/-- Digits belong to a number. -/
theorem numberBody_append (h : ∀ c ∈ digits, c.isDigit = true) (cs : List Char) :
    numberBody (digits ++ cs) = digits ++ numberBody cs := by
  induction digits with
  | nil => rfl
  | cons c rest ih =>
    have hrest := ih fun d hd => h d (List.mem_cons_of_mem _ hd)
    simp [numberBody, h c List.mem_cons_self, hrest]

/-- A point belongs to a number if a digit follows it. -/
theorem numberBody_dot {cs : List Char} (h : cs.head?.any Char.isDigit = true) :
    numberBody ('.' :: cs) = '.' :: numberBody cs := by
  simp [numberBody, h]

/-- A point that no digit follows ends a number. -/
theorem numberBody_dot_eq_nil {cs : List Char} (h : cs.head?.any Char.isDigit = false) :
    numberBody ('.' :: cs) = [] := by
  have hpoint : ('.' : Char).isDigit = false := by decide
  simp [numberBody, h, hpoint]

/-- Digits are read as a number together with all that belongs to it, if that is a number. -/
theorem hasKinds_digits_iff (hne : digits ≠ []) (h : ∀ c ∈ digits, c.isDigit = true) {offset : Nat}
    {cs : List Char} {kinds : List Token.Kind} :
    HasKinds offset (digits ++ cs) kinds ↔
      ∃ value, floatOfText? (digits ++ numberBody cs) = some value ∧ ∃ others,
        HasKinds (offset + Text.byteSize (digits ++ numberBody cs))
          (cs.drop (numberBody cs).length) others ∧ kinds = [.number value] ++ others := by
  obtain ⟨c, run, rfl⟩ := List.exists_cons_of_ne_nil hne
  have hbody := numberBody_append (fun d hd => h d (List.mem_cons_of_mem _ hd)) cs
  have hdigit := h c List.mem_cons_self
  have hafter : (run ++ cs).drop (numberBody (run ++ cs)).length =
      cs.drop (numberBody cs).length := by
    rw [hbody, List.length_append, List.drop_length_add_append]
  have hlexeme := lexeme_numeric offset (run ++ cs) (.inl hdigit)
  rw [List.cons_append, List.cons_append, ← hbody, ← hafter]
  cases hvalue : floatOfText? (c :: numberBody (run ++ cs)) with
  | none =>
    rw [hvalue] at hlexeme
    simp [not_hasKinds_of_error hlexeme]
  | some value =>
    rw [hvalue] at hlexeme
    rw [hasKinds_cons_iff hlexeme rfl]
    simp

end

end ChatPrompt.Lexer
