import ChatPrompt.Proofs.Spelling

/-!
# Paths as they are displayed

A path is displayed with its keys behind points, or in brackets and quotes, and its places in
brackets. What is displayed is a path again. Its places are those of the path: a place comes from a
number that was rounded to a double, and a double that is whole is read from its digits again,
except beyond the last place that can be counted, which is read as itself.

Its keys may be others. A key in quotes is displayed with more escapes than are read. A backslash
in front of a character that it gives no meaning is dropped, so of a zero, a carriage return or a
character that is displayed by its code point only what stands behind the backslash is left.
-/

namespace ChatPrompt

open Grammar Number

namespace Lexer

/-- A character that is read back where it is displayed between quotes. -/
def survives (c : Char) : Bool := c = '\t' || c = '\n' || Text.isPrintable c

/-- What is read where a character is displayed between quotes. An escape without a meaning loses
its backslash. -/
def reread (c : Char) : List Char := if survives c then [c] else (Text.quotedChar c).tail

/-- Characters that are neither a backslash nor the closing quote stand for themselves. -/
theorem Quotes.append {quote : Char} {cs : List Char} (hcs : ∀ c ∈ cs, c ≠ '\\' ∧ c ≠ quote)
    {body value : List Char} (h : Quotes quote body value) :
    Quotes quote (cs ++ body) (cs ++ value) := by
  induction cs with
  | nil => exact h
  | cons c rest ih =>
    obtain ⟨⟨hescape, hquote⟩, hrest⟩ := List.forall_mem_cons.1 hcs
    exact .plain hescape hquote (ih hrest)

/-- Neither stands among the digits of a number. -/
theorem ne_of_mem_toDigits (n : Nat) : ∀ c ∈ Nat.toDigits 16 n, c ≠ '\\' ∧ c ≠ '"' := by
  have hdigit : ∀ k < 16, Nat.digitChar k ≠ '\\' ∧ Nat.digitChar k ≠ '"' := by decide
  induction n using Nat.strongRecOn with
  | ind n ih =>
    rw [Nat.toDigits_eq_if (by decide)]
    split
    · next hsmall => exact List.forall_mem_singleton.2 (hdigit n hsmall)
    · refine List.forall_mem_append.2 ⟨ih _ (by omega), List.forall_mem_singleton.2 ?_⟩
      exact hdigit _ (Nat.mod_lt n (by decide))

/-- What is displayed for a character is read as it is said. -/
theorem quotes_quotedChar (c : Char) {body value : List Char} (h : Quotes '"' body value) :
    Quotes '"' (Text.quotedChar c ++ body) (reread c ++ value) := by
  by_cases hcontrol : c = '\x00' ∨ c = '\t' ∨ c = '\r' ∨ c = '\n' ∨ c = '\\' ∨ c = '"'
  · rcases hcontrol with rfl | rfl | rfl | rfl | rfl | rfl
    · exact .escape '0' h
    · exact .escape 't' h
    · exact .escape 'r' h
    · exact .escape 'n' h
    · exact .escape '\\' h
    · exact .escape '"' h
  · simp only [not_or] at hcontrol
    obtain ⟨hzero, htab, hreturn, hnewline, hescape, hquote⟩ := hcontrol
    rw [reread, survives, Text.quotedChar]
    simp only [hzero, htab, hreturn, hnewline, hescape, hquote, if_false, decide_false,
      Bool.false_or]
    split
    · exact .plain hescape hquote h
    · have hcode : ∀ d ∈ ['\x7b'] ++ Nat.toDigits 16 c.toNat ++ ['\x7d'], d ≠ '\\' ∧ d ≠ '"' := by
        simp only [List.forall_mem_append, List.forall_mem_singleton]
        exact ⟨⟨by decide, ne_of_mem_toDigits _⟩, by decide⟩
      exact .escape 'u' (Quotes.append hcode h)

/-- What is displayed for a text is a text in quotes. -/
theorem quotes_flatMap_quotedChar (cs : List Char) :
    Quotes '"' (cs.flatMap Text.quotedChar ++ ['"']) (cs.flatMap reread) := by
  induction cs with
  | nil => exact .close
  | cons c rest ih =>
    rw [List.flatMap_cons, List.flatMap_cons, List.append_assoc]
    exact quotes_quotedChar c ih

/-- A character that is not read back is read as one that would be, or more. -/
theorem reread_eq_cons {c : Char} (h : survives c = false) :
    ∃ d rest, reread c = d :: rest ∧ survives d = true := by
  rw [reread, h, Text.quotedChar]
  by_cases hcontrol : c = '\x00' ∨ c = '\r'
  · rcases hcontrol with rfl | rfl <;> exact ⟨_, _, rfl, by decide +kernel⟩
  · simp only [not_or] at hcontrol
    have hprintable : Text.isPrintable '\\' = true ∧ Text.isPrintable '"' = true := by
      decide +kernel
    simp only [survives, Bool.or_eq_false_iff, decide_eq_false_iff_not] at h
    have hescape : c ≠ '\\' := by rintro rfl; simp [hprintable] at h
    have hquote : c ≠ '"' := by rintro rfl; simp [hprintable] at h
    simp only [hcontrol, h, hescape, hquote, if_false, Bool.false_eq_true]
    exact ⟨'u', _, rfl, by decide +kernel⟩

/-- A text is read back exactly if all of its characters are. -/
theorem flatMap_reread_eq_iff {cs : List Char} :
    cs.flatMap reread = cs ↔ ∀ c ∈ cs, survives c = true := by
  induction cs with
  | nil => simp
  | cons c rest ih =>
    rw [List.flatMap_cons, List.forall_mem_cons, ← ih]
    cases hc : survives c with
    | true => simp [reread, hc]
    | false =>
      obtain ⟨d, others, hreread, hd⟩ := reread_eq_cons hc
      have hne : d ≠ c := by
        rintro rfl
        rw [hc] at hd
        cases hd
      simp [hreread, hne]

end Lexer

namespace Segment

/-- The step that is read where a step is displayed. -/
def reread : Segment → Segment
  | .key name =>
    .key (if isPlainName name then name else String.ofList (name.toList.flatMap Lexer.reread))
  | .index place => .index place

/-- A step that is read back where it is displayed: a place, or a key that stands behind a point or
has only characters that are read back. -/
def Survives : Segment → Prop
  | .key name => isPlainName name = true ∨ ∀ c ∈ name.toList, Lexer.survives c = true
  | .index _ => True

/-- A step whose place, if it is one, is read back from its digits. -/
def Counted : Segment → Prop
  | .key _ => True
  | .index place => ∃ value, floatOfText? (Nat.toDigits 10 place) = some value ∧ Places value place

/-- A step is read as itself exactly if it is read back. -/
theorem reread_eq_iff (segment : Segment) : segment.reread = segment ↔ segment.Survives := by
  cases segment with
  | index place => simp [reread, Survives]
  | key name =>
    by_cases hplain : isPlainName name = true
    · simp [reread, Survives, hplain]
    · rw [reread, Survives, if_neg hplain, or_iff_right hplain, ← Lexer.flatMap_reread_eq_iff]
      rw [Segment.key.injEq, ← String.toList_inj, String.toList_ofList]

/-- A number that names a place is read back from the digits of the place. -/
theorem counted_index {value : Extended} {place : Nat} (hgrid : value.OnGrid)
    (h : Places value place) : (Segment.index place).Counted := by
  obtain ⟨x, rfl, hwhole, hsign, hplace⟩ := h
  have hdigits := floatOfText?_digits Nat.toDigits_ne_nil (digits_toDigits place)
  rw [digitsValue_toDigits] at hdigits
  refine ⟨_, hdigits, ?_⟩
  by_cases hlast : x.floorMagnitude < placeLimit
  · have hunits : place * Format.binary64.one = x.units := by
      rw [hplace, Nat.min_eq_left (Nat.le_sub_one_of_lt hlast)]
      exact Nat.div_mul_cancel (Nat.dvd_of_mod_eq_zero (beq_iff_eq.1 hwhole))
    have hbound : place < 2 ^ 64 := by
      rw [hplace]
      exact Nat.lt_of_le_of_lt (Nat.min_le_right _ _) (by decide)
    have hread := ofDecimal_whole false (by rw [hunits]; exact hgrid x rfl) hbound
    rw [hread, hunits]
    exact ⟨_, rfl, hwhole, Int.natCast_nonneg _, hplace⟩
  · have hplace : place = placeLimit - 1 := by
      rw [hplace]
      exact Nat.min_eq_right (by omega)
    have hread : Extended.ofDecimal false (placeLimit - 1) 0 =
        .finite ⟨false, placeLimit * Format.binary64.one⟩ := by decide +kernel
    rw [hplace, hread]
    exact ⟨_, rfl, by decide +kernel, by decide +kernel, by decide +kernel⟩

/-- A step that is displayed is read as a step, if no character of a name stands behind it. -/
theorem lexes_text {segment : Segment} (h : segment.Counted) {after : List Char}
    (hafter : ∀ c ∈ after.head?, isNameChar c = false) :
    ∃ kinds, Lexer.Lexes segment.text.toList kinds after ∧ Step kinds segment.reread := by
  cases segment with
  | key name =>
    by_cases hplain : isPlainName name = true
    · have htext : (Segment.key name).text.toList = ['.'] ++ name.toList := by
        rw [text, if_pos hplain, String.toList_append]
        rfl
      rw [htext, reread, if_pos hplain]
      exact ⟨_, (Lexer.lexes_dot _).append (Lexer.lexes_word hplain hafter), .key (word_word name)⟩
    · have htext : (Segment.key name).text.toList =
          ['['] ++ ('"' :: (name.toList.flatMap Text.quotedChar ++ ['"']) ++ [']']) := by
        rw [text, if_neg hplain, String.toList_append, String.toList_append, Text.quoted,
          String.toList_ofList]
        simp
      have hquotes := Lexer.IsLexeme.text (.inl rfl) (Lexer.quotes_flatMap_quotedChar name.toList)
        ([']'] ++ after)
      rw [htext, reread, if_neg hplain]
      exact ⟨_, (Lexer.lexes_openBracket _).append
        (hquotes.lexes.append (Lexer.lexes_closeBracket _)), .keyInside _⟩
  | index place =>
    obtain ⟨value, hvalue, hplace⟩ := h
    have hnumber : Lexer.Lexes (Nat.toDigits 10 place) [.number value] ([']'] ++ after) :=
      Lexer.lexes_digits Nat.toDigits_ne_nil (digits_toDigits place) rfl hvalue
    have htext : (Segment.index place).text.toList = ['['] ++ (Nat.toDigits 10 place ++ [']']) := by
      have hdigits : (toString place).toList = Nat.toDigits 10 place := Nat.toList_repr
      rw [text, String.toList_append, String.toList_append, hdigits]
      simp
    rw [htext, reread]
    exact ⟨_, (Lexer.lexes_openBracket _).append (hnumber.append (Lexer.lexes_closeBracket _)),
      .placeInside hplace⟩

/-- A step is displayed with a point or a bracket in front. -/
theorem exists_text_eq_cons (segment : Segment) :
    ∃ c rest, segment.text.toList = c :: rest ∧ isNameChar c = false := by
  cases segment with
  | key name =>
    by_cases hplain : isPlainName name = true
    · exact ⟨'.', name.toList, by rw [text, if_pos hplain, String.toList_append]; rfl, by decide⟩
    · refine ⟨'[', (Text.quoted name).toList ++ [']'], ?_, by decide⟩
      rw [text, if_neg hplain, String.toList_append, String.toList_append]
      rfl
  | index place =>
    refine ⟨'[', (toString place).toList ++ [']'], ?_, by decide⟩
    rw [text, String.toList_append, String.toList_append]
    rfl

/-- Steps one behind the other, as they are displayed. -/
def texts (segments : List Segment) : List Char :=
  segments.flatMap fun segment => segment.text.toList

/-- No character of a name stands in front. -/
theorem isNameChar_head_texts {segments : List Segment} :
    ∀ c ∈ (texts segments).head?, isNameChar c = false := by
  cases segments with
  | nil => simp [texts]
  | cons segment _ =>
    obtain ⟨c, inner, htext, hc⟩ := exists_text_eq_cons segment
    simp [texts, htext, hc]

/-- Steps that are displayed are read one by one. -/
theorem lexes_texts {segments : List Segment} (h : ∀ segment ∈ segments, segment.Counted) :
    ∃ kinds, Lexer.Lexes (texts segments) kinds [] ∧ Steps kinds (segments.map reread) := by
  induction segments with
  | nil => exact ⟨[], Lexer.lexes_nil [], .nil⟩
  | cons segment rest ih =>
    obtain ⟨hsegment, hrest⟩ := List.forall_mem_cons.1 h
    obtain ⟨others, hothers, hsteps⟩ := ih hrest
    obtain ⟨kinds, hkinds, hstep⟩ := lexes_text hsegment isNameChar_head_texts
    rw [← List.append_nil (texts rest)] at hkinds
    exact ⟨kinds ++ others, hkinds.append hothers, .cons hstep hsteps⟩

/-- Steps whose numbers are on the grid have places that are read back. -/
theorem counted_of_steps {kinds : List Token.Kind} {segments : List Segment}
    (h : Steps kinds segments) (hgrid : ∀ value, .number value ∈ kinds → value.OnGrid) :
    ∀ segment ∈ segments, segment.Counted := by
  induction h with
  | nil => simp
  | cons hfirst _ ih =>
    have hcounted := ih fun value hvalue => hgrid value (List.mem_append_right _ hvalue)
    refine List.forall_mem_cons.2 ⟨?_, hcounted⟩
    cases hfirst with
    | key | keyInside => trivial
    | place hplace | placeInside hplace => exact counted_index (hgrid _ (by simp)) hplace

end Segment

namespace Path

/-- The path that is read where a path is displayed. -/
def reread (path : Path) : Path := ⟨path.head, path.segments.map Segment.reread⟩

/-- A path is read as itself exactly if its steps are. -/
theorem reread_eq_iff (path : Path) :
    path.reread = path ↔ ∀ segment ∈ path.segments, segment.Survives := by
  have hsteps : path.segments.map Segment.reread = path.segments.map id ↔
      ∀ segment ∈ path.segments, segment.reread = segment := List.map_inj_left
  rw [List.map_id] at hsteps
  simp only [← Segment.reread_eq_iff, ← hsteps]
  cases path with
  | mk head segments => simp [reread]

/-- A path that was read has a name for its head and places that are read back. -/
theorem counted_of_ofText {source : String} {path : Path} (h : ofText source = .ok path) :
    isPlainName path.head = true ∧ path.head ∉ ["true", "false", "null"] ∧
      ∀ segment ∈ path.segments, segment.Counted := by
  obtain ⟨kinds, hkinds, hsteps⟩ := ofText_eq_ok_iff.1 h
  obtain ⟨ts, hscans, hts⟩ := Lexer.hasKinds_iff.1 hkinds
  have hlexeme : ∀ kind ∈ Token.Kind.name path.head :: kinds,
      ∃ run after, Lexer.IsLexeme run after (some kind) := by
    rw [← hts]
    intro kind hkind
    obtain ⟨token, htoken, rfl⟩ := List.mem_map.1 hkind
    exact hscans.exists_isLexeme htoken
  obtain ⟨_, _, hhead⟩ := hlexeme _ List.mem_cons_self
  obtain ⟨hplain, hmeaning⟩ := hhead.isPlainName
  refine ⟨hplain, hmeaning, Segment.counted_of_steps hsteps fun value hvalue => ?_⟩
  obtain ⟨_, _, hnumber⟩ := hlexeme _ (List.mem_cons_of_mem _ hvalue)
  exact onGrid_of_floatOfText? hnumber.floatOfText?_eq

/-- What is displayed for a path that was read is a path again, with the same head and the same
places. It is the same path exactly if every key stands behind a point or has only characters that
are read back. -/
theorem ofText_text {source : String} {path : Path} (h : ofText source = .ok path) :
    ofText path.text = .ok path.reread ∧
      (ofText path.text = .ok path ↔ ∀ segment ∈ path.segments, segment.Survives) := by
  obtain ⟨hplain, hmeaning, hcounted⟩ := counted_of_ofText h
  obtain ⟨kinds, hlexes, hsteps⟩ := Segment.lexes_texts hcounted
  have htext : path.text.toList = path.head.toList ++ Segment.texts path.segments := by
    simp [text, Segment.texts, List.flatMap_map]
  have hread : ofText path.text = .ok path.reread := by
    have hhead : Lexer.Lexes path.head.toList [Lexer.word path.head.toList]
        (Segment.texts path.segments) := Lexer.lexes_word hplain Segment.isNameChar_head_texts
    rw [Lexer.word_eq_name hmeaning, ← List.append_nil (Segment.texts _)] at hhead
    refine ofText_eq_ok_iff.2 ⟨kinds, ?_, hsteps⟩
    have hall := ((hhead.append hlexes) 0 _).2 ⟨[], Lexer.hasKinds_nil_iff.2 rfl, rfl⟩
    rwa [List.append_nil, List.append_nil, ← htext] at hall
  refine ⟨hread, ?_⟩
  rw [hread, Except.ok.injEq, reread_eq_iff]

end Path

namespace Sample

/-- Steps whose keys are displayed with escapes, behind a point and in brackets. -/
def escapedSteps : List Spelling :=
  [.quotedKey "\t\"é", .dottedPlace 12 (by decide), .dottedKey "false" (by decide)]

/-- The path with these steps, whatever its spelling. -/
def escapedPath : Path := ⟨"a", [.key "\t\"é", .index 12, .key "false"]⟩

/-- It is displayed with these escapes, and read back. -/
theorem ofText_text_escapedPath :
    Path.ofText (Spelling.text "a" escapedSteps) = .ok escapedPath ∧
      escapedPath.text = "a[\"\\t\\\"é\"][12].false" ∧
      Path.ofText escapedPath.text = .ok escapedPath := by
  have hread : Path.ofText (Spelling.text "a" escapedSteps) = .ok escapedPath := by
    obtain ⟨kinds, hkinds, hsteps⟩ := (Spelling.reads_spelled_iff _).2
      (show Spelling.Apart escapedSteps by decide)
    exact Path.ofText_eq_ok_iff.2
      ⟨kinds, (Spelling.hasKinds_text_iff (by decide) (by decide) _).2 ⟨_, hkinds, rfl⟩, hsteps⟩
  refine ⟨hread, by decide +kernel, (Path.ofText_text hread).2.2 ?_⟩
  have hkey : ∀ c ∈ "\t\"é".toList, Lexer.survives c = true :=
    List.all_eq_true.1 (by decide +kernel)
  simp only [escapedPath, List.forall_mem_cons]
  exact ⟨.inr hkey, trivial, .inl (by decide), by simp⟩

/-- A carriage return in a key is displayed as an escape that is not read, so another path is. -/
theorem exists_key_changed :
    Path.ofText "a[\"\r\"]" = .ok ⟨"a", [.key "\r"]⟩ ∧
      (⟨"a", [.key "\r"]⟩ : Path).text = "a[\"\\r\"]" ∧
      Path.ofText "a[\"\\r\"]" = .ok ⟨"a", [.key "r"]⟩ ∧
      Path.ofText "a[\"\\r\"]" ≠ .ok ⟨"a", [.key "\r"]⟩ := by
  have hread : Path.ofText "a[\"\\r\"]" = .ok ⟨"a", [.key "r"]⟩ := by decide +kernel
  refine ⟨by decide +kernel, by decide +kernel, hread, ?_⟩
  rw [hread]
  decide

end Sample

end ChatPrompt
