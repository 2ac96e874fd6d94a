import ChatPrompt.Proofs.Parsing
import ChatPrompt.Proofs.Scanning
import Mathlib.Data.List.Chain

/-!
# Paths as they are spelled

A step of a path can be spelled in several ways: a key behind a point or in brackets and quotes, a
place behind a point or in brackets. A point is also what stands between the digits of a number,
and numbers are read before anything is known of paths. So a place behind a point takes every
further place behind a point along, and what was spelled as two steps or more is at most one.

A path is read as the steps that were spelled exactly if no place behind a point directly follows
another. In one direction the tokens of the steps are read one by one. In the other direction steps
are counted: every step starts with a point or a bracket of its own, and a number that takes several
places together has swallowed the points between them.
-/

namespace ChatPrompt

open Grammar Number

namespace Grammar

/-- A word is a key behind a point. -/
theorem word_word (name : String) : Word (Lexer.word name.toList) name := by
  obtain ⟨text, rfl⟩ : ∃ text, name = String.ofList text := ⟨_, String.ofList_toList.symm⟩
  rw [String.toList_ofList]
  unfold Lexer.word
  split
  · next h => rw [h]; exact .trueWord
  · split
    · next h => rw [h]; exact .falseWord
    · split
      · next h => rw [h]; exact .nullWord
      · exact .name _

/-- A whole number of at most 53 bits names a place. -/
theorem places_exactWhole {place : Nat} (h : place < 2 ^ 53) :
    Places (exactWhole place) place := by
  have hone := Format.binary64.one_pos
  have hfloor : Double.floorMagnitude ⟨false, place * Format.binary64.one⟩ = place :=
    Nat.mul_div_cancel place hone
  have hwhole : place * Format.binary64.one % Format.binary64.one = 0 := Nat.mul_mod_left _ _
  refine ⟨_, rfl, ?_, Int.natCast_nonneg _, ?_⟩
  · rw [Double.isWhole, hwhole]
    rfl
  · have hlimit : place ≤ Segment.placeLimit - 1 :=
      Nat.le_trans (Nat.le_of_lt h) (by decide)
    rw [hfloor, Nat.min_eq_left hlimit]

/-- A token that starts a step. -/
def startsStep (kind : Token.Kind) : Bool := kind = .mark .dot || kind = .mark .openBracket

/-- A step has one token that starts it. -/
theorem countP_startsStep_step {kinds : List Token.Kind} {segment : Segment}
    (h : Step kinds segment) : kinds.countP startsStep = 1 := by
  cases h with
  | key hword => cases hword <;> rfl
  | place | keyInside | placeInside => rfl

/-- There are as many steps as tokens that start one. -/
theorem countP_startsStep {kinds : List Token.Kind} {segments : List Segment}
    (h : Steps kinds segments) : kinds.countP startsStep = segments.length := by
  induction h with
  | nil => rfl
  | cons hfirst _ ih =>
    rw [List.countP_append, countP_startsStep_step hfirst, ih, List.length_cons, Nat.add_comm]

/-- A phrase that starts with a name and is a path consists of that name and its steps. -/
theorem steps_of_derives {phrase : Phrase} {kinds : List Token.Kind} {head : String}
    {path : Path} (h : Derives phrase (.name head :: kinds) (.path path)) :
    Steps kinds path.segments := by
  generalize hkinds : Token.Kind.name head :: kinds = all at h
  generalize he : Expr.path path = e at h
  induction h with
  | expression _ ih | conjunction _ ih | comparison _ ih | unary _ ih => exact ih hkinds he
  | or | and | compare | not | literal => cases he
  | path name hsteps =>
    cases he
    cases hkinds
    exact hsteps
  | parenthesis => cases hkinds

/-- A name and steps are a path as an expression. -/
theorem derives_path {kinds : List Token.Kind} {segments : List Segment} (head : String)
    (h : Steps kinds segments) :
    Derives .expression (.name head :: kinds) (.path ⟨head, segments⟩) :=
  .expression (.conjunction (.comparison (.unary (.path head h))))

end Grammar

namespace Path

/-- Tokens are a path if they are a name and steps. -/
theorem ofTokens_eq_ok_iff (finish : Nat) {ts : List Token} {path : Path} :
    ofTokens finish ts = .ok path ↔
      ∃ kinds, ts.map Token.kind = .name path.head :: kinds ∧ Steps kinds path.segments := by
  constructor
  · intro h
    unfold ofTokens at h
    split at h
    · next head offset rest =>
      cases hsteps : Parser.segments finish rest with
      | error e => rw [hsteps] at h; cases h
      | ok steps =>
        obtain ⟨segments, left, shorter⟩ := steps
        rw [hsteps] at h
        cases left with
        | cons token others => cases h
        | nil =>
          cases h
          obtain ⟨used, rfl, hderives⟩ := Parser.segments_sound ⟨shorter, hsteps⟩
          exact ⟨used.map Token.kind, by simp, hderives⟩
    · cases h
  · rintro ⟨kinds, hkinds, hsteps⟩
    obtain ⟨offset, rest, rfl, rfl⟩ := Parser.map_kind_eq_cons_iff.1 hkinds
    have hread : Parser.Reads (Parser.segments finish (rest ++ [])) path.segments [] :=
      Parser.segments_complete hsteps (by simp)
    rw [List.append_nil] at hread
    obtain ⟨shorter, hread⟩ := hread
    rw [ofTokens, hread]

/-- A text is a path if its tokens are a name and steps. -/
theorem ofText_eq_ok_iff {text : String} {path : Path} :
    ofText text = .ok path ↔ ∃ kinds, Lexer.HasKinds 0 text.toList (.name path.head :: kinds) ∧
      Steps kinds path.segments := by
  rw [ofText, Token.ofText]
  cases htokens : Lexer.tokensFrom 0 text.toList with
  | error e => simp [Lexer.HasKinds, htokens, Except.bind]
  | ok ts => simp [Lexer.HasKinds, htokens, Except.bind, ofTokens_eq_ok_iff]

end Path

/-- A text is an expression if its tokens derive it. -/
theorem Expr.ofText_eq_ok_iff {text : String} {e : Expr} :
    Expr.ofText text = .ok e ↔
      ∃ kinds, Lexer.HasKinds 0 text.toList kinds ∧ Derives .expression kinds e := by
  rw [Expr.ofText, Token.ofText]
  cases htokens : Lexer.tokensFrom 0 text.toList with
  | error e => simp [Lexer.HasKinds, htokens, Except.bind]
  | ok ts => simp [Lexer.HasKinds, htokens, Except.bind, Expr.ofTokens_eq_ok_iff_derives]

/-- A step of a path and a way to write it. -/
inductive Spelling where
  /-- A key behind a point. -/
  | dottedKey (name : String) (plain : isPlainName name = true)
  /-- A key in brackets and quotes. -/
  | quotedKey (name : String)
  /-- A place behind a point. -/
  | dottedPlace (place : Nat) (small : place < 2 ^ 53)
  /-- A place in brackets. -/
  | bracketedPlace (place : Nat) (small : place < 2 ^ 53)

namespace Spelling

/-- The step that is meant. -/
def segment : Spelling → Segment
  | .dottedKey name _ => .key name
  | .quotedKey name => .key name
  | .dottedPlace place _ => .index place
  | .bracketedPlace place _ => .index place

/-- The step as it is written. -/
def chars : Spelling → List Char
  | .dottedKey name _ => ['.'] ++ name.toList
  | .quotedKey name => ['['] ++ ('"' :: (name.toList.flatMap Lexer.escaped ++ ['"']) ++ [']'])
  | .dottedPlace place _ => ['.'] ++ Nat.toDigits 10 place
  | .bracketedPlace place _ => ['['] ++ (Nat.toDigits 10 place ++ [']'])

/-- The tokens of the step, where it is read for itself. -/
def kinds : Spelling → List Token.Kind
  | .dottedKey name _ => [.mark .dot] ++ [Lexer.word name.toList]
  | .quotedKey name => [.mark .openBracket] ++ ([.text name] ++ [.mark .closeBracket])
  | .dottedPlace place _ => [.mark .dot] ++ [.number (exactWhole place)]
  | .bracketedPlace place _ =>
    [.mark .openBracket] ++ ([.number (exactWhole place)] ++ [.mark .closeBracket])

/-- Whether the step is a place behind a point. -/
def isDottedPlace : Spelling → Bool
  | .dottedPlace _ _ => true
  | _ => false

/-- What is written is the step that is meant. -/
theorem step_kinds (step : Spelling) : Step step.kinds step.segment := by
  cases step with
  | dottedKey name plain => exact .key (word_word name)
  | quotedKey name => exact .keyInside name
  | dottedPlace place small => exact .place (places_exactWhole small)
  | bracketedPlace place small => exact .placeInside (places_exactWhole small)

/-- A step is read for itself, if no character of a name stands behind it and, where it is a place
behind a point, nothing that belongs to a number. -/
theorem lexes_chars (step : Spelling) {after : List Char}
    (hname : ∀ c ∈ after.head?, isNameChar c = false)
    (hnumber : step.isDottedPlace = true → Lexer.numberBody after = []) :
    Lexer.Lexes step.chars step.kinds after := by
  cases step with
  | dottedKey name plain => exact (Lexer.lexes_dot _).append (Lexer.lexes_word plain hname)
  | quotedKey name =>
    have htext := Lexer.lexes_text name.toList ([']'] ++ after)
    rw [String.ofList_toList] at htext
    exact (Lexer.lexes_openBracket _).append (htext.append (Lexer.lexes_closeBracket _))
  | dottedPlace place small =>
    exact (Lexer.lexes_dot _).append (Lexer.lexes_toDigits small (hnumber rfl))
  | bracketedPlace place small =>
    exact (Lexer.lexes_openBracket _).append
      ((Lexer.lexes_toDigits small rfl).append (Lexer.lexes_closeBracket _))

/-- Steps as they are written, one behind the other. -/
def spell (steps : List Spelling) : List Char := steps.flatMap Spelling.chars

/-- No place behind a point directly follows another. -/
def Apart (steps : List Spelling) : Prop :=
  steps.IsChain fun step next => ¬ (step.isDottedPlace = true ∧ next.isDottedPlace = true)

/-- Whether steps are apart can be decided. -/
instance (steps : List Spelling) : Decidable (Apart steps) :=
  inferInstanceAs (Decidable (List.IsChain _ steps))

section

variable {steps : List Spelling}

/-- Steps are written with a point or a bracket in front. -/
theorem isNameChar_head_spell : ∀ c ∈ (spell steps).head?, isNameChar c = false := by
  cases steps with
  | nil => simp [spell]
  | cons step rest =>
    cases step <;> simp [spell, Spelling.chars] <;> decide

/-- What a number in front of steps takes along are the places behind points that they begin with.
-/
theorem numberBody_spell (steps : List Spelling) :
    Lexer.numberBody (spell steps) = spell (steps.takeWhile Spelling.isDottedPlace) := by
  induction steps with
  | nil => rfl
  | cons step rest ih =>
    cases step with
    | quotedKey name => rfl
    | bracketedPlace place small => rfl
    | dottedKey name plain =>
      have hfirst : (name.toList ++ spell rest).head?.any Char.isDigit = false := by
        rw [isPlainName] at plain
        cases hname : name.toList with
        | nil => simp_all
        | cons c run => simp_all
      exact Lexer.numberBody_dot_eq_nil hfirst
    | dottedPlace place small =>
      have hdigits := digits_toDigits place
      obtain ⟨c, run, hrun⟩ :=
        List.exists_cons_of_ne_nil (Nat.toDigits_ne_nil (n := place) (b := 10))
      have hfirst : (Nat.toDigits 10 place ++ spell rest).head?.any Char.isDigit = true := by
        rw [hrun]
        exact hdigits c (by simp [hrun])
      have hbody := Lexer.numberBody_append hdigits (spell rest)
      rw [ih] at hbody
      refine (Lexer.numberBody_dot hfirst).trans ?_
      rw [hbody]
      rfl

/-- What a number leaves of the steps behind it. -/
theorem drop_numberBody_spell (steps : List Spelling) :
    (spell steps).drop (Lexer.numberBody (spell steps)).length =
      spell (steps.dropWhile Spelling.isDottedPlace) := by
  have hsplit : spell steps = spell (steps.takeWhile Spelling.isDottedPlace) ++
      spell (steps.dropWhile Spelling.isDottedPlace) := by
    rw [spell, spell, spell, ← List.flatMap_append, List.takeWhile_append_dropWhile]
  rw [numberBody_spell, hsplit, List.drop_left]

/-- A step in front of others is apart from them, if they are and it is not a place behind a point
in front of another. -/
theorem apart_cons_iff {step : Spelling} : Apart (step :: steps) ↔
    (step.isDottedPlace = true → steps.takeWhile Spelling.isDottedPlace = []) ∧ Apart steps := by
  rw [Apart, List.isChain_cons]
  refine and_congr_left fun _ => ?_
  cases steps with
  | nil => simp
  | cons next rest =>
    cases hnext : next.isDottedPlace <;> simp [hnext]

/-- Steps that are apart are read one by one. -/
theorem lexes_spell (h : Apart steps) :
    Lexer.Lexes (spell steps) (steps.flatMap Spelling.kinds) [] := by
  induction steps with
  | nil => exact Lexer.lexes_nil []
  | cons step rest ih =>
    obtain ⟨hstep, hrest⟩ := apart_cons_iff.1 h
    have hnumber : step.isDottedPlace = true → Lexer.numberBody (spell rest) = [] := by
      intro hdotted
      rw [numberBody_spell, hstep hdotted]
      rfl
    have hread := step.lexes_chars isNameChar_head_spell hnumber
    rw [← List.append_nil (spell rest)] at hread
    exact hread.append (ih hrest)

/-- A place behind a point takes the places behind the next points along, and these points with
them. -/
theorem hasKinds_dottedPlace {place offset : Nat} {small : place < 2 ^ 53}
    {kinds : List Token.Kind}
    (h : Lexer.HasKinds offset (spell (.dottedPlace place small :: steps)) kinds) :
    ∃ start others, Lexer.HasKinds start (spell (steps.dropWhile isDottedPlace)) others ∧
      kinds.countP startsStep = others.countP startsStep + 1 := by
  obtain ⟨others, hothers, rfl⟩ :=
    (Lexer.lexes_dot (Nat.toDigits 10 place ++ spell steps) offset kinds).1 h
  obtain ⟨value, -, last, hlast, rfl⟩ :=
    (Lexer.hasKinds_digits_iff Nat.toDigits_ne_nil (digits_toDigits place)).1 hothers
  rw [drop_numberBody_spell] at hlast
  exact ⟨_, last, hlast, by simp [startsStep]⟩

/-- No more steps are read than were spelled, and as many only if they are apart. -/
theorem countP_le_length {offset : Nat} {kinds : List Token.Kind}
    (h : Lexer.HasKinds offset (spell steps) kinds) :
    kinds.countP startsStep ≤ steps.length ∧
      (kinds.countP startsStep = steps.length → Apart steps) := by
  induction hlength : steps.length using Nat.strongRecOn generalizing steps offset kinds with
  | ind length ih =>
    subst hlength
    cases steps with
    | nil =>
      rw [Lexer.hasKinds_nil_iff.1 h]
      exact ⟨Nat.le_refl 0, fun _ => .nil⟩
    | cons step rest =>
      rw [apart_cons_iff, List.length_cons]
      by_cases hdotted : step.isDottedPlace = true
      · obtain ⟨place, small, rfl⟩ : ∃ place small, step = .dottedPlace place small := by
          cases step <;> first | exact ⟨_, _, rfl⟩ | cases hdotted
        obtain ⟨start, others, hothers, hcount⟩ := hasKinds_dottedPlace h
        have hsplit := congrArg List.length
          (List.takeWhile_append_dropWhile (p := isDottedPlace) (l := rest))
        rw [List.length_append] at hsplit
        obtain ⟨hle, hapart⟩ := ih _ (by rw [List.length_cons]; omega) hothers rfl
        refine ⟨by omega, fun heq => ?_⟩
        -- if no step is missing, the place took nothing along
        have htaken : rest.takeWhile isDottedPlace = [] := List.length_eq_zero_iff.1 (by omega)
        have hleft := List.takeWhile_append_dropWhile (p := isDottedPlace) (l := rest)
        rw [htaken, List.nil_append] at hleft
        rw [hleft] at hapart
        exact ⟨fun _ => htaken, hapart (by omega)⟩
      · obtain ⟨others, hothers, rfl⟩ := (step.lexes_chars isNameChar_head_spell
          (fun h => absurd h hdotted) offset kinds).1 h
        obtain ⟨hle, hapart⟩ := ih rest.length (Nat.lt_succ_self _) hothers rfl
        rw [List.countP_append, countP_startsStep_step step.step_kinds]
        exact ⟨by omega, fun heq => ⟨fun h => absurd h hdotted, hapart (by omega)⟩⟩

/-- Steps that are read one by one are the steps that are meant. -/
theorem steps_spelled (steps : List Spelling) :
    Steps (steps.flatMap kinds) (steps.map segment) := by
  induction steps with
  | nil => exact .nil
  | cons step rest ih => exact .cons step.step_kinds ih

/-- Steps are read as they are meant exactly if they are apart. -/
theorem reads_spelled_iff (offset : Nat) :
    (∃ kinds, Lexer.HasKinds offset (spell steps) kinds ∧ Steps kinds (steps.map segment)) ↔
      Apart steps := by
  constructor
  · rintro ⟨kinds, hkinds, hsteps⟩
    refine (countP_le_length hkinds).2 ?_
    rw [countP_startsStep hsteps, List.length_map]
  · intro h
    have hkinds := (lexes_spell h offset (steps.flatMap kinds ++ [])).2
      ⟨[], Lexer.hasKinds_nil_iff.2 rfl, rfl⟩
    rw [List.append_nil, List.append_nil] at hkinds
    exact ⟨_, hkinds, steps_spelled steps⟩

end

/-- A path as it is written: its head, and its steps one behind the other. -/
def text (head : String) (steps : List Spelling) : String := head ++ String.ofList (spell steps)

section

variable {head : String} (hplain : isPlainName head = true)
  (hhead : head ∉ ["true", "false", "null"]) (steps : List Spelling)

include hplain hhead

/-- The head of a path is read for itself, and as a name. -/
theorem hasKinds_text_iff {kinds : List Token.Kind} :
    Lexer.HasKinds 0 (text head steps).toList kinds ↔ ∃ others,
      Lexer.HasKinds (0 + Text.byteSize head.toList) (spell steps) others ∧
        kinds = [.name head] ++ others := by
  have hread : Lexer.Lexes head.toList [Lexer.word head.toList] (spell steps) :=
    Lexer.lexes_word hplain isNameChar_head_spell
  rw [text, String.toList_append, String.toList_ofList, hread 0 kinds, Lexer.word_eq_name hhead]

/-- A path is read as its head and exactly the steps that were spelled, both on its own and as an
expression, if and only if no place behind a point directly follows another. -/
theorem ofText_spelled :
    (Path.ofText (text head steps) = .ok ⟨head, steps.map segment⟩ ↔ Apart steps) ∧
    (Expr.ofText (text head steps) = .ok (.path ⟨head, steps.map segment⟩) ↔ Apart steps) := by
  rw [Path.ofText_eq_ok_iff, Expr.ofText_eq_ok_iff,
    ← reads_spelled_iff (0 + Text.byteSize head.toList)]
  simp only [hasKinds_text_iff hplain hhead]
  constructor
  · simp
  · constructor
    · rintro ⟨_, ⟨others, hothers, rfl⟩, hderives⟩
      exact ⟨others, hothers, steps_of_derives hderives⟩
    · rintro ⟨kinds, hkinds, hsteps⟩
      exact ⟨_, ⟨kinds, hkinds, rfl⟩, derives_path head hsteps⟩

end

end Spelling

namespace Sample

/-- Steps of every kind, in which the place behind a point stands between keys. -/
def mixedSteps : List Spelling :=
  [.quotedKey "b\"c", .dottedPlace 7 (by decide), .dottedKey "null" (by decide),
    .bracketedPlace 0 (by decide)]

/-- They are read as they are meant. -/
theorem ofText_mixedSteps :
    Spelling.text "a" mixedSteps = "a[\"b\\\"c\"].7.null[0]" ∧
      isPlainName "a" = true ∧ "a" ∉ ["true", "false", "null"] ∧
      Path.ofText (Spelling.text "a" mixedSteps) =
        .ok ⟨"a", [.key "b\"c", .index 7, .key "null", .index 0]⟩ ∧
      Expr.ofText (Spelling.text "a" mixedSteps) =
        .ok (.path ⟨"a", [.key "b\"c", .index 7, .key "null", .index 0]⟩) := by
  have hplain : isPlainName "a" = true := by decide
  have hhead : "a" ∉ ["true", "false", "null"] := by decide
  have hapart : Spelling.Apart mixedSteps := by decide
  obtain ⟨hpath, hexpr⟩ := Spelling.ofText_spelled hplain hhead mixedSteps
  exact ⟨by cbv, hplain, hhead, hpath.2 hapart, hexpr.2 hapart⟩

/-- Two places behind points. -/
def dottedSteps : List Spelling := [.dottedPlace 1 (by decide), .dottedPlace 0 (by decide)]

/-- The tokens of a path with these steps: the places are one number, with the second point
inside. -/
theorem hasKinds_dottedSteps : Lexer.HasKinds 0 (Spelling.text "a" dottedSteps).toList
    [.name "a", .mark .dot, .number (exactWhole 1)] := by
  have hvalue : floatOfText? (['1'] ++ Lexer.numberBody ['.', '0']) = some (exactWhole 1) := by
    decide +kernel
  have hnumber : ∀ offset,
      Lexer.HasKinds offset (['1'] ++ ['.', '0']) [.number (exactWhole 1)] := fun _ =>
    (Lexer.hasKinds_digits_iff (by simp) (List.forall_mem_singleton.2 rfl)).2
      ⟨_, hvalue, [], Lexer.hasKinds_nil_iff.2 rfl, rfl⟩
  have hsteps : ∀ offset, Lexer.HasKinds offset (Spelling.spell dottedSteps)
      [.mark .dot, .number (exactWhole 1)] := fun offset =>
    (Lexer.lexes_dot _ offset _).2 ⟨_, hnumber _, rfl⟩
  exact (Spelling.hasKinds_text_iff (by decide) (by decide) dottedSteps).2 ⟨_, hsteps _, rfl⟩

/-- Two places behind points are read as one, without an error. -/
theorem exists_place_swallowed :
    Spelling.text "a" dottedSteps = "a.1.0" ∧
      dottedSteps.map Spelling.segment = [.index 1, .index 0] ∧
      Path.ofText (Spelling.text "a" dottedSteps) = .ok ⟨"a", [.index 1]⟩ ∧
      Expr.ofText (Spelling.text "a" dottedSteps) = .ok (.path ⟨"a", [.index 1]⟩) := by
  have hsteps : Steps [.mark .dot, .number (exactWhole 1)] [.index 1] :=
    .cons (.place (places_exactWhole (by decide))) .nil
  exact ⟨by cbv, rfl, Path.ofText_eq_ok_iff.2 ⟨_, hasKinds_dottedSteps, hsteps⟩,
    Expr.ofText_eq_ok_iff.2 ⟨_, hasKinds_dottedSteps, derives_path "a" hsteps⟩⟩

end Sample

end ChatPrompt
