import ChatPrompt.Proofs.Boundaries
import ChatPrompt.Proofs.Cutting

/-!
# Leaves read in slices of bytes

A leaf can be read by positions in bytes. Each part of the text is then a slice from one position to
another, which exists only if both are boundaries in the right order. Here the reading is said in
this way, step by step, with each slice that is taken: the loop over tags, the word and the condition
of a tag, and the part of the text that a message shows. All slices exist, and what is read is what
is read without positions.
-/

namespace ChatPrompt

namespace Text

/-- A text in two parts, the first of a number of bytes, if it has a boundary there. -/
def splitBytes? : Nat → List Char → Option (List Char × List Char)
  | 0, cs => some ([], cs)
  | _ + 1, [] => none
  | n + 1, c :: rest =>
    if c.utf8Size ≤ n + 1 then
      (splitBytes? (n + 1 - c.utf8Size) rest).map fun (before, after) => (c :: before, after)
    else none

/-- A text is split where the first part has that many bytes. -/
theorem splitBytes?_eq_some_iff {n : Nat} {cs before after : List Char} :
    splitBytes? n cs = some (before, after) ↔ cs = before ++ after ∧ byteSize before = n := by
  induction cs generalizing n before after with
  | nil =>
    cases n with
    | zero => cases before <;> simp [splitBytes?, byteSize_nil, eq_comm]
    | succ n =>
      refine iff_of_false (by simp [splitBytes?]) ?_
      rintro ⟨hcs, hsize⟩
      rw [(List.append_eq_nil_iff.1 hcs.symm).1, byteSize_nil] at hsize
      cases hsize
  | cons c rest ih =>
    have hpos : 0 < c.utf8Size := c.utf8Size_pos
    cases n with
    | zero =>
      cases before with
      | nil => simp [splitBytes?, byteSize_nil, eq_comm]
      | cons d inner =>
        refine iff_of_false (by simp [splitBytes?]) ?_
        rintro ⟨hcs, hsize⟩
        rw [byteSize_cons, ← (List.cons.inj hcs).1] at hsize
        omega
    | succ n =>
      cases before with
      | nil =>
        refine iff_of_false ?_ (by simp [byteSize_nil])
        rw [splitBytes?]
        split <;> simp
      | cons d inner =>
        rw [splitBytes?, List.cons_append, List.cons.injEq, byteSize_cons]
        split
        · next hle =>
          simp only [Option.map_eq_some_iff, Prod.exists, Prod.mk.injEq, List.cons.injEq, ih]
          constructor
          · rintro ⟨_, _, ⟨hrest, hsize⟩, ⟨rfl, rfl⟩, rfl⟩
            exact ⟨⟨rfl, hrest⟩, by omega⟩
          · rintro ⟨⟨rfl, hrest⟩, hsize⟩
            exact ⟨_, _, ⟨hrest, by omega⟩, ⟨rfl, rfl⟩, rfl⟩
        · next hlt =>
          refine iff_of_false (by simp) ?_
          rintro ⟨⟨rfl, -⟩, hsize⟩
          omega

/-- The text from a position on. -/
def dropBytes? (start : Nat) (cs : List Char) : Option (List Char) :=
  (splitBytes? start cs).map Prod.snd

/-- The text from one position to another. -/
def slice? (start stop : Nat) (cs : List Char) : Option (List Char) :=
  if start ≤ stop then
    (dropBytes? start cs).bind fun tail => (splitBytes? (stop - start) tail).map Prod.fst
  else none

theorem dropBytes?_append (before after : List Char) :
    dropBytes? (byteSize before) (before ++ after) = some after := by
  rw [dropBytes?, splitBytes?_eq_some_iff.2 ⟨rfl, rfl⟩]
  rfl

/-- A text has each of its parts as a slice. -/
theorem slice?_append (before inside after : List Char) :
    slice? (byteSize before) (byteSize before + byteSize inside) (before ++ (inside ++ after)) =
      some inside := by
  rw [slice?, if_pos (Nat.le_add_right _ _), dropBytes?_append, Option.bind_some,
    Nat.add_sub_cancel_left, splitBytes?_eq_some_iff.2 ⟨rfl, rfl⟩]
  rfl

/-- The blanks at the start of a text, in bytes: what it loses when it is trimmed there. -/
def leadSize (cs : List Char) : Nat := byteSize cs - byteSize (trimStart cs)

/-- They are the size of these blanks. -/
theorem leadSize_eq (cs : List Char) : leadSize cs = byteSize (cs.takeWhile isBlank) := by
  have hsum := congrArg byteSize (List.takeWhile_append_dropWhile (p := isBlank) (l := cs))
  rw [byteSize_append] at hsum
  rw [leadSize, trimStart, ← hsum, Nat.add_sub_cancel_right]

/-- The place of the first blank, or the end of the text. -/
def wordSize (cs : List Char) : Nat := byteSize (cs.takeWhile fun c => !isBlank c)

/-- The places where characters start. -/
def starts (position : Nat) : List Char → List Nat
  | [] => []
  | c :: rest => position :: starts (position + c.utf8Size) rest

end Text

namespace Leaf

open Text

/-- The place of the first pair of a character. -/
def findPair? (c : Char) (cs : List Char) : Option Nat :=
  (splitAtPair c cs).map fun (before, _) => byteSize before

/-- Pieces that are read in slices of a text, from a position on. -/
inductive Sliced (cs : List Char) : Nat → List Piece → Prop where
  /-- No tag is left. -/
  | plain {position : Nat} {tail : List Char} (htail : dropBytes? position cs = some tail)
    (hopening : findPair? '\x7b' tail = none) :
    Sliced cs position (if position < byteSize cs then [.text tail] else [])
  /-- A tag that is never closed. -/
  | unclosed {position distance : Nat} {tail before inner : List Char}
    (htail : dropBytes? position cs = some tail) (hopening : findPair? '\x7b' tail = some distance)
    (hbefore : slice? position (position + distance) cs = some before)
    (hinner : dropBytes? (position + distance + 2) cs = some inner)
    (hclosing : findPair? '\x7d' inner = none) :
    Sliced cs position
      ((if position < position + distance then [.text before] else []) ++
        [.unclosed (position + distance)])
  /-- A tag, and the pieces from the position behind it on. -/
  | tag {position distance width : Nat} {tail before inner inside : List Char} {rest : List Piece}
    (htail : dropBytes? position cs = some tail) (hopening : findPair? '\x7b' tail = some distance)
    (hbefore : slice? position (position + distance) cs = some before)
    (hinner : dropBytes? (position + distance + 2) cs = some inner)
    (hclosing : findPair? '\x7d' inner = some width)
    (hinside : slice? (position + distance + 2) (position + distance + 2 + width) cs = some inside)
    (hrest : Sliced cs (position + distance + 2 + width + 2) rest) :
    Sliced cs position
      ((if position < position + distance then [.text before] else []) ++
        .tag (position + distance) inside :: rest)

/-- Text as a piece, where there is any. -/
theorem textPiece_eq (content : List Char) (position : Nat) :
    textPiece content =
      if position < position + byteSize content then [.text content] else [] := by
  cases content with
  | nil => simp [textPiece, byteSize_nil]
  | cons c rest =>
    have hpos : 0 < c.utf8Size := c.utf8Size_pos
    rw [if_pos (by rw [byteSize_cons]; omega)]
    rfl

/-- A pair of a character of one byte takes two. -/
theorem byteSize_pair (front cs : List Char) {c : Char} (hc : c.utf8Size = 1) :
    byteSize (front ++ (cs ++ [c, c])) = byteSize front + byteSize cs + 2 := by
  simp only [byteSize_append, byteSize_cons, byteSize_nil, hc]
  omega

/-- The pieces of a text are read in slices, from any boundary on. -/
theorem sliced_pieces_append (front cs : List Char) :
    Sliced (front ++ cs) (byteSize front) (pieces (byteSize front) cs) := by
  generalize hposition : byteSize front = position
  induction position, cs using pieces.induct generalizing front with
  | case1 position cs hopening =>
    subst hposition
    have hnone : findPair? '\x7b' cs = none := by rw [findPair?, hopening, Option.map_none]
    have hplain := Sliced.plain (dropBytes?_append front cs) hnone
    rwa [byteSize_append, ← textPiece_eq, ← pieces_of_none hopening (byteSize front)] at hplain
  | case2 position cs before inner hopening hclosing =>
    subst hposition
    have hsome : findPair? '\x7b' cs = some (byteSize before) := by
      rw [findPair?, hopening, Option.map_some]
    have hnone : findPair? '\x7d' inner = none := by rw [findPair?, hclosing, Option.map_none]
    rw [pieces_of_unclosed hopening hclosing, textPiece_eq before (byteSize front)]
    obtain ⟨rfl, -⟩ := splitAtPair_eq_some_iff.1 hopening
    have hinner := dropBytes?_append (front ++ (before ++ ['\x7b', '\x7b'])) inner
    rw [byteSize_pair front before rfl] at hinner
    exact .unclosed (dropBytes?_append front _) hsome (slice?_append front before _)
      (by simpa using hinner) hnone
  | case3 position cs before inner hopening start inside rest hclosing _ ih =>
    subst hposition
    have hsome : findPair? '\x7b' cs = some (byteSize before) := by
      rw [findPair?, hopening, Option.map_some]
    have hwidth : findPair? '\x7d' inner = some (byteSize inside) := by
      rw [findPair?, hclosing, Option.map_some]
    rw [pieces_of_tag hopening hclosing, textPiece_eq before (byteSize front)]
    obtain ⟨rfl, -⟩ := splitAtPair_eq_some_iff.1 hopening
    obtain ⟨rfl, -⟩ := splitAtPair_eq_some_iff.1 hclosing
    -- the text up to the end of the opening braces, and up to that of the closing ones
    generalize hopened : front ++ (before ++ ['\x7b', '\x7b']) = opened
    have hstart : byteSize opened = byteSize front + byteSize before + 2 := by
      rw [← hopened, byteSize_pair front before rfl]
    have hstop : byteSize (opened ++ (inside ++ ['\x7d', '\x7d'])) =
        byteSize front + byteSize before + 2 + byteSize inside + 2 := by
      rw [byteSize_pair opened inside rfl, hstart]
    have hwhole : front ++ (before ++ '\x7b' :: '\x7b' :: (inside ++ '\x7d' :: '\x7d' :: rest)) =
        opened ++ (inside ++ '\x7d' :: '\x7d' :: rest) := by
      simp [← hopened]
    have hinner := dropBytes?_append opened (inside ++ '\x7d' :: '\x7d' :: rest)
    have hinside := slice?_append opened inside ('\x7d' :: '\x7d' :: rest)
    have hplace : byteSize (opened ++ (inside ++ ['\x7d', '\x7d'])) =
        byteSize front + byteSize before + byteSize inside + 4 := by
      rw [hstop]
      omega
    have hrest := ih _ hplace
    rw [hstart, ← hwhole] at hinner hinside
    refine .tag (dropBytes?_append front _) hsome (slice?_append front before _) hinner hwidth
      hinside ?_
    rw [hwhole, ← hstop, hplace]
    simpa using hrest

/-- So are the pieces of a whole text. -/
theorem sliced_pieces (cs : List Char) : Sliced cs 0 (pieces 0 cs) := sliced_pieces_append [] cs

/-- The meaning of a tag with a word behind a number sign, with the word and what is left behind it
as slices. The sign stands at a distance from the start of the tag. -/
def slicedDirective? (distance : Nat) (word : List Char) : Option (Except BlockProblem Tag) :=
  (splitBytes? (wordSize word) word).bind fun (name, tail) =>
    let argument := trim tail
    if name = ['i', 'f'] then
      if argument.isEmpty then some (.error .missingCondition)
      else (dropBytes? 3 ('#' :: word)).map fun behind =>
        .ok (.opening (distance + 3 + leadSize behind) argument)
    else if name = ['e', 'l', 's', 'e'] then
      some (if argument.isEmpty then .ok .middle else .error (.unexpectedArguments "else"))
    else if name = ['e', 'n', 'd', 'i', 'f'] then
      some (if argument.isEmpty then .ok .ending else .error (.unexpectedArguments "endif"))
    else some (.error (.unknownBlock (String.ofList name)))

/-- The meaning of the inside of a tag, with slices. -/
def Tag.sliced? (inside : List Char) : Option (Except BlockProblem Tag) :=
  let distance := 2 + leadSize inside
  match trim inside with
  | [] => some (.error .emptyTag)
  | '#' :: word => slicedDirective? distance word
  | body => some (.ok (.value distance body))

/-- The part of a text that a message shows, as a slice. -/
def slicedExcerpt? (source : String) (offset : Nat) : Option String :=
  let cs := source.toList
  if cs.length ≤ excerptLength then some source
  else
    let before := (starts 0 cs).takeWhile fun position => position + excerptLead ≤ offset
    let start := before.getLast?.getD 0
    (dropBytes? start cs).map fun visible =>
      let shown := visible.take excerptLength
      (if 0 < start then "…" else "") ++ String.ofList shown ++
        (if start + byteSize shown < byteSize cs then "…" else "")

/-- The slices that are taken of a tag with a word exist, and give its meaning. -/
theorem slicedDirective?_eq (distance : Nat) (word : List Char) :
    slicedDirective? distance word = some (directive (distance + 1) word) := by
  have hword := List.takeWhile_append_dropWhile (p := fun c => !isBlank c) (l := word)
  have hsplit : splitBytes? (wordSize word) word =
      some (word.takeWhile fun c => !isBlank c, word.dropWhile fun c => !isBlank c) :=
    splitBytes?_eq_some_iff.2 ⟨hword.symm, rfl⟩
  rw [slicedDirective?, hsplit, Option.bind_some, directive]
  generalize word.takeWhile (fun c => !isBlank c) = name at hword
  generalize word.dropWhile (fun c => !isBlank c) = tail at hword
  dsimp only
  split
  · next hif =>
    subst hif
    have hbehind : dropBytes? 3 ('#' :: word) = some tail := by
      rw [← hword]
      exact dropBytes?_append ['#', 'i', 'f'] tail
    rw [hbehind, Option.map_some, leadSize_eq]
    split <;> rfl
  · split
    · rfl
    · split <;> rfl

/-- The slices that are taken of a tag exist, and give its meaning. -/
theorem Tag.sliced?_eq (inside : List Char) : Tag.sliced? inside = some (Tag.ofInside inside) := by
  rw [Tag.sliced?, Tag.ofInside, leadSize_eq]
  generalize trim inside = body
  cases body with
  | nil => rfl
  | cons c word =>
    by_cases hsign : c = '#'
    · subst hsign
      exact slicedDirective?_eq _ _
    · simp [hsign]

/-- Where the part of a text that is shown starts is the last place far enough before the fault, or
the start. -/
theorem excerptStart_eq (offset position : Nat) {cs : List Char} (hne : cs ≠ []) :
    ∃ before after, cs = before ++ after ∧
      excerptStart offset position cs = (position + byteSize before, after) ∧
      (((starts position cs).takeWhile fun place => place + excerptLead ≤ offset).getLast?).getD
        position = position + byteSize before := by
  induction cs generalizing position with
  | nil => exact absurd rfl hne
  | cons c rest ih =>
    rw [excerptStart, starts]
    cases rest with
    | nil =>
      refine ⟨[], [c], rfl, rfl, ?_⟩
      by_cases hfirst : position + excerptLead ≤ offset <;> simp [starts, hfirst, byteSize_nil]
    | cons d others =>
      by_cases hnext : position + c.utf8Size + excerptLead ≤ offset
      · have hfirst : position + excerptLead ≤ offset := by omega
        obtain ⟨before, after, hcs, hstart, hlast⟩ := ih (position + c.utf8Size) (by simp)
        refine ⟨c :: before, after, by rw [hcs, List.cons_append], ?_, ?_⟩
        · rw [if_pos (by simpa using hnext), hstart, byteSize_cons, Nat.add_assoc]
        · simp only [starts, List.takeWhile_cons, hfirst, hnext, decide_true, if_true,
            List.getLast?_cons_cons] at hlast ⊢
          rw [List.getLast?_eq_some_getLast (List.cons_ne_nil _ _)] at hlast ⊢
          rw [byteSize_cons, ← Nat.add_assoc]
          exact hlast
      · refine ⟨[], c :: d :: others, rfl, ?_, ?_⟩
        · rw [if_neg (by simpa using hnext)]
          rfl
        · by_cases hfirst : position + excerptLead ≤ offset <;>
            simp [starts, hfirst, hnext, byteSize_nil]

/-- A text with characters has a size. -/
theorem byteSize_pos_iff {cs : List Char} : 0 < byteSize cs ↔ 0 < cs.length := by
  cases cs with
  | nil => rfl
  | cons c rest =>
    have hpos : 0 < c.utf8Size := c.utf8Size_pos
    rw [byteSize_cons, List.length_cons]
    omega

/-- The slice that is shown of a text exists, and it is what is shown. -/
theorem slicedExcerpt?_eq (source : String) (offset : Nat) :
    slicedExcerpt? source offset = some (excerpt source offset) := by
  rw [slicedExcerpt?, excerpt]
  dsimp only
  split
  · rfl
  · next hlong =>
    have hne : source.toList ≠ [] := by
      intro hnil
      rw [hnil] at hlong
      exact hlong (Nat.zero_le _)
    obtain ⟨before, after, hcs, hstart, hlast⟩ := excerptStart_eq offset 0 hne
    rw [Nat.zero_add] at hstart hlast
    have hdrop := dropBytes?_append before after
    rw [← hcs] at hdrop
    -- something is left out behind the slice exactly if the slice is shorter
    have hleft : byteSize before + byteSize (after.take excerptLength) < byteSize source.toList ↔
        (after.take excerptLength).length < after.length := by
      have hsize := congrArg byteSize (List.take_append_drop excerptLength after)
      have hlength := congrArg List.length (List.take_append_drop excerptLength after)
      have hpos : 0 < byteSize (after.drop excerptLength) ↔
          0 < (after.drop excerptLength).length := byteSize_pos_iff
      rw [byteSize_append] at hsize
      rw [List.length_append] at hlength
      rw [hcs, byteSize_append]
      omega
    rw [hlast, hdrop, hstart, Option.map_some]
    simp only [hleft]

end Leaf

end ChatPrompt
