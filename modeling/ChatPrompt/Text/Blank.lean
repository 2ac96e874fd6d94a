import ChatPrompt.Text.Ranges

/-!
# Blank characters

The characters with the Unicode property White_Space, and what is said with them: text
that is blank, text without its blank ends, and the words between blanks. A message whose
text is blank is never emitted, so this is the test behind every omission.
-/

namespace ChatPrompt.Text

/-- The Unicode property White_Space. -/
def blankRanges : Ranges :=
  [(0x9, 0xd), (0x20, 0x20), (0x85, 0x85), (0xa0, 0xa0), (0x1680, 0x1680), (0x2000, 0x200a),
   (0x2028, 0x2029), (0x202f, 0x202f), (0x205f, 0x205f), (0x3000, 0x3000)]

/-- A white space character. -/
def isBlank (c : Char) : Bool := blankRanges.covers c.toNat

/-- The characters from the first that is not blank. -/
def trimStart (cs : List Char) : List Char := cs.dropWhile isBlank

/-- The characters up to the last that is not blank. -/
def trimEnd (cs : List Char) : List Char := (cs.reverse.dropWhile isBlank).reverse

/-- The characters without the blanks at both ends. -/
def trim (cs : List Char) : List Char := trimEnd (trimStart cs)

/-- Text in which every character is blank; the empty text is blank. -/
def isBlankText (text : String) : Bool := text.toList.all isBlank

/-- A text that is not blank; nothing where it is blank. -/
def contentful? (text : String) : Option String := if isBlankText text then none else some text

/-- The number of words: maximal runs of characters that are not blank. A word is counted
where it starts, at a character that is not blank and follows a blank or nothing. -/
def wordCount (text : String) : Nat := count true text.toList
where
  /-- Counts the words that start here, knowing whether a blank or nothing came before. -/
  count (fresh : Bool) : List Char → Nat
    | [] => 0
    | c :: rest => if isBlank c then count true rest
        else (if fresh then 1 else 0) + count false rest

/-- Only a text that is not blank has content, and it is that text. -/
theorem contentful?_eq_some_iff (text content : String) :
    contentful? text = some content ↔ content = text ∧ isBlankText text = false := by
  cases h : isBlankText text with
  | true => simp [contentful?, h]
  | false => simp [contentful?, h, eq_comm]

end ChatPrompt.Text
