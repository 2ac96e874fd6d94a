/-!
# Positions in UTF-8

Errors point into a text by the number of UTF-8 bytes before the place they mean. The
texts themselves are handled as lists of characters, so an offset is the size of the list
of characters that come before.
-/

namespace ChatPrompt.Text

/-- The number of UTF-8 bytes of a list of characters. -/
def byteSize (cs : List Char) : Nat := cs.foldr (fun c size => c.utf8Size + size) 0

theorem byteSize_nil : byteSize [] = 0 := rfl

theorem byteSize_cons (c : Char) (cs : List Char) :
    byteSize (c :: cs) = c.utf8Size + byteSize cs := rfl

/-- Sizes add up, so the offset of a part is the offset of the whole plus what precedes it. -/
theorem byteSize_append (before after : List Char) :
    byteSize (before ++ after) = byteSize before + byteSize after := by
  induction before with
  | nil => exact (Nat.zero_add _).symm
  | cons c cs ih => rw [List.cons_append, byteSize_cons, byteSize_cons, ih, Nat.add_assoc]

end ChatPrompt.Text
