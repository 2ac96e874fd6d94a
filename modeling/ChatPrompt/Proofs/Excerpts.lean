import ChatPrompt.Proofs.Pointing

/-!
# An excerpt shows the fault

A long text is not shown whole for a fault, but in a run of its characters. Where the run starts is
found by a distance in bytes, how long it is by a number of characters. Both fit together however
many bytes the characters take: no more than twenty characters stand in the run before the fault,
since each but the first takes a byte of the distance, and so the run reaches past the fault.
-/

namespace ChatPrompt

namespace Text

variable {before after front back : List Char}

/-- No character is smaller than a byte. -/
theorem length_le_byteSize (cs : List Char) : cs.length ≤ byteSize cs := by
  induction cs with
  | nil => exact Nat.zero_le _
  | cons c rest ih =>
    have hpos : 0 < c.utf8Size := c.utf8Size_pos
    rw [List.length_cons, byteSize_cons]
    omega

/-- A text that is cut at two places is cut in three. -/
theorem exists_append_of_byteSize_le (h : before ++ after = front ++ back)
    (hle : byteSize before ≤ byteSize front) :
    ∃ lead, front = before ++ lead ∧ after = lead ++ back := by
  rcases List.append_eq_append_iff.1 h with ⟨lead, hfront, hafter⟩ | ⟨lead, hbefore, hback⟩
  · exact ⟨lead, hfront, hafter⟩
  · -- the first place is not behind the second, so nothing stands between them
    have hsize := length_le_byteSize lead
    rw [hbefore, byteSize_append] at hle
    have hlead : lead = [] := List.eq_nil_of_length_eq_zero (by omega)
    subst hlead
    exact ⟨[], by simpa using hbefore.symm, by simpa using hback.symm⟩

end Text

namespace Leaf

open Text

/-- An excerpt starts where the text does or far enough before the fault, and its second character
would be too near. -/
theorem excerptStart_near (offset position : Nat) (cs : List Char) :
    ((excerptStart offset position cs).1 = position ∨
      (excerptStart offset position cs).1 + excerptLead ≤ offset) ∧
    ∀ c d rest, (excerptStart offset position cs).2 = c :: d :: rest →
      offset < (excerptStart offset position cs).1 + c.utf8Size + excerptLead := by
  induction cs generalizing position with
  | nil => exact ⟨.inl rfl, fun _ _ _ h => nomatch h⟩
  | cons c rest ih =>
    rw [excerptStart]
    split
    · next hnext =>
      obtain ⟨hstart, hsecond⟩ := ih (position + c.utf8Size)
      have hfar : position + c.utf8Size + excerptLead ≤ offset := by
        simp only [Bool.and_eq_true, decide_eq_true_eq] at hnext
        exact hnext.2
      refine ⟨.inr ?_, hsecond⟩
      rcases hstart with hstart | hstart
      · rwa [hstart]
      · exact hstart
    · next hnear =>
      refine ⟨.inl rfl, ?_⟩
      rintro _ d others ⟨⟩
      simpa using hnear

/-- No more characters of an excerpt stand before the fault than the distance has bytes. -/
theorem length_le_excerptLead {offset start : Nat} {lead back : List Char}
    (hnear : ∀ c d rest, lead ++ back = c :: d :: rest → offset < start + c.utf8Size + excerptLead)
    (hoffset : start + byteSize lead = offset) : lead.length ≤ excerptLead := by
  rcases lead with _ | ⟨c, _ | ⟨d, rest⟩⟩
  · exact Nat.zero_le _
  · exact Nat.le_of_ble_eq_true rfl
  · -- the characters behind the first take fewer bytes than the distance
    have hlt := hnear c d (rest ++ back) rfl
    have hle := length_le_byteSize (d :: rest)
    rw [byteSize_cons] at hoffset
    simp only [List.length_cons] at hle ⊢
    omega

/-- A run of characters of a text, of at most a number of them, that shows a place of the text: some
of them stand before the place, and the others from it on. -/
structure Exhibits (width : Nat) (cs : List Char) (offset : Nat)
    (before lead tail after : List Char) : Prop where
  /-- The run stands in the text, between what is left out before it and behind it. -/
  whole : cs = before ++ (lead ++ (tail ++ after))
  /-- The place lies in the run, or at one of its ends. -/
  place : byteSize before + byteSize lead = offset
  /-- The run has no more characters than it may have. -/
  length_le : (lead ++ tail).length ≤ width
  /-- It has as many, if the text goes on behind it. -/
  length_eq : after ≠ [] → (lead ++ tail).length = width
  /-- It shows the character at the place, if the place is not the end of the text. -/
  tail_ne_nil : tail ++ after ≠ [] → tail ≠ []

/-- What is shown of a long text goes on behind the fault, if it starts not far before it. -/
theorem exhibits_take (before back : List Char) {lead : List Char}
    (hlead : lead.length ≤ excerptLead) :
    ∃ tail after, (lead ++ back).take excerptLength = lead ++ tail ∧
      (lead ++ back).drop excerptLength = after ∧
      Exhibits excerptLength (before ++ (lead ++ back)) (byteSize before + byteSize lead)
        before lead tail after := by
  have hwidth : excerptLead < excerptLength := by decide
  have hwhole : lead.length ≤ excerptLength := by omega
  refine ⟨back.take (excerptLength - lead.length), back.drop (excerptLength - lead.length), ?_, ?_,
    ⟨?_, rfl, ?_, ?_, ?_⟩⟩
  · rw [List.take_append, List.take_of_length_le hwhole]
  · rw [List.drop_append, List.drop_of_length_le hwhole, List.nil_append]
  · rw [List.take_append_drop]
  · rw [List.length_append, List.length_take]
    omega
  · intro hgoes
    have hlong := List.length_pos_iff.2 hgoes
    rw [List.length_drop] at hlong
    rw [List.length_append, List.length_take]
    omega
  · intro hback
    rw [List.take_append_drop] at hback
    have hpos := List.length_pos_iff.2 hback
    rw [← List.length_pos_iff, List.length_take]
    omega

/-- What is shown of a text for a place in it. -/
structure ShowsPlace (source : String) (offset : Nat) (shown : String) : Prop where
  /-- A text of at most sixty characters is shown whole. -/
  short : source.toList.length ≤ 60 → shown = source
  /-- Of any other a run of at most sixty characters is shown, which shows the place. An ellipsis
  stands before it just if it does not start with the text, and one behind it just if it does not
  end with it. -/
  long : 60 < source.toList.length → ∃ before lead tail after,
    Exhibits 60 source.toList offset before lead tail after ∧
      shown = (if before = [] then "" else "…") ++ String.ofList (lead ++ tail) ++
        (if after = [] then "" else "…")

/-- An excerpt shows the place that it is made for. -/
theorem showsPlace_excerpt {source : String} {offset : Nat}
    (h : IsBoundary offset source.toList) : ShowsPlace source offset (excerpt source offset) := by
  refine ⟨fun hshort => if_pos hshort, fun hlong => ?_⟩
  have hne : source.toList ≠ [] := List.ne_nil_of_length_pos (by omega)
  obtain ⟨before, visible, hcs, hstart, -⟩ := excerptStart_eq offset 0 hne
  obtain ⟨hplace, hnear⟩ := excerptStart_near offset 0 source.toList
  rw [Nat.zero_add] at hstart
  rw [hstart] at hplace hnear
  -- the excerpt starts at or before the place that cuts the text in front and back
  obtain ⟨front, back, hsource, hoffset⟩ := h
  have hle : byteSize before ≤ byteSize front := by omega
  obtain ⟨lead, rfl, rfl⟩ := exists_append_of_byteSize_le (hcs.symm.trans hsource) hle
  rw [byteSize_append] at hoffset
  obtain ⟨tail, after, htake, hdrop, hexhibits⟩ :=
    exhibits_take before back (length_le_excerptLead hnear hoffset)
  rw [← hcs, hoffset] at hexhibits
  refine ⟨before, lead, tail, after, hexhibits, ?_⟩
  have hfirst : 0 < byteSize before ↔ before ≠ [] := byteSize_pos_iff.trans List.length_pos_iff
  have hlast : (lead ++ tail).length < (lead ++ back).length ↔ after ≠ [] := by
    rw [← htake, ← hdrop, ← List.length_pos_iff, List.length_take, List.length_drop]
    omega
  have hwidth : ¬source.toList.length ≤ excerptLength := Nat.not_le.2 hlong
  rw [excerpt, if_neg hwidth, hstart]
  simp only [htake, hfirst, hlast, ite_not]

/-- The excerpt for any place between two characters of a text, or at one of its ends, shows that
place. In particular, where a text is no leaf, what is shown of it shows the fault. -/
theorem excerpt_shows (source : String) :
    (∀ offset, IsBoundary offset source.toList →
        ShowsPlace source offset (excerpt source offset)) ∧
      ∀ fault, ofText source = .error fault → ShowsPlace source fault.offset fault.excerpt := by
  refine ⟨fun offset h => showsPlace_excerpt h, fun fault hfault => ?_⟩
  obtain ⟨piece, hpiece, hfaulty⟩ := exists_faulty hfault
  rw [hfaulty.excerpt_eq]
  exact showsPlace_excerpt (hfaulty.pointsInto hpiece).boundary

/-- A tag that ends no block, between twenty-five letters of two bytes and fifty signs of three. -/
def strayEnding : String :=
  String.ofList (List.replicate 25 'é' ++
    ("\x7b\x7b#endif\x7d\x7d".toList ++ List.replicate 50 '€'))

/-- Ten of the letters are shown before the tag, and forty of the signs behind it. -/
theorem excerpt_shows_strayEnding :
    IsBoundary 50 strayEnding.toList ∧ 60 < strayEnding.toList.length ∧
      ofText strayEnding = .error ⟨50, excerpt strayEnding 50, .block .strayEnd⟩ ∧
      excerpt strayEnding 50 = "…" ++ String.ofList (List.replicate 10 'é' ++
        ("\x7b\x7b#endif\x7d\x7d".toList ++ List.replicate 40 '€')) ++ "…" ∧
      ShowsPlace strayEnding 50 (excerpt strayEnding 50) := by
  have hchars : strayEnding.toList = List.replicate 25 'é' ++
      ("\x7b\x7b#endif\x7d\x7d".toList ++ List.replicate 50 '€') := String.toList_ofList
  have hboundary : IsBoundary 50 strayEnding.toList := ⟨_, _, hchars, by decide⟩
  have hlong : 60 < strayEnding.toList.length := by
    rw [hchars, List.length_append, List.length_replicate]
    decide +kernel
  have hread : ofText strayEnding = .error ⟨50, excerpt strayEnding 50, .block .strayEnd⟩ := by
    cbv
  have hshown : excerpt strayEnding 50 = "…" ++ String.ofList (List.replicate 10 'é' ++
      ("\x7b\x7b#endif\x7d\x7d".toList ++ List.replicate 40 '€')) ++ "…" := by
    cbv
  exact ⟨hboundary, hlong, hread, hshown, (excerpt_shows strayEnding).1 50 hboundary⟩

end Leaf

end ChatPrompt
