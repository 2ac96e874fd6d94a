import ChatPrompt.Expr.Parser
import ChatPrompt.Proofs.Grammar

/-!
# What the parser reads

What each function of the parser reads is said once, as a value and the tokens that are left,
without the bound on their number. Operands, phrases and what is joined to them are described
by the parts that are read for them, one lemma for each way to go on; the steps of a path are
read exactly as the grammar has them, up to where no step starts.
-/

namespace ChatPrompt

open Grammar Number

namespace Parser

/-- A step of the parser reads a value and leaves some tokens. -/
def Reads {α : Type} {size : Nat} (step : Except SyntaxError (Parsed α size)) (value : α)
    (rest : List Token) : Prop :=
  ∃ shorter, step = .ok ⟨value, rest, shorter⟩

section

variable {α : Type} {size : Nat} {value other : α} {rest left : List Token}

/-- A step that fails reads nothing. -/
@[simp]
theorem not_reads_error (e : SyntaxError) :
    ¬ Reads (.error e : Except SyntaxError (Parsed α size)) value rest := by
  rintro ⟨_, h⟩
  cases h

/-- A step that gives something reads that. -/
@[simp]
theorem reads_ok_iff (shorter : left.length < size) :
    Reads (.ok ⟨other, left, shorter⟩) value rest ↔ value = other ∧ rest = left := by
  constructor
  · rintro ⟨_, h⟩
    cases h
    exact ⟨rfl, rfl⟩
  · rintro ⟨rfl, rfl⟩
    exact ⟨shorter, rfl⟩

end

/-- The numbers that name a place are those of the grammar. -/
theorem placeOf_eq_ok_iff {offset : Nat} {value : Extended} {place : Nat} :
    placeOf offset value = .ok place ↔ Places value place := by
  cases value with
  | nan => simp [placeOf, Places]
  | infinite negative => simp [placeOf, Places]
  | finite x =>
    have hsign : (!x.negative || x.units == 0) = true ↔ 0 ≤ x.value := by
      rw [Double.value]
      cases x.negative <;> simp
    rw [placeOf]
    by_cases h : (x.isWhole && (!x.negative || x.units == 0)) = true
    · rw [if_pos h]
      rw [Bool.and_eq_true, hsign] at h
      constructor
      · intro hplace
        cases hplace
        exact ⟨x, rfl, h.1, h.2, rfl⟩
      · rintro ⟨y, hy, -, -, rfl⟩
        cases hy
        rfl
    · rw [if_neg h]
      rw [Bool.and_eq_true, hsign] at h
      simp only [Places, reduceCtorEq, false_iff]
      rintro ⟨y, hy, hwhole, hvalue, -⟩
      cases hy
      exact h ⟨hwhole, hvalue⟩

/-- A number that names a place is a step to it. -/
theorem map_placeOf_eq_ok_iff (offset : Nat) {value : Extended} {segment : Segment} :
    (placeOf offset value).map Segment.index = .ok segment ↔
      ∃ place, Places value place ∧ segment = .index place := by
  have hmap : (placeOf offset value).map Segment.index = .ok segment ↔
      ∃ place, placeOf offset value = .ok place ∧ segment = .index place := by
    cases placeOf offset value with
    | error e => simp [Except.map]
    | ok place => simp [Except.map, eq_comm]
  simp only [hmap, placeOf_eq_ok_iff]

/-- The keys behind a point are the words of the grammar. -/
theorem keyOf_eq_some_iff {kind : Token.Kind} {text : String} :
    keyOf kind = some text ↔ Word kind text := by
  constructor
  · intro h
    match kind, h with
    | .name _, rfl => exact .name _
    | .mark .trueWord, rfl => exact .trueWord
    | .mark .falseWord, rfl => exact .falseWord
    | .mark .nullWord, rfl => exact .nullWord
  · intro h
    cases h <;> rfl

/-- A number is a literal. -/
theorem literal_number (value : Extended) : Literal (.number value) (numberLiteral value) := by
  cases value with
  | nan => exact .unbounded fun _ h => by cases h
  | infinite negative => exact .unbounded fun _ h => by cases h
  | finite x =>
    rw [numberLiteral]
    cases hplain : x.isPlainInteger with
    | false => exact .floating hplain
    | true => exact .whole hplain

/-- A number is one literal only. -/
theorem eq_numberLiteral {value : Extended} {literal : Json}
    (h : Literal (.number value) literal) : literal = numberLiteral value := by
  cases h with
  | whole hplain => rw [numberLiteral, if_pos hplain]
  | floating hplain => rw [numberLiteral, hplain]; rfl
  | unbounded hfinite =>
    cases value with
    | nan => rfl
    | infinite negative => rfl
    | finite x => exact absurd rfl (hfinite x)

/-- The marks that compare are those of the grammar. -/
theorem comparisonOf_eq_some_iff {mark : Mark} {op : Value.Comparison} :
    comparisonOf mark = some op ↔ Compares mark op := by
  constructor
  · intro h
    cases mark <;> cases h <;> constructor
  · intro h
    cases h <;> rfl

/-- Tokens of a kind and further kinds. -/
theorem map_kind_eq_cons_iff {ts : List Token} {kind : Token.Kind} {kinds : List Token.Kind} :
    ts.map Token.kind = kind :: kinds ↔
      ∃ offset rest, ts = ⟨kind, offset⟩ :: rest ∧ rest.map Token.kind = kinds := by
  rw [List.map_eq_cons_iff]
  constructor
  · rintro ⟨⟨_, offset⟩, rest, rfl, rfl, hrest⟩
    exact ⟨offset, rest, rfl, hrest⟩
  · rintro ⟨offset, rest, rfl, hrest⟩
    exact ⟨_, rest, rfl, rfl, hrest⟩

/-- A step before steps that some tokens start with. -/
theorem steps_append (first : List Token) {ts used rest : List Token} {segment : Segment}
    {value : List Segment} (hstep : Step (first.map Token.kind) segment) (hts : ts = used ++ rest)
    (hsteps : Steps (used.map Token.kind) value) :
    ∃ used, first ++ ts = used ++ rest ∧ Steps (used.map Token.kind) (segment :: value) :=
  ⟨first ++ used, by rw [hts, List.append_assoc], by rw [List.map_append]; exact .cons hstep hsteps⟩

/-- What is read behind a name is steps. -/
theorem segments_sound {finish : Nat} {ts rest : List Token} {value : List Segment}
    (h : Reads (segments finish ts) value rest) :
    ∃ used, ts = used ++ rest ∧ Steps (used.map Token.kind) value := by
  fun_induction segments finish ts generalizing value rest with
  | case1 | case2 | case3 | case5 | case6 | case7 | case9 => exact absurd h (not_reads_error _)
  | case4 point kind offset ts step segment hsegment tail htail =>
    rename_i ih
    obtain ⟨rfl, rfl⟩ := (reads_ok_iff _).1 h
    obtain ⟨used, hused, hsteps⟩ := ih ⟨tail.shorter, htail⟩
    refine steps_append [⟨.mark .dot, point⟩, ⟨kind, offset⟩] ?_ hused hsteps
    dsimp only [step] at hsegment
    split at hsegment
    · next key hkey =>
      cases hsegment
      exact .key (keyOf_eq_some_iff.1 hkey)
    · next number hkey =>
      obtain ⟨place, hplace, rfl⟩ := (map_placeOf_eq_ok_iff offset).1 hsegment
      exact .place hplace
    · cases hsegment
  | case8 bracket kind offset step segment hsegment close ts tail htail =>
    rename_i ih
    obtain ⟨rfl, rfl⟩ := (reads_ok_iff _).1 h
    obtain ⟨used, hused, hsteps⟩ := ih ⟨tail.shorter, htail⟩
    refine steps_append [⟨.mark .openBracket, bracket⟩, ⟨kind, offset⟩,
      ⟨.mark .closeBracket, close⟩] ?_ hused hsteps
    dsimp only [step] at hsegment
    split at hsegment
    · cases hsegment
      exact .keyInside _
    · obtain ⟨place, hplace, rfl⟩ := (map_placeOf_eq_ok_iff offset).1 hsegment
      exact .placeInside hplace
    · cases hsegment
  | case10 ts hpoint hbracket =>
    obtain ⟨rfl, rfl⟩ := (reads_ok_iff _).1 h
    exact ⟨[], rfl, .nil⟩

/-- Where no step starts, none is read. -/
theorem reads_segments_stop {finish : Nat} {ts : List Token}
    (h : ∀ token ∈ ts.head?, token.kind ≠ .mark .dot ∧ token.kind ≠ .mark .openBracket) :
    Reads (segments finish ts) [] ts := by
  have hdot : ∀ offset after, ts = ⟨.mark .dot, offset⟩ :: after → False :=
    fun _ _ hts => (h _ (by rw [hts]; rfl)).1 rfl
  have hbracket : ∀ offset after, ts = ⟨.mark .openBracket, offset⟩ :: after → False :=
    fun _ _ hts => (h _ (by rw [hts]; rfl)).2 rfl
  rw [segments]
  · exact (reads_ok_iff _).2 ⟨rfl, rfl⟩
  · exact hdot
  · exact hbracket

/-- A step is read before those behind it. -/
theorem reads_segments_step {finish : Nat} {first more rest : List Token} {segment : Segment}
    {value : List Segment} (hstep : Step (first.map Token.kind) segment)
    (h : Reads (segments finish more) value rest) :
    Reads (segments finish (first ++ more)) (segment :: value) rest := by
  obtain ⟨shorter, hmore⟩ := h
  generalize hkinds : first.map Token.kind = kinds at hstep
  cases hstep with
  | @key kind text hword =>
    obtain ⟨point, _, rfl, hlast⟩ := map_kind_eq_cons_iff.1 hkinds
    obtain ⟨offset, _, rfl, hnil⟩ := map_kind_eq_cons_iff.1 hlast
    obtain rfl := List.map_eq_nil_iff.1 hnil
    have hkey := keyOf_eq_some_iff.2 hword
    simp [segments, hkey, hmore]
  | @place number place hplaces =>
    obtain ⟨point, _, rfl, hlast⟩ := map_kind_eq_cons_iff.1 hkinds
    obtain ⟨offset, _, rfl, hnil⟩ := map_kind_eq_cons_iff.1 hlast
    obtain rfl := List.map_eq_nil_iff.1 hnil
    have hplace := (map_placeOf_eq_ok_iff offset).2 ⟨place, hplaces, rfl⟩
    simp [segments, hplace, hmore]
  | keyInside text =>
    obtain ⟨bracket, _, rfl, hmiddle⟩ := map_kind_eq_cons_iff.1 hkinds
    obtain ⟨offset, _, rfl, hlast⟩ := map_kind_eq_cons_iff.1 hmiddle
    obtain ⟨close, _, rfl, hnil⟩ := map_kind_eq_cons_iff.1 hlast
    obtain rfl := List.map_eq_nil_iff.1 hnil
    simp [segments, hmore]
  | @placeInside number place hplaces =>
    obtain ⟨bracket, _, rfl, hmiddle⟩ := map_kind_eq_cons_iff.1 hkinds
    obtain ⟨offset, _, rfl, hlast⟩ := map_kind_eq_cons_iff.1 hmiddle
    obtain ⟨close, _, rfl, hnil⟩ := map_kind_eq_cons_iff.1 hlast
    obtain rfl := List.map_eq_nil_iff.1 hnil
    have hplace := (map_placeOf_eq_ok_iff offset).2 ⟨place, hplaces, rfl⟩
    simp [segments, hplace, hmore]

/-- Steps are read up to where none starts. -/
theorem segments_complete {finish : Nat} {ts rest : List Token} {value : List Segment}
    (h : Steps (ts.map Token.kind) value)
    (hrest : ∀ token ∈ rest.head?, token.kind ≠ .mark .dot ∧ token.kind ≠ .mark .openBracket) :
    Reads (segments finish (ts ++ rest)) value rest := by
  generalize hkinds : ts.map Token.kind = kinds at h
  induction h generalizing ts with
  | nil =>
    obtain rfl := List.map_eq_nil_iff.1 hkinds
    exact reads_segments_stop hrest
  | cons hfirst _ ih =>
    obtain ⟨first, others, rfl, rfl, hothers⟩ := List.map_eq_append_iff.1 hkinds
    rw [List.append_assoc]
    exact reads_segments_step hfirst (ih hothers)

section

variable {finish offset : Nat} {ts rest : List Token} {e left : Expr} {level : Level}

/-- A negation is read before its operand. -/
theorem reads_operand_not :
    Reads (operand finish (⟨.mark .not, offset⟩ :: ts)) e rest ↔
      ∃ inner, Reads (operand finish ts) inner rest ∧ e = .negation inner := by
  rw [operand]
  cases operand finish ts with
  | error fault => simp
  | ok inner =>
    constructor
    · intro h
      obtain ⟨rfl, rfl⟩ := (reads_ok_iff _).1 h
      exact ⟨inner.value, ⟨inner.shorter, rfl⟩, rfl⟩
    · rintro ⟨_, ⟨_, hinner⟩, rfl⟩
      cases hinner
      exact (reads_ok_iff _).2 ⟨rfl, rfl⟩

/-- A parenthesis is read with what is inside and the mark that closes it. -/
theorem reads_operand_parenthesis :
    Reads (operand finish (⟨.mark .openParen, offset⟩ :: ts)) e rest ↔
      ∃ close, Reads (parse finish .disjunction ts) e (⟨.mark .closeParen, close⟩ :: rest) := by
  rw [operand]
  cases parse finish .disjunction ts with
  | error fault => simp
  | ok inner =>
    obtain ⟨value, left, shorter⟩ := inner
    cases left with
    | nil => simp [closed]
    | cons token after =>
      obtain ⟨kind, close⟩ := token
      by_cases hkind : kind = .mark .closeParen
      · simp [closed, hkind]
      · simp [closed, hkind, Ne.symm hkind]

/-- A literal is one token. -/
theorem reads_operand_literal {kind : Token.Kind} {value : Json} (h : Literal kind value) :
    Reads (operand finish (⟨kind, offset⟩ :: ts)) (.literal value) ts := by
  refine ⟨Nat.lt_succ_self _, ?_⟩
  match kind, h with
  | .text _, .text _ => rw [operand]
  | .number _, h => rw [operand, eq_numberLiteral h]
  | .mark .trueWord, .trueWord => rw [operand]
  | .mark .falseWord, .falseWord => rw [operand]
  | .mark .nullWord, .nullWord => rw [operand]

/-- A path is read with its steps. -/
theorem reads_operand_name {head : String} :
    Reads (operand finish (⟨.name head, offset⟩ :: ts)) e rest ↔
      ∃ steps, Reads (segments finish ts) steps rest ∧ e = .path ⟨head, steps⟩ := by
  rw [operand]
  cases segments finish ts with
  | error fault => simp
  | ok tail =>
    constructor
    · intro h
      obtain ⟨rfl, rfl⟩ := (reads_ok_iff _).1 h
      exact ⟨tail.value, ⟨tail.shorter, rfl⟩, rfl⟩
    · rintro ⟨_, ⟨_, htail⟩, rfl⟩
      cases htail
      exact (reads_ok_iff _).2 ⟨rfl, rfl⟩

/-- An operand starts with a negation, a parenthesis or a name, or is a literal. -/
theorem reads_operand_cases (h : Reads (operand finish ts) e rest) :
    ∃ kind offset after, ts = ⟨kind, offset⟩ :: after ∧
      (kind = .mark .not ∨ kind = .mark .openParen ∨ (∃ head, kind = .name head) ∨
        ∃ value, Literal kind value) := by
  cases ts with
  | nil =>
    rw [operand] at h
    exact absurd h (not_reads_error _)
  | cons token after =>
    obtain ⟨kind, offset⟩ := token
    refine ⟨kind, offset, after, rfl, Classical.byContradiction fun hother => ?_⟩
    simp only [not_or, not_exists] at hother
    obtain ⟨hnot, hparen, hname, hliteral⟩ := hother
    rw [operand] at h
    · exact not_reads_error _ h
    · exact hnot
    · exact hparen
    · exact fun value hkind => hliteral _ (hkind ▸ Literal.text value)
    · exact fun value hkind => hliteral _ (hkind ▸ literal_number value)
    · exact fun hkind => hliteral _ (hkind ▸ Literal.trueWord)
    · exact fun hkind => hliteral _ (hkind ▸ Literal.falseWord)
    · exact fun hkind => hliteral _ (hkind ▸ Literal.nullWord)
    · exact hname

/-- At the tightest level an operand is read. -/
theorem parse_operand (finish : Nat) (ts : List Token) :
    parse finish .operand ts = operand finish ts := by
  rw [parse]
  rw [dif_pos Level.rank.eq_1]

/-- What is read there is what is read of the operand. -/
theorem reads_parse_operand :
    Reads (parse finish .operand ts) e rest ↔ Reads (operand finish ts) e rest := by
  rw [parse_operand]

/-- At a looser level, a phrase of the next tighter level is read and then what is joined to
it. -/
theorem reads_parse (h : level ≠ .operand) :
    Reads (parse finish level ts) e rest ↔
      ∃ first middle, Reads (parse finish level.tighter ts) first middle ∧
        Reads (chain finish level first middle) e rest := by
  have hrank : level.rank ≠ 0 := by
    cases level <;> simp_all [Level.rank]
  rw [parse]
  rw [dif_neg hrank]
  cases parse finish level.tighter ts with
  | error fault => simp
  | ok first =>
    obtain ⟨value, middle, shorter⟩ := first
    have hfirst : (∃ first after, Reads (.ok ⟨value, middle, shorter⟩) first after ∧
        Reads (chain finish level first after) e rest) ↔
          Reads (chain finish level value middle) e rest := by
      simp [and_assoc]
    rw [hfirst]
    dsimp only
    cases chain finish level value middle with
    | error fault => simp
    | ok all => exact (reads_ok_iff _).trans (reads_ok_iff all.shorter).symm

/-- Nothing is joined where the tokens end, or where the next one joins nothing. -/
theorem reads_chain_stop (h : ∀ token ∈ ts.head?, level.joins token.kind = none) :
    Reads (chain finish level left ts) e rest ↔ e = left ∧ rest = ts := by
  cases ts with
  | nil =>
    rw [chain]
    exact reads_ok_iff _
  | cons token after =>
    have hjoins : level.joins token.kind = none := h token rfl
    rw [chain]
    split
    · exact reads_ok_iff _
    · next join hjoin =>
      rw [hjoins] at hjoin
      cases hjoin

/-- A token that joins is read with the operand behind it, before what is joined further. -/
theorem reads_chain_join {token : Token} {join : Expr → Expr → Expr}
    (h : level.joins token.kind = some join) :
    Reads (chain finish level left (token :: ts)) e rest ↔
      ∃ right middle, Reads (parse finish level.tighter ts) right middle ∧
        Reads (chain finish level (join left right) middle) e rest := by
  rw [chain]
  split
  · next hjoins =>
    rw [h] at hjoins
    cases hjoins
  · next join hjoin =>
    rw [h] at hjoin
    cases hjoin
    cases parse finish level.tighter ts with
    | error fault => simp
    | ok right =>
      obtain ⟨value, middle, shorter⟩ := right
      have hright : (∃ right after, Reads (.ok ⟨value, middle, shorter⟩) right after ∧
          Reads (chain finish level (join left right) after) e rest) ↔
            Reads (chain finish level (join left value) middle) e rest := by
        simp [and_assoc]
      rw [hright]
      dsimp only
      cases chain finish level (join left value) middle with
      | error fault => simp
      | ok all => exact (reads_ok_iff _).trans (reads_ok_iff all.shorter).symm

end

end Parser

end ChatPrompt
