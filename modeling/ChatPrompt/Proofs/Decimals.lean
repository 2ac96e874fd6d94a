import ChatPrompt.Number.Reading
import ChatPrompt.Proofs.Rounding
import Mathlib.Data.List.TakeWhile

/-!
# Whole numbers in decimal digits

A whole number with no more significant bits than a format keeps lies on the grid of its own power
of two, so it is not rounded. Its decimal digits are no name and have no sign, no point and no
exponent, so they are read as exactly that number. So are those of a greater number that lies on
its grid, as every number does that was read before.
-/

namespace ChatPrompt.Number

/-- A whole number that a format has enough bits for lies on its grid. -/
theorem Format.step_dvd_of_lt (format : Format) {n : Nat} (h : n < 2 ^ format.precision) :
    format.step (n * format.one) ∣ n * format.one := by
  rcases Nat.eq_zero_or_pos n with rfl | hpos
  · rw [Nat.zero_mul]
    exact Nat.dvd_zero _
  · have hunits : n * format.one ≠ 0 :=
      Nat.mul_ne_zero (by omega) (Nat.ne_of_gt format.one_pos)
    have hlog : (n * format.one).log2 < format.precision + format.scale := by
      rw [Nat.log2_lt hunits, one_eq, Nat.pow_add]
      exact Nat.mul_lt_mul_of_pos_right h (Nat.two_pow_pos _)
    -- the grid of the number is no coarser than one
    exact Nat.dvd_trans (Nat.pow_dvd_pow 2 (by omega)) (Nat.dvd_mul_left _ _)

/-- A whole number below the end of the range of a format is within it. -/
theorem Format.inRange_of_lt (format : Format) {n : Nat} (h : n < 2 ^ format.ceiling) :
    format.inRange (n * format.one) = true := by
  rw [inRange_iff, one_eq, Nat.add_comm, Nat.pow_add]
  exact Nat.mul_lt_mul_of_pos_right h (Nat.two_pow_pos _)

/-- A whole number of at most 53 bits, as a double. -/
def exactWhole (n : Nat) : Extended := .finite ⟨false, n * Format.binary64.one⟩

/-- An integer of at most 53 bits, as a double. -/
def exactInt (n : Int) : Extended := .finite ⟨n < 0, n.natAbs * Format.binary64.one⟩

/-- A whole number on its grid is a decimal without a fraction. -/
theorem ofDecimal_whole (negative : Bool) {n : Nat}
    (hgrid : Format.binary64.step (n * Format.binary64.one) ∣ n * Format.binary64.one)
    (h : n < 2 ^ 64) :
    Extended.ofDecimal negative n 0 = .finite ⟨negative, n * Format.binary64.one⟩ := by
  have hround : Format.binary64.round n 1 = n * Format.binary64.one :=
    (Format.binary64.round_one n).trans (Format.binary64.toGrid_of_dvd hgrid)
  have hrange : Format.binary64.inRange (n * Format.binary64.one) = true :=
    Format.binary64.inRange_of_lt
      (Nat.lt_of_lt_of_le h (Nat.pow_le_pow_right (by decide) (by decide)))
  have hlength : (Nat.toDigits 10 n).length ≤ 20 :=
    (Nat.length_toDigits_le_iff (by decide) (by decide)).2 (Nat.lt_trans h (by decide))
  rw [Extended.ofDecimal]
  split
  · next hsmall =>
    have hzero : n = 0 := by
      rw [Bool.or_eq_true, decide_eq_true_eq, decide_eq_true_eq] at hsmall
      omega
    rw [hzero, Nat.zero_mul]
  · rw [if_neg (by omega), if_pos (Int.le_refl 0), Int.toNat_zero, Nat.pow_eq, Nat.pow_zero,
      Nat.mul_one, Extended.ofRatio, hround, if_pos hrange]

/-- A whole number of at most 53 bits is a decimal without a fraction. -/
theorem ofDecimal_zero (negative : Bool) {n : Nat} (h : n < 2 ^ 53) :
    Extended.ofDecimal negative n 0 = .finite ⟨negative, n * Format.binary64.one⟩ :=
  ofDecimal_whole negative (Format.binary64.step_dvd_of_lt h) (Nat.lt_trans h (by decide))

/-- A value that is finite lies on the grid of its power of two. -/
def Extended.OnGrid (value : Extended) : Prop :=
  ∀ x, value = .finite x → Format.binary64.step x.units ∣ x.units

/-- Every decimal lies on the grid once it has been rounded. -/
theorem onGrid_ofDecimal (negative : Bool) (digits : Nat) (exponent : Int) :
    (Extended.ofDecimal negative digits exponent).OnGrid := by
  have hratio : ∀ n d, (Extended.ofRatio negative n d).OnGrid := by
    intro n d x hx
    rw [Extended.ofRatio] at hx
    split at hx
    · cases hx
      exact Format.binary64.step_dvd_round (by decide) n d
    · cases hx
  rw [Extended.ofDecimal]
  split_ifs
  · rintro x ⟨⟩
    exact Nat.dvd_zero _
  · rintro x ⟨⟩
  · exact hratio _ _
  · exact hratio _ _

/-- So does every number that is read. -/
theorem onGrid_of_floatOfText? {cs : List Char} {value : Extended}
    (h : floatOfText? cs = some value) : value.OnGrid := by
  rw [floatOfText?, Option.or_eq_some_iff] at h
  rcases h with hnamed | ⟨-, hdecimal⟩
  · have hname : ∀ x, value ≠ .finite x := by
      rintro x rfl
      simp only [namedValue?] at hnamed
      split_ifs at hnamed <;> cases hnamed
    exact fun x hx => absurd hx (hname x)
  · simp only [decimalOfText?, Option.ite_none_left_eq_some, Option.map_eq_some_iff] at hdecimal
    obtain ⟨-, exponent, -, rfl⟩ := hdecimal
    exact onGrid_ofDecimal _ _ _

section

variable {digits : List Char}

/-- Digits have no sign. -/
theorem splitSign_digits (h : ∀ c ∈ digits, c.isDigit = true) :
    splitSign digits = (false, digits) := by
  cases digits with
  | nil => rfl
  | cons c rest =>
    have hdigit := h c List.mem_cons_self
    rw [splitSign]
    · rintro others heq
      obtain ⟨rfl, -⟩ := List.cons.inj heq
      exact absurd hdigit (by decide)
    · rintro others heq
      obtain ⟨rfl, -⟩ := List.cons.inj heq
      exact absurd hdigit (by decide)

/-- A digit is its own small form. -/
theorem toLower_digit {c : Char} (h : c.isDigit = true) : c.toLower = c := by
  simp only [Char.isDigit, Bool.and_eq_true, decide_eq_true_eq] at h
  refine dif_neg fun hupper => ?_
  exact absurd (UInt32.le_trans hupper.1 h.2) (by decide)

/-- Digits are no name. -/
theorem namedValue?_digits (negative : Bool) (h : ∀ c ∈ digits, c.isDigit = true) :
    namedValue? negative digits = none := by
  have hlower : digits.map Char.toLower = digits :=
    (List.map_congr_left fun c hc => toLower_digit (h c hc)).trans (List.map_id digits)
  have hnot : ∀ letter rest, letter.isDigit = false → digits ≠ letter :: rest := by
    rintro letter rest hletter rfl
    rw [h letter List.mem_cons_self] at hletter
    cases hletter
  rw [namedValue?, hlower]
  simp only [Bool.or_eq_true, decide_eq_true_eq]
  rw [if_neg (not_or.2 ⟨hnot _ _ (by decide), hnot _ _ (by decide)⟩),
    if_neg (hnot _ _ (by decide))]

/-- Digits behind a sign that was read are a decimal without a fraction. -/
theorem signedOfText?_digits (negative : Bool) (hne : digits ≠ [])
    (h : ∀ c ∈ digits, c.isDigit = true) :
    (namedValue? negative digits).or (decimalOfText? negative digits) =
      some (Extended.ofDecimal negative (digitsValue digits) 0) := by
  have hwhole : digits.takeWhile Char.isDigit = digits := List.takeWhile_eq_self_iff.2 h
  have htail : digits.dropWhile Char.isDigit = [] := List.dropWhile_eq_nil_iff.2 h
  rw [namedValue?_digits negative h, Option.none_or, decimalOfText?, hwhole, htail]
  simp [hne, exponentOfText?]

/-- Digits are a decimal without a fraction. -/
theorem floatOfText?_digits (hne : digits ≠ []) (h : ∀ c ∈ digits, c.isDigit = true) :
    floatOfText? digits = some (Extended.ofDecimal false (digitsValue digits) 0) := by
  rw [floatOfText?, splitSign_digits h]
  exact signedOfText?_digits false hne h

end

/-- A whole number is written in digits. -/
theorem digits_toDigits (n : Nat) : ∀ c ∈ Nat.toDigits 10 n, c.isDigit = true :=
  fun _ hc => Nat.isDigit_of_mem_toDigits (by decide) (by decide) hc

/-- The digits of a whole number are worth that number. -/
theorem digitsValue_toDigits (n : Nat) : digitsValue (Nat.toDigits 10 n) = n :=
  Nat.ofDigitChars_ten_toDigits

/-- The digits of a whole number of at most 53 bits are read as that number. -/
theorem floatOfText?_toDigits {n : Nat} (h : n < 2 ^ 53) :
    floatOfText? (Nat.toDigits 10 n) = some (exactWhole n) := by
  rw [floatOfText?_digits Nat.toDigits_ne_nil (digits_toDigits n), digitsValue_toDigits,
    ofDecimal_zero false h, exactWhole]

/-- A negative integer is written with a minus sign in front. -/
theorem toList_toString_negSucc (n : Nat) :
    (toString (Int.negSucc n)).toList = '-' :: Nat.toDigits 10 (n + 1) := by
  rw [← Nat.toList_repr]
  exact String.toList_append

/-- What is written for an integer is read as that integer, if it has at most 53 bits. -/
theorem floatOfText?_toString {n : Int} (h : n.natAbs < 2 ^ 53) :
    floatOfText? (toString n).toList = some (exactInt n) := by
  cases n with
  | ofNat n =>
    have htext : (toString (Int.ofNat n)).toList = Nat.toDigits 10 n := Nat.toList_repr
    have hread : floatOfText? (Nat.toDigits 10 n) = some (exactWhole n) := floatOfText?_toDigits h
    rw [htext, hread]
    rfl
  | negSucc n =>
    have hdecimal : Extended.ofDecimal true (n + 1) 0 = exactInt (Int.negSucc n) := by
      rw [exactInt, decide_eq_true (Int.negSucc_lt_zero n)]
      exact ofDecimal_zero true h
    have hread := signedOfText?_digits true Nat.toDigits_ne_nil (digits_toDigits (n + 1))
    rw [digitsValue_toDigits, hdecimal] at hread
    rw [toList_toString_negSucc]
    exact hread

end ChatPrompt.Number
