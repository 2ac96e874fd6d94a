import ChatPrompt.Number.Double
import Mathlib.Algebra.Order.Ring.Nat
import Mathlib.Tactic.SplitIfs

/-!
# Rounding keeps the order

A number that is rounded to a format moves to the grid of its own power of two. Inside one power of
two the grid is the same, and rounding to it keeps the order. The next power of two lies on the
grid, so no number is rounded past it, nor below the one that it lies above. Rounding thus keeps the
order of any two numbers, and whole numbers that become doubles stay in the order they had. A
rounded number lies on the grid of its own power of two, so it is not rounded again.
-/

namespace ChatPrompt.Number

/-- A quotient is rounded to itself or to the next number. -/
theorem roundHalfEven_bounds (n d : Nat) :
    n / d ≤ roundHalfEven n d ∧ roundHalfEven n d ≤ n / d + 1 := by
  simp only [roundHalfEven]
  split_ifs <;> omega

/-- A greater quotient by one number is rounded to no less. -/
theorem roundHalfEven_mono {n m : Nat} (d : Nat) (h : n ≤ m) :
    roundHalfEven n d ≤ roundHalfEven m d := by
  have hquotients : n / d ≤ m / d := Nat.div_le_div_right h
  rcases Nat.lt_or_eq_of_le hquotients with hlt | heq
  · have hfirst := (roundHalfEven_bounds n d).2
    have hsecond := (roundHalfEven_bounds m d).1
    omega
  · have hremainders : n % d ≤ m % d := by
      have hn := Nat.div_add_mod n d
      have hm := Nat.div_add_mod m d
      rw [heq] at hn
      omega
    simp only [roundHalfEven, heq]
    split_ifs <;> omega

namespace Format

variable (format : Format)

theorem one_eq : format.one = 2 ^ format.scale := rfl

theorem one_pos : 0 < format.one := Nat.two_pow_pos _

theorem step_eq (units : Nat) :
    format.step units = 2 ^ (units.log2 + 1 - format.precision) := rfl

theorem inRange_iff {units : Nat} :
    format.inRange units = true ↔ units < 2 ^ (format.scale + format.ceiling) := decide_eq_true_iff

/-- A number of units rounded to the grid of its power of two. -/
def toGrid (units : Nat) : Nat := roundHalfEven units (format.step units) * format.step units

/-- A whole number is rounded to its grid. -/
theorem round_one (n : Nat) : format.round n 1 = format.toGrid (n * format.one) := by
  simp [round, toGrid]

/-- A number on its grid is not rounded. -/
theorem toGrid_of_dvd {units : Nat} (h : format.step units ∣ units) :
    format.toGrid units = units := by
  obtain ⟨count, hcount⟩ := h
  have hexact := roundHalfEven_mul count (format.step units) (Nat.two_pow_pos _)
  rw [Nat.mul_comm count, ← hcount] at hexact
  rw [toGrid, hexact, Nat.mul_comm, ← hcount]

/-- What was rounded lies on its grid, also where it has reached the next power of two. -/
theorem step_dvd_round (hprecision : 0 < format.precision) (n d : Nat) :
    format.step (format.round n d) ∣ format.round n d := by
  have hround : format.round n d = roundHalfEven (n * format.one)
      (d * format.step (n * format.one / d)) * format.step (n * format.one / d) := rfl
  generalize hunits : n * format.one / d = units at hround
  have hpos : 0 < format.step units := Nat.two_pow_pos _
  obtain ⟨count, hcount⟩ : format.step units ∣ 2 ^ (units.log2 + 1) :=
    Nat.pow_dvd_pow 2 (Nat.sub_le _ _)
  have hquotient : n * format.one / (d * format.step units) < count := by
    rw [← Nat.div_div_eq_div_mul, hunits, Nat.div_lt_iff_lt_mul hpos, Nat.mul_comm, ← hcount]
    exact Nat.lt_log2_self
  have hle : format.round n d ≤ 2 ^ (units.log2 + 1) := by
    rw [hround, hcount, Nat.mul_comm (format.step units)]
    exact Nat.mul_le_mul_right _ (Nat.le_trans (roundHalfEven_bounds _ _).2 hquotient)
  rcases Nat.lt_or_eq_of_le hle with hlt | heq
  · refine Nat.dvd_trans (Nat.pow_dvd_pow 2 ?_) ⟨_, hround.trans (Nat.mul_comm _ _)⟩
    rcases Nat.eq_zero_or_pos (format.round n d) with hzero | hne
    · rw [hzero, Nat.log2_zero]
      omega
    · have hlog := (Nat.log2_lt (by omega)).2 hlt
      omega
  · rw [heq, step_eq, Nat.log2_two_pow]
    exact Nat.pow_dvd_pow 2 (by omega)

/-- No number is rounded past the power of two above it. -/
theorem toGrid_le (units : Nat) : format.toGrid units ≤ 2 ^ (units.log2 + 1) := by
  obtain ⟨count, hcount⟩ : format.step units ∣ 2 ^ (units.log2 + 1) :=
    Nat.pow_dvd_pow 2 (Nat.sub_le _ _)
  have hpos : 0 < format.step units := Nat.two_pow_pos _
  have hle : units ≤ count * format.step units := by
    rw [Nat.mul_comm, ← hcount]
    exact Nat.le_of_lt Nat.lt_log2_self
  calc format.toGrid units
      ≤ roundHalfEven (count * format.step units) (format.step units) * format.step units :=
        Nat.mul_le_mul_right _ (roundHalfEven_mono _ hle)
    _ = 2 ^ (units.log2 + 1) := by
        rw [roundHalfEven_mul count _ hpos, Nat.mul_comm, ← hcount]

/-- No number is rounded below the power of two that it has reached, if the format keeps a digit. -/
theorem le_toGrid (hprecision : 0 < format.precision) {units : Nat} (hunits : units ≠ 0) :
    2 ^ units.log2 ≤ format.toGrid units := by
  obtain ⟨count, hcount⟩ : format.step units ∣ 2 ^ units.log2 :=
    Nat.pow_dvd_pow 2 (by omega)
  have hpos : 0 < format.step units := Nat.two_pow_pos _
  have hle : count * format.step units ≤ units := by
    rw [Nat.mul_comm, ← hcount]
    exact Nat.log2_self_le hunits
  calc 2 ^ units.log2
      = roundHalfEven (count * format.step units) (format.step units) * format.step units := by
        rw [roundHalfEven_mul count _ hpos, Nat.mul_comm, ← hcount]
    _ ≤ format.toGrid units := Nat.mul_le_mul_right _ (roundHalfEven_mono _ hle)

/-- A greater number is rounded to no less. -/
theorem toGrid_mono (hprecision : 0 < format.precision) {units more : Nat} (h : units ≤ more) :
    format.toGrid units ≤ format.toGrid more := by
  rcases Nat.eq_zero_or_pos units with rfl | hpos
  · have hzero : format.toGrid 0 = 0 := by
      have hround := roundHalfEven_mul 0 (format.step 0) (Nat.two_pow_pos _)
      rw [Nat.zero_mul] at hround
      rw [toGrid, hround, Nat.zero_mul]
    rw [hzero]
    exact Nat.zero_le _
  · have hmore : more ≠ 0 := by omega
    have hlogs : units.log2 ≤ more.log2 :=
      (Nat.le_log2 hmore).2 (Nat.le_trans (Nat.log2_self_le (by omega)) h)
    rcases Nat.lt_or_eq_of_le hlogs with hlt | heq
    · calc format.toGrid units
          ≤ 2 ^ (units.log2 + 1) := format.toGrid_le units
        _ ≤ 2 ^ more.log2 := Nat.pow_le_pow_right (by decide) hlt
        _ ≤ format.toGrid more := format.le_toGrid hprecision hmore
    · have hstep : format.step units = format.step more := by rw [step, step, heq]
      rw [toGrid, toGrid, hstep]
      exact Nat.mul_le_mul_right _ (roundHalfEven_mono _ h)

end Format

/-- Whole numbers that become doubles stay in the order they had. -/
theorem Double.value_ofInt_le {m n : Int} (h : m ≤ n) :
    (Double.ofInt m).value ≤ (Double.ofInt n).value := by
  have hmono : ∀ {a b : Nat}, a ≤ b →
      Format.binary64.round a 1 ≤ Format.binary64.round b 1 := by
    intro a b hab
    rw [Format.round_one, Format.round_one]
    exact Format.binary64.toGrid_mono (by decide) (Nat.mul_le_mul_right _ hab)
  simp only [Double.ofInt, Double.value, decide_eq_true_eq]
  split
  · split
    · have hround := hmono (show n.natAbs ≤ m.natAbs by omega)
      omega
    · omega
  · split
    · omega
    · have hround := hmono (show m.natAbs ≤ n.natAbs by omega)
      omega

end ChatPrompt.Number
