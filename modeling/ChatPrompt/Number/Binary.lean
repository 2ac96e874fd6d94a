/-!
# Rounding to a binary floating format

A format is given by three numbers: how many significant bits it keeps, how fine its
finest grid is, and where its range ends. Every value of the format is a whole number of
the format's units, so magnitudes are natural numbers and rounding is one division. Each
operation on floating numbers in this library is an exact quotient followed by this
rounding.
-/

namespace ChatPrompt.Number

/-- The quotient rounded to the nearest whole number, a half to the even neighbour. -/
def roundHalfEven (numerator denominator : Nat) : Nat :=
  let quotient := numerator / denominator
  let remainder := numerator % denominator
  if 2 * remainder < denominator then quotient
  else if denominator < 2 * remainder then quotient + 1
  else if quotient % 2 = 0 then quotient else quotient + 1

/-- A binary floating format. -/
structure Format where
  /-- The number of significant bits. -/
  precision : Nat
  /-- The unit, which is the least positive value, is two to the minus `scale`. -/
  scale : Nat
  /-- Magnitudes of two to the `ceiling` and above are out of range. -/
  ceiling : Nat
  deriving DecidableEq, Repr

namespace Format

/-- Double precision. -/
def binary64 : Format := ⟨53, 1074, 1024⟩

/-- Single precision. -/
def binary32 : Format := ⟨24, 149, 128⟩

/-- One, in units. -/
def one (format : Format) : Nat := Nat.pow 2 format.scale

/-- The spacing of representable values around a magnitude of `units`: one unit until the
significant bits run out, then a power of two that leaves `precision` of them. -/
def step (format : Format) (units : Nat) : Nat :=
  Nat.pow 2 (units.log2 + 1 - format.precision)

/-- The representable magnitude nearest to a quotient, in units. Ties go to the multiple
of the spacing that is even. -/
def round (format : Format) (numerator denominator : Nat) : Nat :=
  let scaled := numerator * format.one
  let spacing := format.step (scaled / denominator)
  roundHalfEven scaled (denominator * spacing) * spacing

/-- Whether a magnitude lies within the range of the format. -/
def inRange (format : Format) (units : Nat) : Bool :=
  units < Nat.pow 2 (format.scale + format.ceiling)

end Format

/-- A quotient that is whole is not changed by rounding. -/
theorem roundHalfEven_mul (n d : Nat) (h : 0 < d) : roundHalfEven (n * d) d = n := by
  have hq : n * d / d = n := Nat.mul_div_cancel n h
  have hr : n * d % d = 0 := Nat.mul_mod_left n d
  simp [roundHalfEven, hq, hr, h]

end ChatPrompt.Number
