import ChatPrompt.Proofs.Shapes
import Mathlib.Algebra.Order.Ring.Int

/-!
# Numbers that fit their fields

The schema knows nothing of how many bits a number has, and a number that is written with a
fraction of nought is an integer to the schema but to no reader. What is asked of the numbers
of a document besides the schema is that each is whole and fits the field under which it
stands. It is asked only where a template has a number: conditions, arguments and data of the
author may hold any.
-/

namespace ChatPrompt

open Schema Record

namespace Template

/-- Whether a number is whole and lies within bounds. Nothing is asked of other values. -/
def isWithin (low high : Int) : Json → Bool
  | .number (.whole n) => low ≤ n && n < high
  | .number (.floating _) => false
  | _ => true

/-- Whether a number fits 32 bits without a sign. -/
def fitsWord32 : Json → Bool := isWithin 0 (2 ^ 32)

/-- Whether a number fits 64 bits without a sign. -/
def fitsWord64 : Json → Bool := isWithin 0 (2 ^ 64)

/-- Whether a number fits 32 bits with a sign. -/
def fitsInt32 : Json → Bool := isWithin (-2 ^ 31) (2 ^ 31)

mutual

/-- Whether the numbers of a plan fit. -/
def planFits : Json → Bool
  | .array steps => stepsFit steps
  | _ => true

/-- Whether the numbers of several steps fit. -/
def stepsFit : List Json → Bool
  | [] => true
  | step :: rest => stepFits step && stepsFit rest

/-- Whether the numbers of a step of a plan fit, those of its own and those of the plans that
it holds. -/
def stepFits : Json → Bool
  | .object fields => partsFit fields
  | _ => true

/-- Whether the numbers in the fields of a step fit. -/
def partsFit : Json.Fields → Bool
  | [] => true
  | (key, value) :: rest =>
    (!(["limit", "budget"].contains key) || fitsWord64 value) &&
      (!(["map", "then", "else"].contains key) || planFits value) && partsFit rest

end

/-- Whether the values under some keys fit as it is said for each key. -/
def fieldsFit (known : List (String × (Json → Bool))) : Json → Bool
  | .object fields => fields.all fun field =>
    match known.lookup field.1 with
    | some fits => fits field.2
    | none => true
  | _ => true

/-- Whether the numbers of a slot fit. -/
def slotFits : Json → Bool :=
  fieldsFit [("priority", fitsInt32), ("budget", fitsWord64), ("plan", planFits)]

/-- Whether the numbers of a lane fit. -/
def laneFits : Json → Bool := fieldsFit [("order", fitsInt32), ("reserveTokens", fitsWord64)]

/-- Whether the numbers of the slots fit. -/
def slotsFit : Json → Bool
  | .object fields => fields.all fun field => slotFits field.2
  | _ => true

/-- Whether the numbers of the lanes fit. -/
def lanesFit : Json → Bool
  | .array lanes => lanes.all laneFits
  | _ => true

/-- Whether every number of a template that is to be an integer is a whole number that fits
its field. -/
def numbersFit : Json → Bool :=
  fieldsFit [("version", fitsWord32), ("slots", slotsFit), ("attachments", lanesFit)]

/-- The value under a key fits as it is said for that key. -/
theorem fits_of_lookup {known : List (String × (Json → Bool))} {fields : Json.Fields}
    {key : String} {fits : Json → Bool} {value : Json} (h : fieldsFit known (.object fields))
    (hknown : known.lookup key = some fits) (hlookup : fields.lookup key = some value) :
    fits value = true := by
  have hfield := List.all_eq_true.1 h (key, value) (Keyed.mem_of_lookup hlookup)
  simpa [hknown] using hfield

/-- The numbers in every field of a step fit. -/
theorem partsFit_iff {fields : Json.Fields} :
    partsFit fields = true ↔ ∀ field ∈ fields,
      (field.1 ∈ ["limit", "budget"] → fitsWord64 field.2 = true) ∧
        (field.1 ∈ ["map", "then", "else"] → planFits field.2 = true) := by
  induction fields with
  | nil => simp [partsFit]
  | cons field rest ih =>
    obtain ⟨key, value⟩ := field
    rw [partsFit, Bool.and_eq_true, ih, List.forall_mem_cons]
    refine and_congr_left fun _ => ?_
    simp only [Bool.and_eq_true, Bool.or_eq_true, Bool.not_eq_true', List.contains_iff_mem,
      ← Bool.not_eq_true, ← Decidable.imp_iff_not_or]

/-- The limits and budgets of a step fit. -/
theorem fitsWord64_of_stepFits {fields : Json.Fields} {key : String} {value : Json}
    (h : stepFits (.object fields)) (hkey : key ∈ ["limit", "budget"])
    (hlookup : fields.lookup key = some value) : fitsWord64 value = true :=
  (partsFit_iff.1 h (key, value) (Keyed.mem_of_lookup hlookup)).1 hkey

/-- The numbers in the plans of a step fit. -/
theorem planFits_of_stepFits {fields : Json.Fields} {key : String} {value : Json}
    (h : stepFits (.object fields)) (hkey : key ∈ ["map", "then", "else"])
    (hlookup : fields.lookup key = some value) : planFits value = true :=
  (partsFit_iff.1 h (key, value) (Keyed.mem_of_lookup hlookup)).2 hkey

/-- The numbers of a plan fit if those of each step do. -/
theorem stepFits_of_mem {steps : List Json} {step : Json} (h : planFits (.array steps))
    (hmem : step ∈ steps) : stepFits step = true := by
  rw [planFits] at h
  induction steps with
  | nil => cases hmem
  | cons first rest ih =>
    rw [stepsFit, Bool.and_eq_true] at h
    rcases List.mem_cons.1 hmem with rfl | hrest
    · exact h.1
    · exact ih h.2 hrest

variable {meaning : String → Json → Prop} {value : Json}

/-- A count that fits 64 bits is read as such a number. -/
theorem exists_word64? (h : countSchema.Admits meaning value) (hfits : fitsWord64 value) :
    ∃ n ∈ word64? value, True := by
  obtain ⟨n, rfl, -⟩ := exists_number_of_admits_countSchema h
  cases n with
  | whole n => exact ⟨UInt64.ofNat n.toNat, if_pos hfits, trivial⟩
  | floating x => cases hfits

theorem exists_word32? (h : countSchema.Admits meaning value) (hfits : fitsWord32 value) :
    ∃ n ∈ word32? value, True := by
  obtain ⟨n, rfl, -⟩ := exists_number_of_admits_countSchema h
  cases n with
  | whole n => exact ⟨UInt32.ofNat n.toNat, if_pos hfits, trivial⟩
  | floating x => cases hfits

theorem exists_natural? (h : countSchema.Admits meaning value) (hfits : fitsWord64 value) :
    ∃ n ∈ natural? value, True := by
  obtain ⟨n, rfl, hbelow⟩ := exists_number_of_admits_countSchema h
  cases n with
  | whole n => exact ⟨n.toNat, if_pos (by simpa [isBelow] using hbelow), trivial⟩
  | floating x => cases hfits

/-- An integer that fits 32 bits is read as such a number. -/
theorem exists_int32? (h : integerSchema.Admits meaning value) (hfits : fitsInt32 value) :
    ∃ n ∈ int32? value, True := by
  obtain ⟨n, rfl⟩ := exists_number_of_admits_integerSchema h
  cases n with
  | whole n => exact ⟨Int32.ofInt n, if_pos hfits, trivial⟩
  | floating x => cases hfits

end Template

end ChatPrompt
