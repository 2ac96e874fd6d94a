import ChatPrompt.Ledger
import Mathlib.Algebra.Order.Ring.Nat
import Mathlib.Data.UInt

/-!
# Laws of the ledger

Charges add up and are undone by going back to a checkpoint, at every level at once. What a
run of optional content can do to a ledger is a series of accepted charges, some of them
inside caps; from this relation everything that holds of such runs is read off. The amounts
that are set aside are measured as natural numbers, for all keys or for some of them only.
-/

namespace ChatPrompt

/-- A difference that stops at zero is one of natural numbers. -/
theorem Tokens.toNat_minus (a b : Tokens) : (a.minus b).toNat = a.toNat - b.toNat := by
  rw [Tokens.minus]
  by_cases h : a < b
  · rw [if_pos h]
    have hlt := UInt64.lt_iff_toNat_lt.1 h
    have hzero : (0 : UInt64).toNat = 0 := rfl
    omega
  · rw [if_neg h]
    exact UInt64.toNat_sub_of_le a b (UInt64.not_lt.1 h)

/-- The sum of some amounts is that of any list. -/
theorem Tokens.total_eq_sum (amounts : List Tokens) : Tokens.total amounts = amounts.sum := rfl

/-- Amounts add up to what natural numbers add up to, as long as that is in their range. -/
theorem Tokens.toNat_sum (amounts : List Tokens)
    (h : (amounts.map UInt64.toNat).sum < 2 ^ 64) :
    amounts.sum.toNat = (amounts.map UInt64.toNat).sum := by
  induction amounts with
  | nil => rfl
  | cons amount rest ih =>
    simp only [List.map_cons, List.sum_cons] at h ⊢
    rw [UInt64.toNat_add, ih (by omega), Nat.mod_eq_of_lt h]

namespace Ledger

variable (ledger : Ledger)

@[simp]
theorem charge_zero : ledger.charge 0 = ledger := by
  simp [charge]

/-- Two charges are one. -/
@[simp]
theorem charge_charge (first second : Tokens) :
    (ledger.charge first).charge second = ledger.charge (first + second) := by
  simp [charge, Function.comp_def, UInt64.add_assoc]

/-- Going back to the checkpoint before a charge undoes it at every level. -/
theorem rollback_charge (amount : Tokens) :
    (ledger.charge amount).rollback ledger.checkpoint = ledger := by
  have hcaps : ∀ caps : List Cap,
      restoreCaps (caps.map fun cap => { cap with spent := cap.spent + amount })
        (caps.map Cap.spent) = caps := by
    intro caps
    induction caps with
    | nil => rfl
    | cons cap rest ih => simp [restoreCaps, ih]
  simp [charge, rollback, checkpoint, hcaps]

/-- What is charged inside a cap is charged outside when the cap is closed. -/
theorem closeCap?_charge_openCap? (limit : Option Tokens) (amount : Tokens) :
    ((ledger.openCap? limit).2.charge amount).closeCap? (ledger.openCap? limit).1 =
      ledger.charge amount := by
  cases limit with
  | none => rfl
  | some limit => simp [openCap?, closeCap?, openCap, closeCap, charge]

/-- Where an amount is accepted, it is charged, and no level refuses it. -/
theorem spend_eq_ok_iff {amount : Tokens} {charged : Ledger} :
    ledger.spend amount = .ok charged ↔
      ledger.refusalLevel? amount = none ∧ charged = ledger.charge amount := by
  rw [spend]
  cases h : ledger.refusalLevel? amount with
  | none => simp [eq_comm]
  | some level => simp

/-- Where an amount is refused, the outermost level that cannot take it is named. -/
theorem spend_eq_error_iff {amount : Tokens} {refusal : Refusal} :
    ledger.spend amount = .error refusal ↔
      ledger.refusalLevel? amount = some refusal.level ∧ refusal.tokens = amount := by
  rw [spend]
  cases h : ledger.refusalLevel? amount with
  | none => simp
  | some level =>
    cases refusal
    simp [eq_comm]

/-- An amount that a run of optional content charges in all: nothing, one amount that every
level takes, the amounts of two runs one after the other, or that of a run inside a cap. -/
inductive Admits : Ledger → Tokens → Prop where
  /-- Nothing is charged. -/
  | nothing (ledger : Ledger) : Admits ledger 0
  /-- One amount is charged. -/
  | single {ledger : Ledger} {amount : Tokens} (h : ledger.refusalLevel? amount = none) :
    Admits ledger amount
  /-- One run follows another. -/
  | next {ledger : Ledger} {first second : Tokens} (before : Admits ledger first)
    (after : Admits (ledger.charge first) second) : Admits ledger (first + second)
  /-- A run inside a cap. -/
  | inside {ledger : Ledger} {limit amount : Tokens}
    (within : Admits (ledger.openCap limit) amount) : Admits ledger amount

/-- A run under an optional cap is one without it. -/
theorem Admits.ofOpenCap? {ledger : Ledger} {limit : Option Tokens} {amount : Tokens}
    (h : (ledger.openCap? limit).2.Admits amount) : ledger.Admits amount := by
  cases limit with
  | none => exact h
  | some limit => exact .inside h

/-- What is set aside under the keys that a test keeps. -/
def held (keep : String → Bool) : Nat :=
  (ledger.floors.map fun floor => if keep floor.1 then floor.2.toNat else 0).sum

/-- What is set aside under any key. -/
def heldInAll : Nat := ledger.held fun _ => true

/-- What is set aside altogether, where that is in the range of amounts. -/
theorem toNat_floorTotal (h : ledger.heldInAll < 2 ^ 64) :
    ledger.floorTotal.toNat = ledger.heldInAll := by
  have hmap : (ledger.floors.map Prod.snd).map UInt64.toNat =
      ledger.floors.map fun floor => if true then floor.2.toNat else 0 := by
    simp [Function.comp_def]
  rw [heldInAll, held] at h ⊢
  rw [← hmap] at h ⊢
  exact Tokens.toNat_sum _ h

/-- Under some keys no more is set aside than under all. -/
theorem held_le_heldInAll (keep : String → Bool) : ledger.held keep ≤ ledger.heldInAll := by
  unfold heldInAll held
  induction ledger.floors with
  | nil => simp
  | cons floor rest ih =>
    simp only [List.map_cons, List.sum_cons] at ih ⊢
    by_cases hkeep : keep floor.1 <;> simp only [hkeep] at ih ⊢ <;> simp at ih ⊢ <;> omega

/-- Charging leaves alone what is set aside. -/
@[simp]
theorem held_charge (keep : String → Bool) (amount : Tokens) :
    (ledger.charge amount).held keep = ledger.held keep := rfl

/-- What is set aside under one key is given up, and nothing else. -/
theorem held_release (keep : String → Bool) (key : String) :
    (ledger.release key).held keep + (if keep key then ledger.held (· == key) else 0) =
      ledger.held keep := by
  simp only [held, release]
  induction ledger.floors with
  | nil => simp
  | cons floor rest ih =>
    obtain ⟨name, amount⟩ := floor
    by_cases hname : name = key
    · subst hname
      by_cases hkeep : keep name <;> simp [hkeep] at ih ⊢ <;> omega
    · by_cases hkey : keep key <;> by_cases hkeep : keep name <;>
        simp [hkeep, hkey, hname] at ih ⊢ <;> omega

/-- Giving up a key never sets more aside. -/
theorem held_release_le (keep : String → Bool) (key : String) :
    (ledger.release key).held keep ≤ ledger.held keep := by
  have h := ledger.held_release keep key
  omega

/-- Giving up one key leaves the other ones alone. -/
theorem held_release_of_ne {key other : String} (h : other ≠ key) :
    (ledger.release key).held (· == other) = ledger.held (· == other) := by
  have hheld := ledger.held_release (· == other) key
  have hne : (key == other) = false := by simpa using Ne.symm h
  simpa [hne] using hheld

/-- What is set aside under a key comes on top of what is there, as long as the sum is in the
range of amounts. -/
theorem held_reserve (keep : String → Bool) (key : String) (amount : Tokens)
    (h : ledger.held (· == key) + amount.toNat < 2 ^ 64) :
    (ledger.reserve key amount).held keep =
      ledger.held keep + if keep key then amount.toNat else 0 := by
  simp only [held, reserve] at *
  revert h
  induction ledger.floors with
  | nil => by_cases hkeep : keep key <;> simp [addFloor, hkeep]
  | cons floor rest ih =>
    obtain ⟨name, there⟩ := floor
    intro h
    by_cases hname : name = key
    · subst hname
      simp only [List.map_cons, List.sum_cons, beq_self_eq_true, if_true] at h
      have hsum : (there + amount).toNat = there.toNat + amount.toNat := by
        rw [UInt64.toNat_add, Nat.mod_eq_of_lt (by omega)]
      by_cases hkeep : keep name <;> simp [addFloor, hkeep, hsum]
      omega
    · have hrest := ih (by simpa [hname] using h)
      by_cases hkeep : keep name <;> simp [addFloor, hname, hkeep] at hrest ⊢ <;> omega

/-- What a level can take of an amount is bounded by what is neither spent nor set aside. -/
theorem toNat_le_of_refusalLevel? {amount : Tokens} (h : ledger.refusalLevel? amount = none) :
    amount.toNat ≤ ledger.capacity.toNat - ledger.spent.toNat - ledger.floorTotal.toNat := by
  rw [refusalLevel?] at h
  by_cases hlt : ledger.available < amount
  · simp [hlt] at h
  · have hle := UInt64.le_iff_toNat_le.1 (UInt64.not_lt.1 hlt)
    rwa [available, Tokens.toNat_minus, Tokens.toNat_minus] at hle

/-- What a run of optional content charges is nothing, or fits beside what is spent and set
aside already. -/
theorem Admits.fits {ledger : Ledger} {amount : Tokens} (h : ledger.Admits amount)
    (hheld : ledger.heldInAll < 2 ^ 64) :
    amount = 0 ∨
      ledger.spent.toNat + ledger.heldInAll + amount.toNat ≤ ledger.capacity.toNat := by
  induction h with
  | nothing ledger => exact Or.inl rfl
  | @single ledger amount h =>
    by_cases hzero : amount = 0
    · exact Or.inl hzero
    · have hle := ledger.toNat_le_of_refusalLevel? h
      have hpos : amount.toNat ≠ 0 := fun h => hzero (UInt64.toNat_inj.1 h)
      rw [ledger.toNat_floorTotal hheld] at hle
      exact Or.inr (by omega)
  | @next ledger first second _ _ ihfirst ihsecond =>
    have hheldFirst : (ledger.charge first).heldInAll = ledger.heldInAll := rfl
    have hfirst := ihfirst hheld
    have hsecond := ihsecond (hheldFirst ▸ hheld)
    have hrange := ledger.capacity.toNat_lt
    rcases hsecond with rfl | hsecond
    · simpa using hfirst
    · rcases hfirst with rfl | hfirst
      · simpa using Or.inr hsecond
      · -- neither sum leaves the range, since the outer one fits the capacity
        have hspent : (ledger.charge first).spent.toNat =
            ledger.spent.toNat + first.toNat := by
          change (ledger.spent + first).toNat = _
          rw [UInt64.toNat_add, Nat.mod_eq_of_lt (by omega)]
        have hcapacity : (ledger.charge first).capacity = ledger.capacity := rfl
        rw [hspent, hheldFirst, hcapacity] at hsecond
        have hsum : (first + second).toNat = first.toNat + second.toNat := by
          rw [UInt64.toNat_add, Nat.mod_eq_of_lt (by omega)]
        exact Or.inr (by omega)
  | inside _ ih => exact ih hheld

end Ledger

end ChatPrompt
