import ChatPrompt.Injection.Request
import ChatPrompt.Render.Layout

/-!
# Where an injected message goes

The targets of a request are turned into a gap between messages, counted from the top. The
first target next to a key that some message carries decides; if there is none, the last
target at an edge does; and without one of these the message goes to the bottom.
-/

namespace ChatPrompt.Injection

open Render

/-- The gap next to the first message with a key. -/
def anchoredGap (placed : List Placed) : Target → Option Nat
  | .anchored key after =>
    (placed.findIdx? fun entry => entry.mark.any fun mark => mark.key == key).map fun index =>
      if after then index + 1 else index
  | .boundary _ _ => none

/-- The gap away from an edge, among so many messages. -/
def boundaryGap (count : Nat) : Target → Option Nat
  | .anchored _ _ => none
  | .boundary .top distance => some (min distance count)
  | .boundary .bottom distance => some (count - distance)

/-- The gap that some targets lead to. -/
def position (targets : List Target) (placed : List Placed) : Nat :=
  ((targets.findSome? (anchoredGap placed)).or
    (targets.reverse.findSome? (boundaryGap placed.length))).getD placed.length

/-- Puts messages into gaps, given in the order of the gaps, from a message on. -/
def weaveFrom (index : Nat) : List Placed → List (Nat × Placed) → List Placed
  | [], inserts => inserts.map Prod.snd
  | entry :: rest, inserts =>
    (inserts.takeWhile fun insert => insert.1 ≤ index).map Prod.snd ++
      entry :: weaveFrom (index + 1) rest (inserts.dropWhile fun insert => insert.1 ≤ index)

/-- Puts messages into gaps. Those that share a gap keep their order. -/
def weave (placed : List Placed) (inserts : List (Nat × Placed)) : List Placed :=
  weaveFrom 0 placed (inserts.mergeSort fun a b => a.1 ≤ b.1)

/-- A gap lies among the messages or at one of their ends. -/
theorem position_le (targets : List Target) (placed : List Placed) :
    position targets placed ≤ placed.length := by
  have hanchored : ∀ target gap, anchoredGap placed target = some gap → gap ≤ placed.length := by
    intro target gap h
    cases target with
    | boundary edge distance => simp [anchoredGap] at h
    | anchored key after =>
      simp only [anchoredGap, Option.map_eq_some_iff] at h
      obtain ⟨index, hindex, rfl⟩ := h
      have hlt := (List.findIdx?_eq_some_iff_getElem.1 hindex).1
      cases after <;> simp <;> omega
  have hboundary : ∀ target gap, boundaryGap placed.length target = some gap →
      gap ≤ placed.length := by
    intro target gap h
    cases target with
    | anchored key after => simp [boundaryGap] at h
    | boundary edge distance =>
      cases edge with
      | top =>
        simp only [boundaryGap, Option.some.injEq] at h
        omega
      | bottom =>
        simp only [boundaryGap, Option.some.injEq] at h
        omega
  unfold position
  cases ha : targets.findSome? (anchoredGap placed) with
  | some gap =>
    obtain ⟨target, _, htarget⟩ := List.exists_of_findSome?_eq_some ha
    simpa using hanchored target gap htarget
  | none =>
    cases hb : targets.reverse.findSome? (boundaryGap placed.length) with
    | some gap =>
      obtain ⟨target, _, htarget⟩ := List.exists_of_findSome?_eq_some hb
      simpa using hboundary target gap htarget
    | none => simp

end ChatPrompt.Injection
