import ChatPrompt.Proofs.Operations
import ChatPrompt.Proofs.Room

/-!
# Properly nested use of a ledger is safe

A program spends amounts and gives up what is set aside. It does so inside caps, and in attempts
that are kept or taken back; these lie inside each other like the blocks of a program text, so that
every cap is closed where it was opened. In a safe ledger what is spent and what is set aside fit
the capacity together, no cap is overdrawn, and no level has spent more than the ones around it.
Each operation of a program keeps a ledger safe. What a program does in all is a charge at every
level, beside the floors that it gave up: so each block ends under the caps that were open when it
began, and an attempt that is taken back leaves no less than there was.
-/

namespace ChatPrompt.Ledger

/-! ### Safe ledgers -/

/-- Nothing is overdrawn. The amounts are added up as numbers without a range. -/
structure IsSafe (ledger : Ledger) : Prop where
  /-- What is spent and what is set aside fit the capacity together. -/
  committed_le : ledger.spent.toNat + ledger.heldInAll ≤ ledger.capacity.toNat
  /-- No cap is overdrawn. -/
  spent_le_limit : ∀ cap ∈ ledger.caps, cap.spent ≤ cap.limit
  /-- No level has spent more than one outside it. -/
  nested : (ledger.spent :: ledger.caps.map Cap.spent).Pairwise fun outer inner => inner ≤ outer

/-- An amount that fits is added to no more than what is spent without leaving the range. -/
theorem toNat_add_of_le_spent (ledger : Ledger) {spent amount : Tokens}
    (hspent : spent ≤ ledger.spent) (hfits : amount.toNat ≤ ledger.remaining.toNat) :
    (spent + amount).toNat = spent.toNat + amount.toNat := by
  have hgrown := ledger.toNat_spent_charge hfits
  have hrange := (ledger.charge amount).spent.toNat_lt
  have hle := UInt64.le_iff_toNat_le.1 hspent
  rw [UInt64.toNat_add, Nat.mod_eq_of_lt (by omega)]

namespace IsSafe

variable {ledger : Ledger} (h : ledger.IsSafe)

include h

/-- What is set aside is in the range of amounts, so the ledger adds it up as it is. -/
theorem toNat_floorTotal : ledger.floorTotal.toNat = ledger.heldInAll := by
  have hcommitted := h.committed_le
  have hcapacity := ledger.capacity.toNat_lt
  exact ledger.toNat_floorTotal (by omega)

/-- No cap has spent more than the whole. -/
theorem spent_le_spent : ∀ cap ∈ ledger.caps, cap.spent ≤ ledger.spent := by
  intro cap hcap
  exact (List.pairwise_cons.1 h.nested).1 _ (List.mem_map_of_mem hcap)

/-- An amount that fits can be charged. -/
theorem charge {amount : Tokens} (hfits : amount.toNat ≤ ledger.remaining.toNat) :
    (ledger.charge amount).IsSafe := by
  obtain ⟨havailable, hrooms⟩ := (ledger.le_toNat_remaining_iff _).1 hfits
  refine ⟨?_, ?_, ?_⟩
  · have hcommitted := h.committed_le
    have hgrown := ledger.toNat_spent_charge hfits
    have hheld : (ledger.charge amount).heldInAll = ledger.heldInAll := rfl
    rw [available, Tokens.toNat_minus, Tokens.toNat_minus, h.toNat_floorTotal] at havailable
    change _ ≤ ledger.capacity.toNat
    omega
  · intro cap hcap
    obtain ⟨before, hbefore, rfl⟩ := List.mem_map.1 hcap
    have hroom := hrooms before hbefore
    have hgrown := ledger.toNat_add_of_le_spent (h.spent_le_spent before hbefore) hfits
    have hlimit := UInt64.le_iff_toNat_le.1 (h.spent_le_limit before hbefore)
    rw [Cap.room, Tokens.toNat_minus] at hroom
    rw [UInt64.le_iff_toNat_le]
    change (before.spent + amount).toNat ≤ before.limit.toNat
    omega
  · -- every level has spent the same amount more
    have hlevels : (ledger.charge amount).spent :: (ledger.charge amount).caps.map Cap.spent =
        (ledger.spent :: ledger.caps.map Cap.spent).map (· + amount) := by
      simp [Ledger.charge]
    rw [hlevels, List.pairwise_map]
    refine h.nested.imp_of_mem fun {outer inner} houter hinner hle => ?_
    have hspent : ∀ spent ∈ ledger.spent :: ledger.caps.map Cap.spent, spent ≤ ledger.spent :=
      List.forall_mem_cons.2 ⟨UInt64.le_refl _, List.forall_mem_map.2 h.spent_le_spent⟩
    have hmore := ledger.toNat_add_of_le_spent (hspent outer houter) hfits
    have hless := ledger.toNat_add_of_le_spent (hspent inner hinner) hfits
    have hnat := UInt64.le_iff_toNat_le.1 hle
    rw [UInt64.le_iff_toNat_le]
    omega

/-- Floors can be given up. -/
theorem ofFloors {floors : List (String × Tokens)} (hfloors : floors.Sublist ledger.floors) :
    ({ ledger with floors := floors } : Ledger).IsSafe := by
  have hheld : ({ ledger with floors := floors } : Ledger).heldInAll ≤ ledger.heldInAll :=
    (hfloors.map _).sum_le_sum fun _ _ => Nat.zero_le _
  have hcommitted := h.committed_le
  exact ⟨by dsimp only; omega, h.spent_le_limit, h.nested⟩

/-- A cap can be opened. -/
theorem openCap (limit : Tokens) : (ledger.openCap limit).IsSafe := by
  refine ⟨h.committed_le, ?_, ?_⟩
  · exact List.forall_mem_append.2 ⟨h.spent_le_limit,
      List.forall_mem_singleton.2 (UInt64.zero_le)⟩
  · have hlevels : (ledger.openCap limit).spent :: (ledger.openCap limit).caps.map Cap.spent =
        (ledger.spent :: ledger.caps.map Cap.spent) ++ [0] := by
      simp [Ledger.openCap]
    rw [hlevels, List.pairwise_append]
    refine ⟨h.nested, List.pairwise_singleton _ _, fun outer _ inner hinner => ?_⟩
    rw [List.mem_singleton.1 hinner]
    exact UInt64.zero_le

/-- The innermost cap can be closed. -/
theorem closeCap : ledger.closeCap.IsSafe := by
  have hcaps : ledger.caps.dropLast.Sublist ledger.caps := List.dropLast_sublist _
  exact ⟨h.committed_le, fun cap hcap => h.spent_le_limit cap (hcaps.subset hcap),
    h.nested.sublist ((hcaps.map Cap.spent).cons_cons _)⟩

end IsSafe

/-! ### Programs -/

/-- A properly nested use of a ledger. Where a choice depends on what happened before, each run of
it is the run of a program in which the choice is made. -/
inductive Program where
  /-- Nothing is asked. -/
  | nothing
  /-- An amount is charged if it fits. -/
  | spend (tokens : Tokens)
  /-- What is set aside under a key is given up. -/
  | release (key : String)
  /-- One program follows another. -/
  | next (first others : Program)
  /-- A program runs inside a cap. -/
  | capped (limit : Tokens) (body : Program)
  /-- What a program spent is kept at its end, or else taken back. -/
  | attempt (isKept : Bool) (body : Program)
  deriving DecidableEq, Repr

namespace Program

/-- What a program asks of a ledger. -/
def log : Program → Ledger → List Operation
  | .nothing, _ => []
  | .spend tokens, _ => [.spend tokens]
  | .release key, _ => [.release key]
  | .next first others, ledger =>
    first.log ledger ++ others.log (ledger.replay (first.log ledger))
  | .capped limit body, ledger =>
    .openCap limit :: (body.log (ledger.openCap limit) ++ [.closeCap])
  | .attempt true body, ledger => body.log ledger
  | .attempt false body, ledger => body.log ledger ++ [.rollback ledger.checkpoint]

/-- The ledger after a program. -/
def run (program : Program) (ledger : Ledger) : Ledger := ledger.replay (program.log ledger)

/-- The parts of a program that run, each with the ledger that it begins with. -/
inductive Enters : Program → Ledger → Program → Ledger → Prop where
  /-- A program is a part of itself. -/
  | here (program : Program) (ledger : Ledger) : Enters program ledger program ledger
  /-- A part of the first of two programs. -/
  | first {first : Program} {ledger : Ledger} {part : Program} {start : Ledger}
    (others : Program) (h : Enters first ledger part start) :
    Enters (.next first others) ledger part start
  /-- A part of the second of two programs. -/
  | others {first others : Program} {ledger : Ledger} {part : Program} {start : Ledger}
    (h : Enters others (first.run ledger) part start) :
    Enters (.next first others) ledger part start
  /-- A part of what runs inside a cap. -/
  | capped {limit : Tokens} {body : Program} {ledger : Ledger} {part : Program} {start : Ledger}
    (h : Enters body (ledger.openCap limit) part start) :
    Enters (.capped limit body) ledger part start
  /-- A part of an attempt. -/
  | attempt {body : Program} {ledger : Ledger} {part : Program} {start : Ledger}
    (isKept : Bool) (h : Enters body ledger part start) :
    Enters (.attempt isKept body) ledger part start

/-- The cap of a program is closed behind it. -/
theorem run_capped (limit : Tokens) (body : Program) (ledger : Ledger) :
    (capped limit body).run ledger = (body.run (ledger.openCap limit)).closeCap := by
  rw [run, log, replay_cons, replay_append]
  rfl

/-- What an attempt spent is taken back behind it. -/
theorem run_attempt_false (body : Program) (ledger : Ledger) :
    (attempt false body).run ledger = (body.run ledger).rollback ledger.checkpoint := by
  rw [run, log, replay_append]
  rfl

/-- One program runs behind the other. -/
theorem run_next (first others : Program) (ledger : Ledger) :
    (next first others).run ledger = others.run (first.run ledger) := by
  rw [run, log, replay_append]
  rfl

/-- What a program does in all is a charge, beside the floors that it gives up. -/
theorem exists_run_eq (program : Program) (ledger : Ledger) :
    ∃ (amount : Tokens) (floors : List (String × Tokens)), floors.Sublist ledger.floors ∧
      program.run ledger = { ledger.charge amount with floors := floors } := by
  induction program generalizing ledger with
  | nothing => exact ⟨0, ledger.floors, .refl _, by rw [charge_zero]; rfl⟩
  | spend tokens =>
    by_cases hfits : ledger.fits tokens = true
    · exact ⟨tokens, ledger.floors, .refl _, if_pos hfits⟩
    · exact ⟨0, ledger.floors, .refl _, by rw [charge_zero]; exact if_neg hfits⟩
  | release key =>
    exact ⟨0, _, List.filter_sublist, by rw [charge_zero]; rfl⟩
  | next first others ihfirst ihothers =>
    obtain ⟨amount, floors, hfloors, hfirst⟩ := ihfirst ledger
    obtain ⟨more, left, hleft, hothers⟩ := ihothers (first.run ledger)
    rw [hfirst] at hleft hothers
    refine ⟨amount + more, left, hleft.trans hfloors, ?_⟩
    rw [run_next, hfirst, hothers, ← charge_charge]
    rfl
  | capped limit body ih =>
    obtain ⟨amount, floors, hfloors, hbody⟩ := ih (ledger.openCap limit)
    refine ⟨amount, floors, hfloors, ?_⟩
    rw [run_capped, hbody]
    simp [openCap, closeCap, charge]
  | attempt isKept body ih =>
    obtain ⟨amount, floors, hfloors, hbody⟩ := ih ledger
    cases isKept with
    | true => exact ⟨amount, floors, hfloors, hbody⟩
    | false =>
      refine ⟨0, floors, hfloors, ?_⟩
      have hback := ledger.rollback_charge amount
      rw [run_attempt_false, hbody, charge_zero]
      exact congrArg (fun back : Ledger => { back with floors := floors }) hback

/-- A program ends under the caps that were open before it. -/
theorem limits_run (program : Program) (ledger : Ledger) :
    (program.run ledger).caps.map Cap.limit = ledger.caps.map Cap.limit := by
  obtain ⟨amount, floors, -, hrun⟩ := program.exists_run_eq ledger
  rw [hrun]
  exact ledger.limits_charge amount

/-- An attempt that is taken back has given up some floors, and has done nothing else. -/
theorem exists_run_attempt_false (body : Program) (ledger : Ledger) :
    ∃ floors, floors.Sublist ledger.floors ∧
      (attempt false body).run ledger = { ledger with floors := floors } := by
  obtain ⟨amount, floors, hfloors, hbody⟩ := body.exists_run_eq ledger
  refine ⟨floors, hfloors, ?_⟩
  rw [run_attempt_false, hbody]
  exact congrArg (fun back : Ledger => { back with floors := floors })
    (ledger.rollback_charge amount)

/-- A part of a program runs at its place among what the program asks. -/
theorem Enters.exists_log {program part : Program} {ledger start : Ledger}
    (h : program.Enters ledger part start) :
    ∃ before after, program.log ledger = before ++ part.log start ++ after ∧
      ledger.replay before = start := by
  induction h with
  | here program ledger => exact ⟨[], [], by simp, rfl⟩
  | first others _ ih =>
    obtain ⟨before, after, hlog, hstart⟩ := ih
    exact ⟨before, _, by rw [log, hlog, List.append_assoc], hstart⟩
  | @others first others ledger part start _ ih =>
    obtain ⟨before, after, hlog, hstart⟩ := ih
    refine ⟨first.log ledger ++ before, after, ?_, ?_⟩
    · rw [log, ← run, hlog]
      simp
    · rw [replay_append]
      exact hstart
  | @capped limit body ledger part start _ ih =>
    obtain ⟨before, after, hlog, hstart⟩ := ih
    exact ⟨.openCap limit :: before, after ++ [.closeCap], by simp [log, hlog], hstart⟩
  | attempt isKept _ ih =>
    obtain ⟨before, after, hlog, hstart⟩ := ih
    cases isKept with
    | true => exact ⟨before, after, hlog, hstart⟩
    | false => exact ⟨before, _, by rw [log, hlog, List.append_assoc], hstart⟩

end Program

/-! ### Programs in safe ledgers -/

/-- A ledger is safe after however many of some operations. -/
def IsSafeAlong (ledger : Ledger) (log : List Operation) : Prop :=
  ∀ taken, taken <+: log → (ledger.replay taken).IsSafe

/-- A ledger is safe along operations if it is along the first of them and then along the others. -/
theorem IsSafeAlong.append {ledger : Ledger} {log others : List Operation}
    (hlog : ledger.IsSafeAlong log) (hothers : (ledger.replay log).IsSafeAlong others) :
    ledger.IsSafeAlong (log ++ others) := by
  intro taken htaken
  rcases List.prefix_or_prefix_of_prefix htaken (List.prefix_append log others) with hin | hpast
  · exact hlog taken hin
  · obtain ⟨more, rfl⟩ := hpast
    rw [replay_append]
    exact hothers more ((List.prefix_append_right_inj log).1 htaken)

/-- A ledger is safe along one operation if it is before and after it. -/
theorem IsSafe.along {ledger : Ledger} (h : ledger.IsSafe) {operation : Operation}
    (hafter : (operation.perform ledger).IsSafe) : ledger.IsSafeAlong [operation] := by
  intro taken htaken
  rcases List.prefix_cons_iff.1 htaken with rfl | ⟨more, rfl, hmore⟩
  · exact h
  · rw [List.prefix_nil.1 hmore]
    exact hafter

/-- A safe ledger is safe along a program. -/
theorem IsSafe.alongProgram {ledger : Ledger} (h : ledger.IsSafe) (program : Program) :
    ledger.IsSafeAlong (program.log ledger) := by
  induction program generalizing ledger with
  | nothing =>
    intro taken htaken
    rw [List.prefix_nil.1 htaken]
    exact h
  | spend tokens =>
    refine h.along ?_
    rw [Operation.perform]
    split
    · next hfits =>
      exact h.charge ((ledger.refusalLevel?_eq_none_iff tokens).1 (Option.isNone_iff_eq_none.1 hfits))
    · exact h
  | release key => exact h.along (h.ofFloors List.filter_sublist)
  | next first others ihfirst ihothers =>
    have hbetween : (first.run ledger).IsSafe := ihfirst h _ List.prefix_rfl
    exact (ihfirst h).append (ihothers hbetween)
  | capped limit body ih =>
    have hopened : (ledger.openCap limit).IsSafe := h.openCap limit
    have hinside : (body.run (ledger.openCap limit)).IsSafe := ih hopened _ List.prefix_rfl
    have hopen : ledger.IsSafeAlong [.openCap limit] := h.along hopened
    have hclose : (body.run (ledger.openCap limit)).IsSafeAlong [.closeCap] :=
      hinside.along hinside.closeCap
    exact hopen.append ((ih hopened).append hclose)
  | attempt isKept body ih =>
    cases isKept with
    | true => exact ih h
    | false =>
      have htried : (body.run ledger).IsSafe := ih h _ List.prefix_rfl
      obtain ⟨floors, hfloors, hback⟩ := body.exists_run_attempt_false ledger
      rw [Program.run_attempt_false] at hback
      refine (ih h).append (htried.along ?_)
      change ((body.run ledger).rollback ledger.checkpoint).IsSafe
      rw [hback]
      exact h.ofFloors hfloors

/-- No less is left where floors are given up. -/
theorem IsSafe.remaining_le_ofFloors {ledger : Ledger} (h : ledger.IsSafe)
    {floors : List (String × Tokens)} (hfloors : floors.Sublist ledger.floors) :
    ledger.remaining ≤ ({ ledger with floors := floors } : Ledger).remaining := by
  have htotal := h.toNat_floorTotal
  have hless := (h.ofFloors hfloors).toNat_floorTotal
  have hheld : ({ ledger with floors := floors } : Ledger).heldInAll ≤ ledger.heldInAll :=
    (hfloors.map _).sum_le_sum fun _ _ => Nat.zero_le _
  have hleft := (ledger.le_toNat_remaining_iff _).1 (Nat.le_refl _)
  refine UInt64.le_iff_toNat_le.2 ((le_toNat_remaining_iff _ _).2 ⟨?_, hleft.2⟩)
  have havailable := hleft.1
  rw [available, Tokens.toNat_minus, htotal] at havailable
  rw [available, Tokens.toNat_minus, hless]
  change _ ≤ (ledger.capacity.minus ledger.spent).toNat - _
  omega

/-- Properly nested use of a ledger is safe. From a safe ledger on, the ledger is safe after every
operation of a program. Each part of the program, wherever it stands, ends at the depth at which it
began and under caps with the same limits; and if it is an attempt that is taken back, then there is
spent, altogether and inside each cap, what was spent at its beginning, and no less is left. -/
theorem isSafe_throughout {ledger : Ledger} (h : ledger.IsSafe) (program : Program) :
    (∀ taken, taken <+: program.log ledger → (ledger.replay taken).IsSafe) ∧
    ∀ (part : Program) (start : Ledger), program.Enters ledger part start →
      (∃ before after, program.log ledger = before ++ part.log start ++ after ∧
        ledger.replay before = start) ∧
      (part.run start).depth = start.depth ∧
      (part.run start).caps.map Cap.limit = start.caps.map Cap.limit ∧
      ∀ body, part = .attempt false body →
        (part.run start).spent = start.spent ∧
        (part.run start).caps.map Cap.spent = start.caps.map Cap.spent ∧
        start.remaining ≤ (part.run start).remaining := by
  have halong := h.alongProgram program
  refine ⟨halong, fun part start henters => ?_⟩
  obtain ⟨before, after, hlog, hstart⟩ := henters.exists_log
  have hlimits := part.limits_run start
  have hdepth : (part.run start).depth = start.depth := by
    simpa [depth] using congrArg List.length hlimits
  refine ⟨⟨before, after, hlog, hstart⟩, hdepth, hlimits, ?_⟩
  rintro body rfl
  have hsafe : start.IsSafe := by
    rw [← hstart]
    refine halong before ?_
    rw [hlog, List.append_assoc]
    exact List.prefix_append _ _
  obtain ⟨floors, hfloors, hrun⟩ := body.exists_run_attempt_false start
  rw [hrun]
  exact ⟨rfl, rfl, hsafe.remaining_le_ofFloors hfloors⟩

end ChatPrompt.Ledger

namespace ChatPrompt.Sample

/-- A ledger inside a cap, with something set aside. -/
def openLedger : Ledger := ⟨20, 5, [("note", 4)], [⟨10, 3⟩]⟩

/-- An attempt that spends and gives up what is set aside, before it is taken back. -/
def attempt : Ledger.Program := .attempt false (.next (.spend 3) (.release "note"))

/-- An attempt inside a cap, behind an amount that fits and before one that does not. -/
def program : Ledger.Program := .capped 6 (.next (.spend 2) (.next attempt (.spend 5)))

end ChatPrompt.Sample

namespace ChatPrompt.Ledger

open Sample in
/-- The attempt leaves more than there was before, and what follows it does not fit its cap. -/
theorem isSafe_throughout_sample :
    openLedger.IsSafe ∧
      (openLedger.replay ((program.log openLedger).take 3)).IsSafe ∧
      program.Enters openLedger attempt ⟨20, 7, [("note", 4)], [⟨10, 5⟩, ⟨6, 2⟩]⟩ ∧
      (attempt.run ⟨20, 7, [("note", 4)], [⟨10, 5⟩, ⟨6, 2⟩]⟩).spent = 7 ∧
      program.run openLedger = ⟨20, 7, [], [⟨10, 5⟩]⟩ := by
  have hsafe : openLedger.IsSafe := ⟨by decide, by decide, by decide⟩
  have henters : program.Enters openLedger attempt ⟨20, 7, [("note", 4)], [⟨10, 5⟩, ⟨6, 2⟩]⟩ :=
    .capped (.others (.first _ (.here _ _)))
  obtain ⟨halong, hparts⟩ := isSafe_throughout hsafe program
  obtain ⟨-, -, -, hback⟩ := hparts _ _ henters
  exact ⟨hsafe, halong _ (List.take_prefix _ _), henters, (hback _ rfl).1, by decide⟩

end ChatPrompt.Ledger
