import ChatPrompt.Proofs.Ceiling
import ChatPrompt.Proofs.Operations
import ChatPrompt.Proofs.Releases

/-!
# When the sums of the ledger are exact

Amounts wrap when a sum passes their range. Here the sums that the ledger computes during a render
are written as natural numbers, for each operation those that it computes. What is charged only
where it fits never passes the range, whatever is set aside, and giving something up computes no
sum. So what is left are the floors themselves and the texts that are charged for them: all sums
are exact if and only if all that is set aside at first is in the range together.
-/

namespace ChatPrompt

namespace Ledger

/-- The sums that a charge computes: what is spent then, altogether and inside each cap. -/
def chargeSums (ledger : Ledger) (tokens : Tokens) : List Nat :=
  (ledger.spent.toNat + tokens.toNat) ::
    ledger.caps.map fun cap => cap.spent.toNat + tokens.toNat

/-- The sums that an operation computes, without a range. Setting something aside adds it to what
is there under its key, adds up all that is set aside then, and adds that to what is spent. Asking
whether an amount fits adds up all that is set aside. -/
def Operation.sums (operation : Operation) (ledger : Ledger) : List Nat :=
  match operation with
  | .reserve key tokens =>
    [ledger.held (· == key) + tokens.toNat, (ledger.reserve key tokens).heldInAll,
      ledger.spent.toNat + (ledger.reserve key tokens).heldInAll]
  | .charge tokens => ledger.chargeSums tokens
  | .spend tokens =>
    ledger.heldInAll :: if ledger.fits tokens then ledger.chargeSums tokens else []
  | .check _ => [ledger.heldInAll]
  | .release _ | .openCap _ | .closeCap | .rollback _ => []

/-- Every sum that an operation computes is in the range of amounts. -/
def Operation.IsExact (operation : Operation) (ledger : Ledger) : Prop :=
  ∀ sum ∈ operation.sums ledger, sum < 2 ^ 64

/-- Every sum that some operations compute, one after the other, is in the range of amounts. -/
def IsExact (ledger : Ledger) : List Operation → Prop
  | [] => True
  | operation :: rest => operation.IsExact ledger ∧ (operation.perform ledger).IsExact rest

/-- The sums of operations are exact if those of the first are, and those of the others after
them. -/
theorem isExact_append_iff {ledger : Ledger} {log others : List Operation} :
    ledger.IsExact (log ++ others) ↔ ledger.IsExact log ∧ (ledger.replay log).IsExact others := by
  induction log generalizing ledger with
  | nil => exact iff_of_eq (true_and _).symm
  | cons operation rest ih =>
    rw [List.cons_append, IsExact, IsExact, ih, and_assoc]
    rfl

/-- The sums of operations are exact if those of each are. -/
theorem isExact_iff {ledger : Ledger} {log : List Operation} :
    ledger.IsExact log ↔ ∀ before operation after, log = before ++ operation :: after →
      operation.IsExact (ledger.replay before) := by
  constructor
  · rintro h before operation after rfl
    exact (isExact_append_iff.1 h).2.1
  · intro h
    induction log generalizing ledger with
    | nil => trivial
    | cons operation rest ih =>
      refine ⟨h [] operation rest rfl, ih fun before next after hrest => ?_⟩
      exact h (operation :: before) next after (congrArg (operation :: ·) hrest)

/-- Whether an operation sets nothing aside and charges only what fits. -/
def Operation.IsGuarded : Operation → Prop
  | .reserve _ _ | .charge _ => False
  | .release _ | .spend _ | .check _ | .openCap _ | .closeCap | .rollback _ => True

/-- Some operations set nothing aside and charge only what fits. -/
def AreGuarded (log : List Operation) : Prop := ∀ operation ∈ log, operation.IsGuarded

namespace AreGuarded

variable {operation : Operation} {log others : List Operation}

theorem nil : AreGuarded [] := List.forall_mem_nil _

theorem cons (hfirst : operation.IsGuarded) (hrest : AreGuarded log) :
    AreGuarded (operation :: log) :=
  List.forall_mem_cons.2 ⟨hfirst, hrest⟩

theorem append (hlog : AreGuarded log) (hothers : AreGuarded others) :
    AreGuarded (log ++ others) :=
  fun operation hin => (List.mem_append.1 hin).elim (hlog operation) (hothers operation)

end AreGuarded

/-- An amount that fits is charged without leaving the range, at every level: no level takes more
than what it has left. -/
theorem chargeSums_lt {ledger : Ledger} {tokens : Tokens} (h : ledger.fits tokens = true) :
    ∀ sum ∈ ledger.chargeSums tokens, sum < 2 ^ 64 := by
  have hnone : ledger.refusalLevel? tokens = none := Option.isNone_iff_eq_none.1 h
  have hleft := ledger.toNat_le_of_refusalLevel? hnone
  have hcapacity := ledger.capacity.toNat_lt
  have hspent := ledger.spent.toNat_lt
  refine List.forall_mem_cons.2 ⟨by omega, ?_⟩
  intro sum hsum
  obtain ⟨cap, hcap, rfl⟩ := List.mem_map.1 hsum
  rw [refusalLevel?] at hnone
  split at hnone
  · cases hnone
  · have hroom := List.findIdx?_eq_none_iff.1 (Option.map_eq_none_iff.1 hnone) cap hcap
    have hle := UInt64.le_iff_toNat_le.1 (UInt64.not_lt.1 (of_decide_eq_false hroom))
    have hlimit := cap.limit.toNat_lt
    have hinside := cap.spent.toNat_lt
    rw [Cap.room, Tokens.toNat_minus] at hle
    omega

/-- An operation that is guarded leaves no more set aside than there is. -/
theorem Operation.IsGuarded.heldInAll_le {operation : Operation} (h : operation.IsGuarded)
    (ledger : Ledger) : (operation.perform ledger).heldInAll ≤ ledger.heldInAll := by
  cases operation with
  | reserve key tokens | charge tokens => cases h
  | release key => exact ledger.held_release_le _ key
  | spend tokens =>
    rw [Operation.perform]
    split
    · exact Nat.le_refl _
    · exact Nat.le_refl _
  | check tokens | openCap limit | closeCap | rollback checkpoint => exact Nat.le_refl _

/-- Where all that is set aside is in the range, an operation that is guarded is exact. -/
theorem Operation.IsGuarded.isExact {operation : Operation} (h : operation.IsGuarded)
    {ledger : Ledger} (hheld : ledger.heldInAll < 2 ^ 64) : operation.IsExact ledger := by
  cases operation with
  | reserve key tokens | charge tokens => cases h
  | spend tokens =>
    refine List.forall_mem_cons.2 ⟨hheld, ?_⟩
    split
    · next hfits => exact chargeSums_lt hfits
    · exact List.forall_mem_nil _
  | check tokens => exact List.forall_mem_cons.2 ⟨hheld, List.forall_mem_nil _⟩
  | release key | openCap limit | closeCap | rollback checkpoint => exact List.forall_mem_nil _

/-- Where all that is set aside is in the range, operations that are guarded are exact. -/
theorem AreGuarded.isExact {log : List Operation} (h : AreGuarded log) {ledger : Ledger}
    (hheld : ledger.heldInAll < 2 ^ 64) : ledger.IsExact log := by
  induction log generalizing ledger with
  | nil => trivial
  | cons operation rest ih =>
    obtain ⟨hfirst, hrest⟩ := List.forall_mem_cons.1 h
    have hle := hfirst.heldInAll_le ledger
    exact ⟨hfirst.isExact hheld, ih hrest (Nat.lt_of_le_of_lt hle hheld)⟩

/-- Exact operations keep all that is set aside in the range. -/
theorem IsExact.heldInAll_lt {log : List Operation} {ledger : Ledger} (h : ledger.IsExact log)
    (hheld : ledger.heldInAll < 2 ^ 64) : (ledger.replay log).heldInAll < 2 ^ 64 := by
  induction log generalizing ledger with
  | nil => exact hheld
  | cons operation rest ih =>
    refine ih h.2 ?_
    by_cases hguarded : operation.IsGuarded
    · exact Nat.lt_of_le_of_lt (hguarded.heldInAll_le ledger) hheld
    · cases operation with
      | reserve key tokens => exact h.1 _ (List.mem_cons_of_mem _ List.mem_cons_self)
      | charge tokens => exact hheld
      | release key | spend tokens | check tokens | openCap limit | closeCap
      | rollback checkpoint => exact absurd trivial hguarded

/-- No operation changes the capacity. -/
theorem capacity_replay (ledger : Ledger) (log : List Operation) :
    (ledger.replay log).capacity = ledger.capacity := by
  induction log generalizing ledger with
  | nil => rfl
  | cons operation rest ih =>
    rw [replay_cons, ih]
    cases operation with
    | spend tokens =>
      rw [Operation.perform]
      split
      · rfl
      · rfl
    | reserve key tokens | release key | charge tokens | check tokens | openCap limit | closeCap
    | rollback checkpoint => rfl

/-- The operations that set some floors aside. -/
def reserveAll (floors : List (String × Tokens)) : List Operation :=
  floors.map fun floor => .reserve floor.1 floor.2

/-- Where nothing is spent, setting floors aside is exact if all of them are in the range together
with what is there. -/
theorem isExact_reserveAll_iff {ledger : Ledger} (hspent : ledger.spent = 0)
    (hheld : ledger.heldInAll < 2 ^ 64) {floors : List (String × Tokens)} :
    ledger.IsExact (reserveAll floors) ↔
      ledger.heldInAll + (floors.map fun floor => floor.2.toNat).sum < 2 ^ 64 := by
  induction floors generalizing ledger with
  | nil => exact iff_of_true trivial (by simpa using hheld)
  | cons floor rest ih =>
    have hkey := ledger.held_le_heldInAll (· == floor.1)
    rw [List.map_cons, List.sum_cons]
    by_cases hfits : ledger.held (· == floor.1) + floor.2.toNat < 2 ^ 64
    · have hall : (ledger.reserve floor.1 floor.2).heldInAll =
          ledger.heldInAll + floor.2.toNat := ledger.held_reserve (fun _ => true) _ _ hfits
      have hzero : ledger.spent.toNat = 0 := by
        rw [hspent]
        rfl
      have hexact : Operation.IsExact (.reserve floor.1 floor.2) ledger ↔
          ledger.heldInAll + floor.2.toNat < 2 ^ 64 := by
        simp only [Operation.IsExact, Operation.sums, List.forall_mem_cons, hall, hzero,
          Nat.zero_add]
        exact ⟨fun h => h.2.1, fun h => ⟨hfits, h, h, List.forall_mem_nil _⟩⟩
      change Operation.IsExact (.reserve floor.1 floor.2) ledger ∧
        (ledger.reserve floor.1 floor.2).IsExact (reserveAll rest) ↔ _
      have hlater : ledger.heldInAll + floor.2.toNat < 2 ^ 64 →
          ((ledger.reserve floor.1 floor.2).IsExact (reserveAll rest) ↔
            ledger.heldInAll + floor.2.toNat +
              (rest.map fun floor => floor.2.toNat).sum < 2 ^ 64) := by
        intro hlt
        have hspent : (ledger.reserve floor.1 floor.2).spent = 0 := hspent
        rw [ih hspent (hall.symm ▸ hlt), hall]
      rw [hexact, ← Nat.add_assoc]
      constructor
      · rintro ⟨hlt, hrest⟩
        exact (hlater hlt).1 hrest
      · intro hlt
        have hfirst : ledger.heldInAll + floor.2.toNat < 2 ^ 64 := by omega
        exact ⟨hfirst, (hlater hfirst).2 hlt⟩
    · refine iff_of_false (fun hexact => hfits ?_) (by omega)
      exact hexact.1 _ List.mem_cons_self

end Ledger

namespace Render

open Ledger

variable (env : Environment)

/-- Where a cap may be opened and closed around operations that are guarded. -/
theorem areGuarded_capped {limit : Option Tokens} {log : List Operation} (h : AreGuarded log) :
    AreGuarded (openLog limit ++ (log ++ closeLog limit)) := by
  have hopen : AreGuarded (openLog limit) := List.forall_mem_map.2 fun _ _ => trivial
  have hclose : AreGuarded (closeLog limit) := List.forall_mem_map.2 fun _ _ => trivial
  exact hopen.append (h.append hclose)

/-- A message is charged only where it fits. -/
theorem areGuarded_sayLog (scope : Scope) (message : Blueprint.Message) :
    AreGuarded (sayLog env scope message) := by
  rw [sayLog]
  cases Text.contentful? (env.text scope message.content) with
  | none => exact .nil
  | some text =>
    have hspend : AreGuarded [.spend (env.estimate text)] := .cons trivial .nil
    exact areGuarded_capped hspend

theorem areGuarded_separateLog (header : Blueprint.Loop) (scope : Scope)
    (groups : List (List Entry)) (run : Step) :
    AreGuarded (separateLog env header scope groups run) := by
  rw [separateLog]
  split
  · exact .nil
  · cases separatorOf header scope groups run.entries with
    | none => exact .nil
    | some separator => exact .cons trivial .nil

/-- The items of a loop are guarded if its body is. -/
theorem areGuarded_takeItemsLog {header : Blueprint.Loop} {own : Option Nat} {scope : Scope}
    {body : Scope → Ledger → Step} {bodyLog : Scope → Ledger → List Operation}
    (hbody : ∀ inner before, AreGuarded (bodyLog inner before)) (items : List Json) (index : Nat)
    (state : LoopState) :
    AreGuarded (takeItemsLog env header own scope body bodyLog items index state) := by
  induction items generalizing index state with
  | nil => exact .nil
  | cons item rest ih =>
    have hitem : AreGuarded (itemLog env header scope body bodyLog index item state) := by
      rw [itemLog]
      refine (hbody _ _).append ((areGuarded_separateLog env header _ _ _).append ?_)
      split
      · exact .cons trivial .nil
      · exact .nil
    rw [takeItemsLog]
    refine hitem.append ?_
    split
    · exact ih (index + 1) _
    · split
      · exact .nil
      · exact ih (index + 1) _

mutual

theorem areGuarded_nodeLog (scope : Scope) (atomic : Bool) (node : Blueprint.PlanNode)
    (ledger : Ledger) : AreGuarded (nodeLog env scope atomic node ledger) := by
  match node with
  | .message details =>
    rw [nodeLog]
    exact areGuarded_sayLog env scope details
  | .forEach header body =>
    rw [nodeLog]
    exact areGuarded_capped (areGuarded_takeItemsLog env
      (fun inner before => areGuarded_nodesLog inner true body before) _ 0 _)
  | .branch condition whenTrue whenFalse =>
    rw [nodeLog]
    split
    · exact areGuarded_nodesLog scope atomic whenTrue ledger
    · exact areGuarded_nodesLog scope atomic whenFalse ledger

theorem areGuarded_nodesLog (scope : Scope) (atomic : Bool) (nodes : List Blueprint.PlanNode)
    (ledger : Ledger) : AreGuarded (nodesLog env scope atomic nodes ledger) := by
  match nodes with
  | [] =>
    rw [nodesLog]
    exact .nil
  | node :: rest =>
    rw [nodesLog]
    refine (areGuarded_nodeLog scope atomic node ledger).append ?_
    split
    · exact .nil
    · exact areGuarded_nodesLog scope atomic rest _

end

theorem areGuarded_slotsLog (blueprint : Blueprint) (prepared : PreparedLayout)
    (order : List Nat) (ledger : Ledger) :
    AreGuarded (slotsLog env blueprint prepared order ledger) := by
  induction order generalizing ledger with
  | nil => exact .nil
  | cons number rest ih =>
    rw [slotsLog]
    split
    · exact ih ledger
    · next slot _ =>
      have hslot : AreGuarded (slotLog env slot ledger) := by
        rw [slotLog]
        split
        · exact areGuarded_capped (areGuarded_nodesLog env env.root false slot.plan _)
        · exact .nil
      refine hslot.append (AreGuarded.append ?_ (ih _))
      split
      · exact List.forall_mem_map.2 fun _ _ => trivial
      · exact .nil

/-- Spending what is set aside for texts is exact within a bound, if it is enough for them, they
have different keys and no cap is open. -/
theorem isExact_settleTextsLog {keep : String → Bool} {bound : Nat} {texts : List HeldText}
    {ledger : Ledger} (h : ledger.Within keep bound) (hcaps : ledger.caps = [])
    (hkeep : ∀ held ∈ texts, keep held.floor = true)
    (hnodup : (texts.map HeldText.floor).Nodup) (hcovers : Covers env texts ledger) :
    ledger.IsExact (settleTextsLog env texts) := by
  induction texts generalizing ledger with
  | nil => trivial
  | cons held rest ih =>
    obtain ⟨hfresh, hnodup⟩ := List.nodup_cons.1 hnodup
    have hcost := hcovers held List.mem_cons_self
    have hcharge : Operation.IsExact (.charge (env.estimate held.text))
        (ledger.release held.floor) := by
      have hkey := ledger.held_release keep held.floor
      rw [if_pos (hkeep held List.mem_cons_self)] at hkey
      have hspent := h.spent_le
      have hrange := h.bound_lt
      refine List.forall_mem_cons.2 ⟨?_, ?_⟩
      · change ledger.spent.toNat + _ < _
        omega
      · change ∀ sum ∈ ledger.caps.map _, _
        rw [hcaps]
        exact List.forall_mem_nil _
    have hlog : settleTextsLog env (held :: rest) = .release held.floor ::
        .charge (env.estimate held.text) :: settleTextsLog env rest := rfl
    rw [hlog]
    refine ⟨List.forall_mem_nil _, hcharge, ih ?_ ?_ ?_ hnodup ?_⟩
    · exact h.settle (hkeep held List.mem_cons_self) hcost
    · change ledger.caps.map _ = []
      rw [hcaps, List.map_nil]
    · exact fun other hother => hkeep other (List.mem_cons_of_mem _ hother)
    · intro other hother
      have hne : other.floor ≠ held.floor :=
        fun heq => hfresh (heq ▸ List.mem_map_of_mem hother)
      change (env.estimate other.text).toNat ≤ (ledger.release held.floor).held (· == other.floor)
      rw [ledger.held_release_of_ne hne]
      exact hcovers other (List.mem_cons_of_mem _ hother)

end Render

namespace Injection

open Ledger Render

variable (estimate : Estimator)

/-- The blocks of a lane are charged only where they fit. -/
theorem areGuarded_blocksLog (lane : Blueprint.Lane) (placed : List Placed) (blocks : List Block)
    (state : LaneState) : AreGuarded (blocksLog estimate lane placed blocks state) := by
  have haccept : ∀ ledger block accepted entries,
      AreGuarded (acceptLog estimate lane ledger block accepted entries) := by
    intro ledger block accepted entries
    induction entries generalizing accepted with
    | nil => exact .nil
    | cons entry rest ih =>
      rw [acceptLog]
      refine .cons trivial ?_
      split
      · exact ih _
      · exact .nil
  induction blocks generalizing state with
  | nil => exact .nil
  | cons block rest ih =>
    rw [blocksLog]
    refine AreGuarded.append ?_ (ih _)
    rw [blockLog]
    split
    · exact .nil
    · refine (haccept _ _ _ _).append ?_
      split
      · exact .nil
      · exact .cons trivial .nil

theorem areGuarded_lanesLog (requests : List Request) (lanes : List Blueprint.Lane)
    (before : Injected) : AreGuarded (lanesLog estimate requests lanes before) := by
  induction lanes generalizing before with
  | nil => exact .nil
  | cons lane rest ih =>
    rw [lanesLog, laneLog]
    have hrelease : (Operation.release (laneFloor lane.id)).IsGuarded := trivial
    exact (AreGuarded.cons hrelease (areGuarded_blocksLog estimate lane _ _ _)).append (ih _)

end Injection

namespace Render

open Ledger Injection

namespace Setup

variable (setup : Setup)

/-- What is set aside at first, text by text and lane by lane. -/
def floorsAtFirst : List (String × Tokens) :=
  setup.texts.map (floorOf setup.env) ++
    (setup.lanes.filter Blueprint.Lane.enabled).flatMap floorsOf

/-- The operations that set something aside set these floors aside. -/
theorem reserveLog_eq : setup.reserveLog = reserveAll setup.floorsAtFirst := by
  have hlane : ∀ lane, reserveLaneLog lane = reserveAll (floorsOf lane) := by
    intro lane
    rw [reserveLaneLog, floorsOf]
    cases lane.reserve with
    | none => rfl
    | some amount =>
      dsimp only
      split
      · rfl
      · rfl
  have hlanes : ∀ lanes : List Blueprint.Lane,
      lanes.flatMap reserveLaneLog = reserveAll (lanes.flatMap floorsOf) := by
    intro lanes
    rw [reserveAll, List.map_flatMap]
    exact congrArg (List.flatMap · lanes) (funext hlane)
  have htexts : reserveTextsLog setup.env setup.texts =
      reserveAll (setup.texts.map (floorOf setup.env)) := by
    rw [reserveAll, List.map_map]
    rfl
  rw [reserveLog, hlanes, htexts]
  exact List.map_append.symm

/-- Together these floors are all that is set aside. -/
theorem sum_floorsAtFirst :
    (setup.floorsAtFirst.map fun floor => floor.2.toNat).sum = setup.setAside := by
  have hlanes : ∀ lanes : List Blueprint.Lane,
      ((lanes.flatMap floorsOf).map fun floor => floor.2.toNat).sum =
        (lanes.map fun lane => (lane.reserve.getD 0).toNat).sum := by
    intro lanes
    induction lanes with
    | nil => rfl
    | cons lane rest ih =>
      rw [List.flatMap_cons, List.map_append, List.sum_append, sum_floorsOf, ih, List.map_cons,
        List.sum_cons]
  rw [floorsAtFirst, List.map_append, List.sum_append, hlanes, List.map_map]
  rfl

/-- Setting everything aside is exact if all of it is in the range together. -/
theorem isExact_reserveLog_iff :
    (Ledger.ofCapacity setup.capacity).IsExact setup.reserveLog ↔ setup.setAside < 2 ^ 64 := by
  have hnothing : (Ledger.ofCapacity setup.capacity).heldInAll = 0 := rfl
  rw [reserveLog_eq, isExact_reserveAll_iff rfl (hnothing ▸ Nat.two_pow_pos 64),
    sum_floorsAtFirst, hnothing, Nat.zero_add]

/-- All that a render asks of its ledger is exact if all that is set aside at first is in the range
together. -/
theorem isExact_log_iff (h : setup.blueprint.IsLaidOut) :
    (Ledger.ofCapacity setup.capacity).IsExact setup.log ↔ setup.setAside < 2 ^ 64 := by
  rw [log, isExact_append_iff, isExact_append_iff, isExact_append_iff, isExact_reserveLog_iff,
    replay_reserveLog, replay_fillLog, replay_settleLog]
  refine and_iff_left_of_imp fun hrange => ?_
  have hcaps : setup.filled.2.caps = [] := by
    obtain ⟨floors, hreserved⟩ := setup.reserved_eq
    have hdepth : setup.filled.2.depth = 0 := by
      rw [filled, filledUpTo, kept_fillSlots _ isKept_depth, hreserved]
      rfl
    exact List.eq_nil_of_length_eq_zero hdepth
  have hslots := (areGuarded_slotsLog setup.env setup.blueprint setup.prepared
    setup.blueprint.order setup.reserved).isExact ((setup.heldInAll_reserved hrange).symm ▸ hrange)
  have hfilled := setup.within_filledUpTo hrange (fun _ => true) setup.blueprint.order
  have hshown := setup.shownBy_sublist setup.nodes
  have htexts := isExact_settleTextsLog setup.env hfilled hcaps (fun _ _ => rfl)
    ((hshown.map HeldText.floor).nodup setup.nodup_floors) (setup.covers_filled hrange h)
  have hassembled : (setup.injectedUpTo []).ledger.Within (fun _ => true)
      (setup.ceiling fun _ => true) := setup.within_injectedUpTo hrange h (fun _ _ => rfl) []
  have hlanes := (areGuarded_lanesLog setup.env.estimate setup.options.injections
    (lanesInOrder setup.lanes) (setup.injectedUpTo [])).isExact hassembled.heldInAll_lt
  exact ⟨hslots, htexts, hlanes⟩

end Setup

end Render

end ChatPrompt
