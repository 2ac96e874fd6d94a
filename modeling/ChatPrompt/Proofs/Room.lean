import ChatPrompt.Proofs.Accounting
import ChatPrompt.Proofs.Dropping
import Mathlib.Order.Basic

/-!
# Every cap holds

What is left at the innermost level of a ledger is what may be spent there: an amount is accepted
just if it is no more than that, and then leaves that much less. The amounts are true numbers here,
and no sum passes their range, since no accepted one goes beyond its limit. So what a run charges in
all is no more than what was left when it began, whatever it opened, closed and gave back on the
way. At the start of a slot, of a loop or of a message with a budget no more is left than the
budget; hence each of these caps holds, and with it every cap around it.
-/

namespace ChatPrompt

/-- What is left of a limit after an amount that fits is less by the amount. -/
theorem Tokens.toNat_minus_add {limit spent amount : Tokens}
    (h : amount.toNat ≤ (limit.minus spent).toNat) :
    (limit.minus (spent + amount)).toNat = (limit.minus spent).toNat - amount.toNat := by
  rw [toNat_minus] at h
  rw [toNat_minus, toNat_minus]
  by_cases hzero : amount = 0
  · rw [hzero, UInt64.add_zero]
    rfl
  · have hpos : amount.toNat ≠ 0 := fun h => hzero (UInt64.toNat_inj.1 h)
    have hrange := limit.toNat_lt
    rw [UInt64.toNat_add, Nat.mod_eq_of_lt (by omega)]
    omega

/-- What is spent of a limit grows by just an amount that fits. -/
theorem Tokens.toNat_add_of_le_minus {limit spent amount : Tokens}
    (h : amount.toNat ≤ (limit.minus spent).toNat) :
    (spent + amount).toNat = spent.toNat + amount.toNat := by
  have hlimit := limit.toNat_lt
  have hspent := spent.toNat_lt
  rw [toNat_minus] at h
  rw [UInt64.toNat_add, Nat.mod_eq_of_lt (by omega)]

/-- A cap has less room after an amount that fits. -/
theorem Cap.toNat_room_charged (cap : Cap) {amount : Tokens}
    (h : amount.toNat ≤ cap.room.toNat) :
    (Cap.room { cap with spent := cap.spent + amount }).toNat =
      cap.room.toNat - amount.toNat := Tokens.toNat_minus_add h

namespace Ledger

variable (ledger : Ledger)

/-- As much is left at the innermost level as is left at every level. -/
theorem le_toNat_remaining_iff (amount : Nat) :
    amount ≤ ledger.remaining.toNat ↔
      amount ≤ ledger.available.toNat ∧ ∀ cap ∈ ledger.caps, amount ≤ cap.room.toNat := by
  rw [remaining]
  generalize ledger.available = least
  induction ledger.caps generalizing least with
  | nil => simp
  | cons cap rest ih =>
    have hmin : amount ≤ (min least cap.room).toNat ↔
        amount ≤ least.toNat ∧ amount ≤ cap.room.toNat := by
      change amount ≤ (if least ≤ cap.room then least else cap.room).toNat ↔ _
      by_cases hle : least ≤ cap.room
      · have hnat := UInt64.le_iff_toNat_le.1 hle
        rw [if_pos hle]
        omega
      · have hnat := UInt64.lt_iff_toNat_lt.1 (UInt64.not_le.1 hle)
        rw [if_neg hle]
        omega
    rw [List.foldl_cons, ih, hmin, List.forall_mem_cons, and_assoc]

/-- An amount is refused at no level just if it is no more than what is left. -/
theorem refusalLevel?_eq_none_iff (amount : Tokens) :
    ledger.refusalLevel? amount = none ↔ amount.toNat ≤ ledger.remaining.toNat := by
  have hcaps : (ledger.caps.findIdx? fun cap => decide (cap.room < amount)) = none ↔
      ∀ cap ∈ ledger.caps, amount.toNat ≤ cap.room.toNat := by
    simp [List.findIdx?_eq_none_iff, UInt64.not_lt, UInt64.le_iff_toNat_le]
  rw [le_toNat_remaining_iff, refusalLevel?, ← hcaps]
  by_cases hlt : ledger.available < amount
  · have hnat := UInt64.lt_iff_toNat_lt.1 hlt
    rw [if_pos hlt]
    simp only [reduceCtorEq, false_iff, not_and]
    omega
  · have hnat := UInt64.le_iff_toNat_le.1 (UInt64.not_lt.1 hlt)
    rw [if_neg hlt, Option.map_eq_none_iff]
    exact ⟨fun h => ⟨hnat, h⟩, And.right⟩

variable {ledger} in
/-- An amount that is accepted is no more than what is left. -/
theorem le_toNat_remaining_of_spend {amount : Tokens} {charged : Ledger}
    (h : ledger.spend amount = .ok charged) : amount.toNat ≤ ledger.remaining.toNat :=
  (ledger.refusalLevel?_eq_none_iff amount).1 ((spend_eq_ok_iff _).1 h).1

variable {ledger} in
/-- An amount that is refused is more than what is left. -/
theorem toNat_remaining_lt_of_spend {amount : Tokens} {refusal : Refusal}
    (h : ledger.spend amount = .error refusal) : ledger.remaining.toNat < amount.toNat := by
  refine Nat.lt_of_not_le fun hfits => ?_
  have hnone := (ledger.refusalLevel?_eq_none_iff amount).2 hfits
  rw [((spend_eq_error_iff _).1 h).1] at hnone
  cases hnone

/-- No more is left than was, by an amount that fits. -/
theorem toNat_remaining_charge {amount : Tokens} (h : amount.toNat ≤ ledger.remaining.toNat) :
    (ledger.charge amount).remaining.toNat = ledger.remaining.toNat - amount.toNat := by
  obtain ⟨havailable, hcaps⟩ := (ledger.le_toNat_remaining_iff _).1 h
  have hleft : (ledger.charge amount).available.toNat =
      ledger.available.toNat - amount.toNat := by
    have hbefore := Tokens.toNat_minus (ledger.capacity.minus ledger.spent) ledger.floorTotal
    have hafter := Tokens.toNat_minus (ledger.capacity.minus (ledger.spent + amount))
      ledger.floorTotal
    rw [available, hbefore] at havailable
    have hspent : (ledger.capacity.minus (ledger.spent + amount)).toNat =
        (ledger.capacity.minus ledger.spent).toNat - amount.toNat :=
      Tokens.toNat_minus_add (by omega)
    change ((ledger.capacity.minus (ledger.spent + amount)).minus ledger.floorTotal).toNat = _
    rw [hafter, hspent, available, hbefore]
    omega
  have hrooms : ∀ cap ∈ ledger.caps,
      (Cap.room { cap with spent := cap.spent + amount }).toNat =
        cap.room.toNat - amount.toNat :=
    fun cap hcap => cap.toNat_room_charged (hcaps cap hcap)
  -- both sides bound the same numbers
  refine eq_of_forall_le_iff fun number => ?_
  rw [Nat.le_sub_iff_add_le h, le_toNat_remaining_iff, le_toNat_remaining_iff, hleft,
    Nat.le_sub_iff_add_le havailable]
  refine and_congr_right fun _ => ?_
  change (∀ cap ∈ ledger.caps.map _, _) ↔ _
  rw [List.forall_mem_map]
  refine forall_congr' fun cap => forall_congr' fun hcap => ?_
  rw [hrooms cap hcap, Nat.le_sub_iff_add_le (hcaps cap hcap)]

/-- Inside a cap no more is left than outside, and no more than its limit. -/
theorem le_toNat_remaining_openCap?_iff (limit : Option Tokens) (amount : Nat) :
    amount ≤ (ledger.openCap? limit).2.remaining.toNat ↔
      amount ≤ ledger.remaining.toNat ∧ ∀ most ∈ limit, amount ≤ most.toNat := by
  cases limit with
  | none => simp [openCap?]
  | some most =>
    have hroom : (Cap.room ⟨most, 0⟩).toNat = most.toNat := Tokens.toNat_minus most 0
    have hcaps : ((ledger.openCap? (some most)).2).caps = ledger.caps ++ [⟨most, 0⟩] := rfl
    have havailable : ((ledger.openCap? (some most)).2).available = ledger.available := rfl
    rw [le_toNat_remaining_iff, le_toNat_remaining_iff, hcaps, havailable,
      List.forall_mem_append, List.forall_mem_singleton, hroom, and_assoc]
    simp

/-- What is left inside a cap is the lesser of its limit and what is left outside. -/
theorem toNat_remaining_openCap? (limit : Option Tokens) :
    (ledger.openCap? limit).2.remaining.toNat =
      limit.elim ledger.remaining.toNat fun most => min most.toNat ledger.remaining.toNat := by
  refine eq_of_forall_le_iff fun number => ?_
  rw [le_toNat_remaining_openCap?_iff]
  cases limit with
  | none => simp
  | some most => simp [and_comm]

/-- What is spent grows by just the amount that fits. -/
theorem toNat_spent_charge {amount : Tokens} (h : amount.toNat ≤ ledger.remaining.toNat) :
    (ledger.charge amount).spent.toNat = ledger.spent.toNat + amount.toNat := by
  have havailable := ((ledger.le_toNat_remaining_iff _).1 h).1
  rw [available, Tokens.toNat_minus] at havailable
  exact Tokens.toNat_add_of_le_minus (havailable.trans (Nat.sub_le _ _))

/-- So does what is spent inside each cap. -/
theorem map_toNat_spent_charge {amount : Tokens} (h : amount.toNat ≤ ledger.remaining.toNat) :
    (ledger.charge amount).caps.map (fun cap => cap.spent.toNat) =
      ledger.caps.map fun cap => cap.spent.toNat + amount.toNat := by
  have hcaps := ((ledger.le_toNat_remaining_iff _).1 h).2
  rw [charge, List.map_map]
  exact List.map_congr_left fun cap hcap => Tokens.toNat_add_of_le_minus (hcaps cap hcap)

end Ledger

namespace Render

variable (env : Environment)

/-- What generated messages cost, as a number without a range. -/
def Environment.toll (entries : List Entry) : Nat := env.bill (entries.map Entry.message)

@[simp]
theorem toll_nil : env.toll [] = 0 := rfl

/-- The first message is paid first. -/
@[simp]
theorem toll_cons (entry : Entry) (rest : List Entry) :
    env.toll (entry :: rest) = (env.cost entry.message).toNat + env.toll rest :=
  bill_cons env entry.message _

/-- A message alone costs what its text does. -/
theorem toll_singleton (role : Role) (text : String) (anchor : Option String) :
    env.toll [⟨Message.of role text, anchor⟩] = (env.estimate text).toNat := by
  simp [Environment.cost, Message.of]

@[simp]
theorem toll_append (before after : List Entry) :
    env.toll (before ++ after) = env.toll before + env.toll after := by
  simp [Environment.toll]

/-- The place of the separator makes no difference to the cost of an item. -/
theorem toll_withSeparator (filling : Template.Filling) (separator : Entry)
    (group : List Entry) :
    env.toll (withSeparator filling separator group) =
      env.toll group + (env.cost separator.message).toNat := by
  cases filling with
  | appending => rw [withSeparator, toll_cons, Nat.add_comm]
  | prepending => simp [withSeparator]

/-- The order of the items makes no difference to the cost of a loop. -/
theorem toll_arranged (filling : Template.Filling) (groups : List (List Entry)) :
    env.toll (arranged filling groups) = env.toll groups.flatten := by
  cases filling with
  | appending => rfl
  | prepending =>
    exact bill_perm env ((List.reverse_perm groups).flatten.map Entry.message)

/-- The cost is the amount that is charged, where it is in the range of amounts. -/
theorem toNat_price {entries : List Entry} (h : env.toll entries < 2 ^ 64) :
    (env.price entries).toNat = env.toll entries := toNat_costs env _ h

/-- A run charges what its messages cost, which is no more than what was left before it. -/
structure Step.Fits (before : Ledger) (step : Step) : Prop extends step.Charges env before where
  /-- The messages cost no more than what was left. -/
  toll_le : env.toll step.entries ≤ before.remaining.toNat

/-- A loop between two items has charged what the messages so far cost, which is no more than what
was left at its start. -/
structure LoopState.Fits (opened : Ledger) (state : LoopState) : Prop
    extends state.Charges env opened where
  /-- The messages so far cost no more than what was left. -/
  toll_le : env.toll state.groups.flatten ≤ opened.remaining.toNat

/-- Messages whose cost fits leave that much less when they are charged. -/
theorem toNat_remaining_charge_price {ledger : Ledger} {entries : List Entry}
    (h : env.toll entries ≤ ledger.remaining.toNat) :
    (ledger.charge (env.price entries)).remaining.toNat =
      ledger.remaining.toNat - env.toll entries := by
  have hrange := ledger.remaining.toNat_lt
  have hprice : (env.price entries).toNat = env.toll entries := toNat_price env (by omega)
  rw [ledger.toNat_remaining_charge (hprice.symm ▸ h), hprice]

/-- A run leaves less by what its messages cost. -/
theorem Step.Fits.remaining_eq {before : Ledger} {step : Step} (h : step.Fits env before) :
    step.ledger.remaining.toNat = before.remaining.toNat - env.toll step.entries := by
  rw [h.ledger_eq]
  exact toNat_remaining_charge_price env h.toll_le

/-- A loop leaves less by what its messages so far cost. -/
theorem LoopState.Fits.remaining_eq {opened : Ledger} {state : LoopState}
    (h : state.Fits env opened) :
    state.ledger.remaining.toNat = opened.remaining.toNat - env.toll state.groups.flatten := by
  rw [h.ledger_eq]
  exact toNat_remaining_charge_price env h.toll_le

/-- A message of a plan costs no more than what is left inside its cap. -/
theorem toll_say_le (scope : Scope) (message : Blueprint.Message) (ledger : Ledger) :
    env.toll (say env scope message ledger).entries ≤
      (ledger.openCap? message.budget).2.remaining.toNat := by
  rw [say]
  cases Text.contentful? (env.text scope message.content) with
  | none => exact Nat.zero_le _
  | some text =>
    dsimp only
    cases hspend : (ledger.openCap? message.budget).2.spend (env.estimate text) with
    | error refusal =>
      dsimp only
      split <;> exact Nat.zero_le _
    | ok charged =>
      dsimp only
      rw [toll_singleton]
      exact Ledger.le_toNat_remaining_of_spend hspend

/-- A message of a plan fits. -/
theorem say_fits (scope : Scope) (message : Blueprint.Message) (ledger : Ledger) :
    (say env scope message ledger).Fits env ledger :=
  ⟨say_charges env scope message ledger,
    ((ledger.le_toNat_remaining_openCap?_iff _ _).1 (toll_say_le env scope message ledger)).1⟩

/-- An item fits with its separator, or its separator was refused. -/
theorem separate_fits (header : Blueprint.Loop) (scope : Scope) (groups : List (List Entry))
    {before : Ledger} {run : Step} (h : run.Fits env before) :
    (separate env header scope groups run).Fits env before := by
  refine ⟨separate_charges env header scope groups h.toCharges, ?_⟩
  have htoll := h.toll_le
  rw [separate]
  split
  · exact htoll
  · cases separatorOf header scope groups run.entries with
    | none => exact htoll
    | some separator =>
      dsimp only
      cases hspend : run.ledger.spend (env.cost separator) with
      | error refusal => exact htoll
      | ok charged =>
        have hfits := Ledger.le_toNat_remaining_of_spend hspend
        rw [h.remaining_eq env] at hfits
        dsimp only
        rw [toll_withSeparator]
        dsimp only
        omega

/-- A loop that takes an item fits, whether it keeps it or drops it. -/
theorem take_fits {opened : Ledger} {state : LoopState} {run : Step}
    (hstate : state.Fits env opened) (hrun : run.Fits env state.ledger) :
    (state.take run).Fits env opened := by
  refine ⟨take_charges env hstate.toCharges hrun.toCharges, ?_⟩
  rw [LoopState.take]
  split
  · exact hstate.toll_le
  · have htoll : env.toll (state.keep run).groups.flatten =
        env.toll state.groups.flatten + env.toll run.entries := by
      rw [LoopState.keep]
      by_cases hempty : run.entries = []
      · simp [hempty]
      · simp [hempty]
    have hbefore := hstate.toll_le
    have hafter := hrun.toll_le
    rw [hstate.remaining_eq env] at hafter
    omega

/-- What is noted about an item is not charged. -/
theorem afterItem_fits {opened : Ledger} {state : LoopState} {run : Step}
    (hstate : state.Fits env opened) (hrun : run.Fits env state.ledger) (own : Option Nat) :
    (state.afterItem own run).Fits env opened := by
  have htaken := take_fits env hstate hrun
  have hcontent := state.content_afterItem own run
  have hledger : (state.afterItem own run).ledger = (state.take run).ledger :=
    congrArg Prod.fst hcontent
  have hgroups : (state.afterItem own run).groups = (state.take run).groups :=
    congrArg Prod.snd hcontent
  refine ⟨⟨?_, ?_⟩, ?_⟩
  · rw [hledger, hgroups]
    exact htaken.ledger_eq
  · rw [hgroups]
    exact htaken.admits
  · rw [hgroups]
    exact htaken.toll_le

/-- The items of a loop fit one after the other, if what is done for an item does. -/
theorem takeItems_fits (header : Blueprint.Loop) (own : Option Nat) (scope : Scope)
    {body : Scope → Ledger → Step} (hbody : ∀ inner before, (body inner before).Fits env before)
    {opened : Ledger} (items : List Json) (index : Nat) {state : LoopState}
    (hstate : state.Fits env opened) :
    (takeItems env header own scope body items index state).Fits env opened := by
  induction items generalizing index state with
  | nil => exact hstate
  | cons item rest ih =>
    have hrun : (itemRun env header scope body index item state).Fits env state.ledger :=
      separate_fits env header _ _ (hbody _ _)
    have hafter := afterItem_fits env hstate hrun own
    rw [takeItems_cons_eq]
    split
    · exact ⟨⟨hafter.ledger_eq, hafter.admits⟩, hafter.toll_le⟩
    · exact ih (index + 1) hafter

/-- The messages of a loop cost no more than what is left inside its cap. -/
theorem toll_runLoop_le (header : Blueprint.Loop) (scope : Scope)
    {body : Scope → Ledger → Step} (hbody : ∀ inner before, (body inner before).Fits env before)
    (ledger : Ledger) :
    env.toll (runLoop env header scope body ledger).entries ≤
      (ledger.openCap? header.budget).2.remaining.toNat := by
  have hstart : (LoopState.start env header scope ledger).Fits env
      (ledger.openCap? header.budget).2 :=
    ⟨⟨by simp [LoopState.start], .nothing _⟩, Nat.zero_le _⟩
  rw [runLoop_eq]
  dsimp only
  rw [toll_arranged]
  exact (takeItems_fits env header _ scope hbody _ 0 hstart).toll_le

/-- A loop fits, if what is done for an item does. -/
theorem runLoop_fits (header : Blueprint.Loop) (scope : Scope)
    {body : Scope → Ledger → Step} (hbody : ∀ inner before, (body inner before).Fits env before)
    (ledger : Ledger) : (runLoop env header scope body ledger).Fits env ledger :=
  ⟨runLoop_charges env header scope body (fun inner before => (hbody inner before).toCharges)
      ledger,
    ((ledger.le_toNat_remaining_openCap?_iff _ _).1
      (toll_runLoop_le env header scope hbody ledger)).1⟩

/-- A run after another one fits what the first has left. -/
theorem join_fits {before : Ledger} {first others : Step} (hfirst : first.Fits env before)
    (hothers : others.Fits env first.ledger) : (first.join others).Fits env before := by
  refine ⟨join_charges env hfirst.toCharges hothers.toCharges, ?_⟩
  have hbefore := hfirst.toll_le
  have hafter := hothers.toll_le
  rw [hfirst.remaining_eq env] at hafter
  rw [Step.join, toll_append]
  omega

mutual

/-- A node of a plan fits. -/
theorem runNode_fits (scope : Scope) (atomic : Bool) (node : Blueprint.PlanNode)
    (ledger : Ledger) : (runNode env scope atomic node ledger).Fits env ledger := by
  match node with
  | .message details => exact say_fits env scope details ledger
  | .forEach header body =>
    rw [runNode]
    exact runLoop_fits env header scope
      (fun inner before => runNodes_fits inner true body before) ledger
  | .branch condition whenTrue whenFalse =>
    rw [runNode]
    split
    · exact runNodes_fits scope atomic whenTrue ledger
    · exact runNodes_fits scope atomic whenFalse ledger

theorem runNodes_fits (scope : Scope) (atomic : Bool) (nodes : List Blueprint.PlanNode)
    (ledger : Ledger) : (runNodes env scope atomic nodes ledger).Fits env ledger := by
  match nodes with
  | [] => exact ⟨idle_charges env ledger, Nat.zero_le _⟩
  | node :: rest =>
    have hfirst := runNode_fits scope atomic node ledger
    rw [runNodes_cons]
    split
    · exact hfirst
    · exact join_fits env hfirst (runNodes_fits scope atomic rest _)

end

/-- The messages of a slot cost no more than what is left inside its cap. -/
theorem toll_fillSlot_le (slot : Blueprint.Slot) (ledger : Ledger) :
    env.toll (fillSlot env slot ledger).1.entries ≤
      (ledger.openCap? slot.budget).2.remaining.toNat := by
  rw [fillSlot]
  split
  · exact (runNodes_fits env env.root false slot.plan _).toll_le
  · exact Nat.zero_le _

/-- Every budget is a cap. Over any ledger, so wherever the node stands and whatever was given back
before or inside, the messages of a slot, and those of one run of a loop with its separators and the
loops inside, cost no more than the budget of the slot or loop; a message is generated only if it
costs no more than its own. And the messages of any nodes cost no more than the room of each cap
that is open around them, so all budgets hold at once. -/
theorem toll_le_of_mem_budget :
    (∀ (slot : Blueprint.Slot) (ledger : Ledger), ∀ limit ∈ slot.budget,
      env.toll (fillSlot env slot ledger).1.entries ≤ limit.toNat) ∧
    (∀ (header : Blueprint.Loop) (body : List Blueprint.PlanNode) (scope : Scope) (atomic : Bool)
      (ledger : Ledger), ∀ limit ∈ header.budget,
      env.toll (runNode env scope atomic (.forEach header body) ledger).entries ≤ limit.toNat) ∧
    (∀ (message : Blueprint.Message) (scope : Scope) (atomic : Bool) (ledger : Ledger),
      ∀ limit ∈ message.budget,
      ∀ entry ∈ (runNode env scope atomic (.message message) ledger).entries,
        (env.cost entry.message).toNat ≤ limit.toNat) ∧
    ∀ (nodes : List Blueprint.PlanNode) (scope : Scope) (atomic : Bool) (ledger : Ledger),
      ∀ cap ∈ ledger.caps,
      env.toll (runNodes env scope atomic nodes ledger).entries ≤ cap.room.toNat := by
  refine ⟨?_, ?_, ?_, ?_⟩
  · intro slot ledger limit hlimit
    have hslot := toll_fillSlot_le env slot ledger
    exact ((ledger.le_toNat_remaining_openCap?_iff _ _).1 hslot).2 limit hlimit
  · intro header body scope atomic ledger limit hlimit
    have hloop := toll_runLoop_le env header scope
      (fun inner before => runNodes_fits env inner true body before) ledger
    rw [runNode]
    exact ((ledger.le_toNat_remaining_openCap?_iff _ _).1 hloop).2 limit hlimit
  · intro message scope atomic ledger limit hlimit entry hentry
    have hmessage := toll_say_le env scope message ledger
    have hall := ((ledger.le_toNat_remaining_openCap?_iff _ _).1 hmessage).2 limit hlimit
    rw [runNode] at hentry
    have hone := List.le_sum_of_mem
      (List.mem_map_of_mem (f := fun message => (env.cost message).toNat)
        (List.mem_map_of_mem (f := Entry.message) hentry))
    exact Nat.le_trans hone hall
  · intro nodes scope atomic ledger cap hcap
    have hnodes := (runNodes_fits env scope atomic nodes ledger).toll_le
    exact ((ledger.le_toNat_remaining_iff _).1 hnodes).2 cap hcap

end Render

namespace Sample

open Render

/-- The end of a tale, under a cap that it just fits. -/
def cappedEnd : Blueprint.Message :=
  ⟨.user, .text ⟨"end.", [.text "end."]⟩, false, none, some 4⟩

/-- Of a tale one part is told, and the end. -/
def cappedNodes : List Blueprint.PlanNode :=
  [.forEach ⟨⟨.scope ⟨"item", []⟩, .literal .null⟩, .ascending, none, none, .appending, none,
      some 1, true⟩
    [.message ⟨.user, .text ⟨"\x7b\x7bitem\x7d\x7d", [.value (.path ⟨"item", []⟩)]⟩, false, none,
      none⟩],
  .message cappedEnd]

/-- The loop over the tales with a cap for all of them. -/
def cappedLoop : Blueprint.Loop := { talesLoop with budget := some 5 }

/-- A slot for the tales with a cap around that of the loop. -/
def cappedSlot : Blueprint.Slot :=
  ⟨"tales", 0, none, some 8, [.forEach cappedLoop cappedNodes], .null, 0⟩

end Sample

namespace Render

open Sample in
/-- One part of the first tale and its end fill the cap of the loop, with room left in that of the
slot. -/
theorem toll_le_of_mem_budget_capped :
    (fillSlot talesEnvironment cappedSlot (Ledger.ofCapacity 20)).1.entries =
        [⟨Message.of .user "a", none⟩, ⟨Message.of .user "end.", none⟩] ∧
      talesEnvironment.toll (fillSlot talesEnvironment cappedSlot
        (Ledger.ofCapacity 20)).1.entries ≤ 8 ∧
      talesEnvironment.toll (runNode talesEnvironment talesEnvironment.root false
        (.forEach cappedLoop cappedNodes) (Ledger.ofCapacity 20)).entries ≤ 5 ∧
      (∀ entry ∈ (runNode talesEnvironment talesEnvironment.root true (.message cappedEnd)
        (Ledger.ofCapacity 20)).entries, (talesEnvironment.cost entry.message).toNat ≤ 4) ∧
      talesEnvironment.toll (runNodes talesEnvironment talesEnvironment.root true
        [.forEach cappedLoop cappedNodes] ((Ledger.ofCapacity 20).openCap 3)).entries ≤ 3 := by
  obtain ⟨hslots, hloops, hmessages, hnodes⟩ := toll_le_of_mem_budget talesEnvironment
  refine ⟨by decide +kernel, hslots cappedSlot _ 8 rfl, hloops cappedLoop _ _ _ _ 5 rfl,
    hmessages cappedEnd _ _ _ 4 rfl, ?_⟩
  exact hnodes _ _ _ ((Ledger.ofCapacity 20).openCap 3) ⟨3, 0⟩ List.mem_cons_self

end Render

end ChatPrompt
