import ChatPrompt.Proofs.Ceiling
import ChatPrompt.Proofs.Releases
import ChatPrompt.Proofs.Tracing

/-!
# What is set aside for a lane is there for it

Requests without a group become blocks of one entry, each a message of its own. When a lane comes
to its turn, what is spent and set aside is within the capacity, if all that was set aside at first
was; the reserve of the lane is still part of that, whatever the slots and the lanes before it took.
The lane gives it up and has at least so much room. So entries that cost no more than the reserve
together are all injected, and no later lane takes a message out again.
-/

namespace ChatPrompt

namespace Ledger

/-- No cap is open, and an amount fits beside what is spent and set aside. -/
structure HasRoom (ledger : Ledger) (amount : Nat) : Prop where
  /-- No cap is open. -/
  caps_eq : ledger.caps = []
  /-- The amount fits. -/
  committed_le : ledger.spent.toNat + ledger.heldInAll + amount ≤ ledger.capacity.toNat

namespace HasRoom

variable {ledger : Ledger}

theorem mono {amount smaller : Nat} (h : ledger.HasRoom amount) (hle : smaller ≤ amount) :
    ledger.HasRoom smaller :=
  ⟨h.caps_eq, Nat.le_trans (Nat.add_le_add_left hle _) h.committed_le⟩

theorem fits {amount : Nat} (h : ledger.HasRoom amount) {tokens : Tokens}
    (hle : tokens.toNat ≤ amount) : ledger.fits tokens = true := by
  have hroom := h.committed_le
  have hrange := ledger.capacity.toNat_lt
  have havailable : ¬ ledger.available < tokens := by
    rw [UInt64.lt_iff_toNat_lt, available, Tokens.toNat_minus, Tokens.toNat_minus,
      ledger.toNat_floorTotal (by omega)]
    omega
  rw [Ledger.fits, refusalLevel?, if_neg havailable, h.caps_eq]
  rfl

/-- Where there is room for two amounts, there is for the second after the first is charged. -/
theorem charge {tokens : Tokens} {amount : Nat} (h : ledger.HasRoom (tokens.toNat + amount)) :
    (ledger.charge tokens).HasRoom amount := by
  have hroom := h.committed_le
  have hrange := ledger.capacity.toNat_lt
  have hspent : (ledger.charge tokens).spent.toNat = ledger.spent.toNat + tokens.toNat := by
    change (ledger.spent + tokens).toNat = _
    rw [UInt64.toNat_add, Nat.mod_eq_of_lt (by omega)]
  refine ⟨?_, ?_⟩
  · change ledger.caps.map _ = []
    rw [h.caps_eq, List.map_nil]
  · change (ledger.charge tokens).spent.toNat + ledger.heldInAll + amount ≤ ledger.capacity.toNat
    omega

end HasRoom

/-- What is set aside does not depend on the order of the floors. -/
theorem heldInAll_eq_of_perm {ledger : Ledger} {floors : List (String × Tokens)}
    (h : ledger.floors.Perm floors) :
    ledger.heldInAll = (floors.map fun floor => floor.2.toNat).sum := by
  have hsum := (h.map fun floor => floor.2.toNat).sum_eq
  simpa [heldInAll, held] using hsum

end Ledger

namespace Injection

open Render

/-- The texts of the requests of a lane that say something, in the order in which they are
served. -/
def entries (lane : Blueprint.Lane) (requests : List Request) : List String :=
  (served lane.id requests).filterMap (entryText lane)

/-- What an entry without a group becomes. -/
def entryBlocks (lane : Blueprint.Lane) (requests : List Request) : List Block :=
  requests.filterMap fun request =>
    (entryText lane request).map fun entry => ⟨request.targets, none, [entry]⟩

/-- Requests without groups have a block each, if they say something. -/
theorem blocks_eq {lane : Blueprint.Lane} {requests : List Request}
    (h : ∀ request ∈ requests, request.group = none) :
    blocks lane requests = entryBlocks lane requests := by
  have hfold : ∀ start, requests.foldl (addRequest lane) start =
      start ++ entryBlocks lane requests := by
    induction requests with
    | nil => exact fun start => (List.append_nil start).symm
    | cons request rest ih =>
      obtain ⟨hgroup, hrest⟩ := List.forall_mem_cons.1 h
      intro start
      rw [List.foldl_cons, ih hrest, addRequest, hgroup]
      cases hentry : entryText lane request with
      | none => simp [entryBlocks, hentry]
      | some entry => simp [entryBlocks, hentry]
  exact hfold []

/-- A block of one entry without a group. -/
def Block.IsSingle (block : Block) : Prop := block.group = none ∧ ∃ entry, block.entries = [entry]

/-- What such requests become are blocks of one entry. -/
theorem isSingle_entryBlocks {lane : Blueprint.Lane} {requests : List Request} {block : Block}
    (h : block ∈ entryBlocks lane requests) : block.IsSingle := by
  obtain ⟨request, -, hblock⟩ := List.mem_filterMap.1 h
  obtain ⟨entry, -, rfl⟩ := Option.map_eq_some_iff.1 hblock
  exact ⟨rfl, entry, rfl⟩

/-- The message of one entry without a group is the entry. -/
theorem compose_singleton (lane : Blueprint.Lane) (entry : String) :
    compose lane none [entry] = entry := by
  rw [compose, Option.bind_none]
  exact String.intercalate_singleton

/-- The whole of a block is admitted. -/
def Admission.whole (block : Block) : Admission := ⟨block, block.entries⟩

/-- The messages that single requests become say their entries. -/
theorem message_whole_entryBlocks (lane : Blueprint.Lane) (requests : List Request) :
    ((entryBlocks lane requests).map Admission.whole).map (Admission.message lane) =
      (requests.filterMap (entryText lane)).map (Message.of lane.role) := by
  rw [List.map_map, entryBlocks, List.map_filterMap, List.map_filterMap]
  refine List.filterMap_congr fun request _ => ?_
  rw [Option.map_map]
  refine congrArg (Option.map · _) (funext fun entry => ?_)
  exact congrArg (Message.of lane.role) (compose_singleton lane entry)

variable (estimate : Estimator)

/-- The whole of single requests costs what their entries do. -/
theorem entriesCost_entryBlocks (lane : Blueprint.Lane) (requests : List Request) :
    (entryBlocks lane requests).map (fun block => entriesCost estimate lane block block.entries) =
      (requests.filterMap (entryText lane)).map estimate := by
  rw [entryBlocks, List.map_filterMap, List.map_filterMap]
  refine List.filterMap_congr fun request _ => ?_
  rw [Option.map_map]
  refine congrArg (Option.map · _) (funext fun entry => ?_)
  exact congrArg estimate (compose_singleton lane entry)

/-- Where there is room for all blocks of one entry together, all of them are admitted. -/
theorem admitted_eq {lane : Blueprint.Lane} {ledger : Ledger} {blocks : List Block}
    {admissions : List Admission} (h : Admitted estimate lane ledger blocks admissions)
    (hsingle : ∀ block ∈ blocks, block.IsSingle)
    (hroom : ledger.HasRoom
      (blocks.map fun block => (entriesCost estimate lane block block.entries).toNat).sum) :
    admissions = blocks.map Admission.whole := by
  induction h with
  | nil ledger => rfl
  | whole hne hfits hrest ih =>
    rw [List.map_cons, List.sum_cons] at hroom
    rw [ih (fun block hblock => hsingle block (List.mem_cons_of_mem _ hblock)) hroom.charge]
    rfl
  | @stopped ledger block entries others entry rest hentries hfits hfull =>
    obtain ⟨-, only, honly⟩ := hsingle block List.mem_cons_self
    -- the entry that does not fit would be the only one, for which there is room
    have hfirst : entries ++ [entry] = block.entries := by
      rw [honly] at hentries ⊢
      cases entries with
      | nil =>
        obtain ⟨rfl, -⟩ := List.cons.inj hentries
        rfl
      | cons first more => simp at hentries
    rw [List.map_cons, List.sum_cons] at hroom
    rw [hfirst, hroom.fits (Nat.le_add_right _ _)] at hfull
    cases hfull

/-- The requests of a lane are among those without groups, if those that are addressed to it are. -/
theorem group_of_mem_served {requests : List Request} {id : String}
    (h : ∀ request ∈ requests, request.lane = id → request.group = none) :
    ∀ request ∈ served id requests, request.group = none := by
  intro request hrequest
  have hmine := (List.mergeSort_perm (requests.filter fun request => request.lane == id)
    fun a b => decide (b.priority ≤ a.priority)).mem_iff.1 hrequest
  obtain ⟨hin, hsame⟩ := List.mem_filter.1 hmine
  exact h request hin (beq_iff_eq.1 hsame)

/-- A lane with room for all its entries, none of which has a group, puts in a message for each of
them, and reports that. -/
theorem injectLane_of_hasRoom {requests : List Request} {before : Injected} {lane : Blueprint.Lane}
    (hgroups : ∀ request ∈ requests, request.lane = lane.id → request.group = none)
    (hroom : (before.ledger.release (laneFloor lane.id)).HasRoom
      ((entries lane requests).map fun entry => (estimate entry).toNat).sum) :
    (injectLane estimate requests before lane).placed.Perm
        (before.placed ++ (entries lane requests).map fun entry =>
          ⟨Message.of lane.role entry, none⟩) ∧
      ∃ stats, (injectLane estimate requests before lane).lanes = before.lanes ++ [stats] ∧
        stats.id = lane.id ∧ stats.included = (entries lane requests).length ∧
        stats.blocks = (entries lane requests).length ∧
        stats.tokens.toNat =
          ((entries lane requests).map fun entry => (estimate entry).toNat).sum := by
  obtain ⟨run, exhausted, rfl, hadmitted, hinject⟩ := injectLane_eq estimate requests before lane
  rw [blocks_eq (group_of_mem_served hgroups)] at hadmitted
  have hcosts := entriesCost_entryBlocks estimate run.lane (served run.lane.id requests)
  have hamounts := congrArg (List.map UInt64.toNat) hcosts
  rw [List.map_map, List.map_map] at hamounts
  have hall : run.admissions =
      (entryBlocks run.lane (served run.lane.id requests)).map Admission.whole :=
    admitted_eq estimate hadmitted (fun _ => isSingle_entryBlocks) (hamounts ▸ hroom)
  have hmessages := message_whole_entryBlocks run.lane (served run.lane.id requests)
  rw [← hall] at hmessages
  have hlength : run.admissions.length = (entries run.lane requests).length := by
    have hcount := congrArg List.length hmessages
    rwa [List.length_map, List.length_map] at hcount
  have hsingle : ∀ admission ∈ run.admissions, admission.entries.length = 1 := by
    rw [hall, List.forall_mem_map]
    intro block hblock
    obtain ⟨-, entry, hentry⟩ := isSingle_entryBlocks hblock
    rw [Admission.whole, hentry, List.length_singleton]
  refine ⟨?_, run.stats estimate requests, by rw [hinject], rfl, ?_, hlength, ?_⟩
  · rw [hinject]
    refine (weave_perm _ _).trans (List.Perm.of_eq (congrArg _ ?_))
    have hplaced := congrArg (List.map fun message => (⟨message, none⟩ : Placed)) hmessages
    rw [List.map_map, List.map_map] at hplaced
    rw [List.map_map]
    exact hplaced
  · change (run.admissions.map fun admission => admission.entries.length).sum = _
    rw [← hlength, List.map_congr_left hsingle, List.map_const', List.sum_replicate, smul_eq_mul,
      Nat.mul_one]
  · have htokens : run.tokens estimate = ((entries run.lane requests).map estimate).sum := by
      rw [LaneRun.tokens, hall, List.map_map]
      exact congrArg List.sum hcosts
    have hrange := before.ledger.capacity.toNat_lt
    have hcommitted := hroom.committed_le
    change (run.tokens estimate).toNat = _
    rw [htokens, Tokens.toNat_sum, List.map_map]
    · rfl
    · rw [List.map_map]
      exact Nat.lt_of_le_of_lt (Nat.le_trans (Nat.le_add_left _ _) hcommitted) hrange

end Injection

namespace Render

open Injection

namespace Setup

variable (setup : Setup)

variable (h : setup.blueprint.IsLaidOut) (hlanes : (setup.lanes.map Blueprint.Lane.id).Nodup)
  (hfits : setup.setAside ≤ setup.capacity.toNat)

include h hlanes hfits

/-- A lane that comes to its turn has room for its reserve, if all that is set aside at first fits
into the capacity. -/
theorem hasRoom_opened {before after : List Blueprint.Lane} {lane : Blueprint.Lane}
    (hin : lanesInOrder setup.lanes = before ++ lane :: after) :
    ((setup.injectedUpTo before).ledger.release (laneFloor lane.id)).HasRoom
      (lane.reserve.getD 0).toNat := by
  have hrange : setup.setAside < 2 ^ 64 := Nat.lt_of_le_of_lt hfits setup.capacity.toNat_lt
  have hwithin : (setup.injectedUpTo before).ledger.Within (fun _ => true)
      (setup.ceiling fun _ => true) :=
    setup.within_injectedUpTo hrange h (fun _ _ => rfl) before
  have hceiling : setup.ceiling (fun _ => true) = setup.capacity.toNat := by
    have hall : setup.reserved.held (fun _ => true) = setup.setAside :=
      setup.heldInAll_reserved hrange
    rw [ceiling, hall, Nat.max_eq_left hfits]
  have hcapacity := setup.kept_injectedUpTo isKept_capacity before
  have hdepth := setup.kept_injectedUpTo isKept_depth before
  -- what is set aside at this moment is the reserve of the lane and what is ahead of it
  have hbefore := setup.floors_injectedUpTo hlanes h hin
  have hlater : lanesInOrder setup.lanes = before ++ [lane] ++ after := by simp [hin]
  have hafter := setup.floors_injectedUpTo hlanes h hlater
  obtain ⟨inserted, hjoins⟩ := injectLane_joins setup.env setup.options.injections
    (setup.injectedUpTo before) lane
  have hopened : ((setup.injectedUpTo before).ledger.release (laneFloor lane.id)).floors =
      (setup.injectedUpTo (before ++ [lane])).ledger.floors := by
    rw [injectedUpTo, injectedUpTo, List.foldl_append]
    exact (congrArg Ledger.floors hjoins.ledger_eq).symm
  have hreleased := Ledger.heldInAll_eq_of_perm (hopened ▸ hafter)
  have hheld := Ledger.heldInAll_eq_of_perm hbefore
  have hahead : setup.floorsAhead [] [] (lane :: after) =
      floorsOf lane ++ setup.floorsAhead [] [] after := rfl
  rw [hahead, List.map_append, List.sum_append, sum_floorsOf, ← hreleased] at hheld
  refine ⟨List.eq_nil_of_length_eq_zero hdepth, ?_⟩
  have hspent := hwithin.spent_le
  rw [hceiling] at hspent
  change (setup.injectedUpTo before).ledger.spent.toNat + _ + _ ≤
    (setup.injectedUpTo before).ledger.capacity.toNat
  rw [hcapacity]
  change _ ≤ setup.capacity.toNat
  have hsame : (setup.injectedUpTo before).ledger.held (fun _ => true) =
    (setup.injectedUpTo before).ledger.heldInAll := rfl
  omega

end Setup

/-- Later lanes take no message out of the prompt, and report behind those before them. -/
theorem foldl_injectLane_grows (env : Environment) (requests : List Request)
    (lanes : List Blueprint.Lane) (before : Injected) :
    before.placed.Subperm (lanes.foldl (injectLane env.estimate requests) before).placed ∧
      ∃ stats, (lanes.foldl (injectLane env.estimate requests) before).lanes =
        before.lanes ++ stats ∧ stats.length = lanes.length := by
  induction lanes generalizing before with
  | nil => exact ⟨.refl _, [], (List.append_nil _).symm, rfl⟩
  | cons lane rest ih =>
    obtain ⟨inserted, hjoins⟩ := injectLane_joins env requests before lane
    obtain ⟨hplaced, stats, hstats, hlength⟩ := ih (injectLane env.estimate requests before lane)
    obtain ⟨own, hown, -⟩ := hjoins.lanes_eq
    refine ⟨?_, own :: stats, ?_, congrArg Nat.succ hlength⟩
    · have hkept : before.placed.Subperm (before.placed ++ inserted) :=
        (List.sublist_append_left _ _).subperm
      exact (hkept.trans hjoins.placed_perm.symm.subperm).trans hplaced
    · rw [List.foldl_cons, hstats, hown, List.append_assoc, List.singleton_append]

/-- A reserve is honoured. Where all that is set aside at first fits into the capacity, and the
requests of a lane have no groups and cost no more than its reserve together, every one of them that
says something joins the prompt when the lane comes to its turn, whatever the slots and the lanes
before it spent. The prompt says them in the end, and the report counts them. -/
theorem injects_reserved {setup : Setup} (h : setup.blueprint.IsCompiled)
    (hlanes : (setup.lanes.map Blueprint.Lane.id).Nodup)
    (hfits : setup.setAside ≤ setup.capacity.toNat) {lane : Blueprint.Lane}
    (hlane : lane ∈ setup.lanes) (hused : lane.enabled = true) {reserve : Tokens}
    (hreserve : lane.reserve = some reserve)
    (hgroups : ∀ request ∈ setup.options.injections,
      request.lane = lane.id → request.group = none)
    (hcosts : ((entries lane setup.options.injections).map fun entry =>
      (setup.env.estimate entry).toNat).sum ≤ reserve.toNat) :
    ∃ prompt before after,
      render setup.env setup.blueprint setup.options setup.capacity = .ok prompt ∧
      lanesInOrder setup.lanes = before ++ lane :: after ∧
      (setup.injectedUpTo (before ++ [lane])).placed.Perm
        ((setup.injectedUpTo before).placed ++
          (entries lane setup.options.injections).map fun entry =>
            ⟨Message.of lane.role entry, none⟩) ∧
      ((entries lane setup.options.injections).map fun entry => (lane.role, entry)).Subperm
        (prompt.messages.map Message.said) ∧
      ∃ stats, prompt.report.lanes[before.length]? = some stats ∧ stats.id = lane.id ∧
        stats.included = (entries lane setup.options.injections).length ∧
        stats.blocks = (entries lane setup.options.injections).length ∧
        stats.tokens.toNat = ((entries lane setup.options.injections).map fun entry =>
          (setup.env.estimate entry).toNat).sum := by
  have hlaid := h.isLaidOut
  have hin : lane ∈ lanesInOrder setup.lanes :=
    (lanesInOrder_perm setup.lanes).mem_iff.2 (List.mem_filter.2 ⟨hlane, hused⟩)
  obtain ⟨before, after, horder⟩ := List.append_of_mem hin
  have hroom := setup.hasRoom_opened hlaid hlanes hfits horder
  rw [hreserve, Option.getD_some] at hroom
  obtain ⟨hjoin, stats, hstats, hid, hincluded, hblocks, htokens⟩ :=
    injectLane_of_hasRoom setup.env.estimate hgroups (hroom.mono hcosts)
  have hnext : setup.injectedUpTo (before ++ [lane]) = injectLane setup.env.estimate
      setup.options.injections (setup.injectedUpTo before) lane := by
    rw [Setup.injectedUpTo, List.foldl_append]
    rfl
  have hlast : setup.injected = after.foldl (injectLane setup.env.estimate
      setup.options.injections) (setup.injectedUpTo (before ++ [lane])) := by
    rw [Setup.injected, horder, List.append_cons, Setup.injectedUpTo, List.foldl_append]
    rfl
  obtain ⟨-, earlier, hearlier, hlength⟩ := foldl_injectLane_grows setup.env
    setup.options.injections before ⟨setup.placed, setup.assembledUpTo setup.nodes, [], []⟩
  obtain ⟨hkept, later, hlater, -⟩ := foldl_injectLane_grows setup.env setup.options.injections
    after (setup.injectedUpTo (before ++ [lane]))
  rw [← hlast] at hkept hlater
  refine ⟨setup.prompt, before, after, setup.render_eq hlaid, horder, hnext ▸ hjoin, ?_, stats, ?_,
    hid, hincluded, hblocks, htokens⟩
  · -- the entries are among what is there after the lane, and none of that goes again
    have hjoined := hjoin.symm.subperm
    rw [← hnext] at hjoined
    obtain ⟨own, hown, hall⟩ :=
      ((List.sublist_append_right _ _).subperm.trans hjoined).trans hkept
    have hsaid := hown.map fun placed => placed.message.said
    rw [List.map_map] at hsaid
    rw [setup.said_messages, List.map_map]
    exact ⟨_, hsaid, hall.map _⟩
  · have hlanes : setup.prompt.report.lanes = setup.injected.lanes := rfl
    have hbefore : (setup.injectedUpTo before).lanes = earlier := hearlier
    rw [hlanes, hlater, hnext, hstats, hbefore, ← hlength, List.append_assoc,
      List.getElem?_append_right (Nat.le_refl _), Nat.sub_self]
    rfl

end Render

namespace Sample

open Render

/-- The lane of the conversation. -/
def lore : Blueprint.Lane :=
  ⟨"lore", true, .system,
    ⟨"\x7b\x7bpayload\x7d\x7d", [.value (.path ⟨"payload", []⟩)]⟩, 0, [], some 1⟩

/-- The conversation with room for no more than what is set aside at first. -/
def tightSetup : Setup := ⟨environment, blueprint, options, 3⟩

end Sample

namespace Render

open Injection

/-- In the conversation with room for three tokens all of them are set aside, and the lane puts in
its entry. -/
theorem injects_reserved_sample :
    Sample.tightSetup.setAside = 3 ∧
      ∃ prompt, render Sample.tightSetup.env Sample.tightSetup.blueprint Sample.tightSetup.options
          Sample.tightSetup.capacity = .ok prompt ∧
        [(Role.system, "z")].Subperm (prompt.messages.map Message.said) := by
  have haside : Sample.tightSetup.setAside = 3 := by cbv
  have hentries : entries Sample.lore Sample.tightSetup.options.injections = ["z"] := by cbv
  have hlane : Sample.lore ∈ Sample.tightSetup.lanes := List.mem_cons_self
  obtain ⟨prompt, before, after, hrender, -, -, hsaid, -⟩ :=
    @injects_reserved Sample.tightSetup Sample.isCompiled (by decide) (by rw [haside]; decide)
      Sample.lore hlane rfl 1 rfl (by decide) (by rw [hentries]; decide)
  rw [hentries] at hsaid
  exact ⟨haside, prompt, hrender, hsaid⟩

end Render

end ChatPrompt
