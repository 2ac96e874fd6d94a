import ChatPrompt.Injection.Lanes
import ChatPrompt.Proofs.Sorting

/-!
# Injection takes lanes and requests as they come

The lanes that are used are gone through in the order of their numbers and names, which are theirs
alone, so it does not matter in which order they are given. A lane serves its requests by their
priorities; of all that is given to it besides, it sees only in which order those of one priority
come. Lanes that are off and requests to lanes that are off or not there play no part.
-/

namespace ChatPrompt.Injection

open Render

/-- Whether a request is addressed to a lane with a priority. -/
def Request.isSent (id : String) (priority : Int32) (request : Request) : Bool :=
  request.lane == id && request.priority == priority

/-- Whether a request is addressed to one of some lanes that is used. -/
def Request.isUsed (lanes : List Blueprint.Lane) (request : Request) : Bool :=
  lanes.any fun lane => lane.enabled && lane.id == request.lane

section Requests

variable {requests others : List Request}

/-- The order in which requests are served is transitive. -/
theorem urgency_trans (a b c : Request) (hab : decide (b.priority ≤ a.priority) = true)
    (hbc : decide (c.priority ≤ b.priority) = true) : decide (c.priority ≤ a.priority) = true :=
  decide_eq_true (Int32.le_trans (of_decide_eq_true hbc) (of_decide_eq_true hab))

theorem urgency_total (a b : Request) :
    (decide (b.priority ≤ a.priority) || decide (a.priority ≤ b.priority)) = true := by
  simpa using Int32.le_total b.priority a.priority

/-- A lane serves its requests by their priorities. -/
theorem pairwise_served (id : String) (requests : List Request) :
    (served id requests).Pairwise fun a b => b.priority ≤ a.priority :=
  (List.pairwise_mergeSort urgency_trans urgency_total _).imp of_decide_eq_true

/-- A lane serves its requests of one priority as they come. -/
theorem filter_served (id : String) (priority : Int32) (requests : List Request) :
    (served id requests).filter (fun request => request.priority == priority) =
      requests.filter (Request.isSent id priority) := by
  rw [served, filter_mergeSort urgency_trans urgency_total, List.filter_filter]
  · exact List.filter_congr fun request _ => Bool.and_comm _ _
  · intro a b ha hb
    rw [eq_of_beq ha, eq_of_beq hb]
    exact decide_eq_true (Int32.le_refl _)

/-- What a lane serves is known from the requests of each priority that are sent to it. -/
theorem served_eq {id : String}
    (hsent : ∀ priority, others.filter (Request.isSent id priority) =
      requests.filter (Request.isSent id priority)) : served id others = served id requests := by
  refine eq_of_sorted_of_filter_eq (fun a b : Request => decide (b.priority ≤ a.priority))
    (fun a => decide_eq_true (Int32.le_refl _)) ((pairwise_served id requests).imp decide_eq_true)
    ((pairwise_served id others).imp decide_eq_true) fun a => ?_
  -- the requests that are tied with another are those of its priority
  have htied : (fun b : Request => decide (b.priority ≤ a.priority) &&
      decide (a.priority ≤ b.priority)) = fun b => b.priority == a.priority := by
    funext b
    rw [Bool.eq_iff_iff, Bool.and_eq_true, decide_eq_true_eq, decide_eq_true_eq, beq_iff_eq]
    exact ⟨fun h => Int32.le_antisymm h.1 h.2, fun h => h ▸ ⟨Int32.le_refl _, Int32.le_refl _⟩⟩
  rw [htied, filter_served, filter_served, hsent]

end Requests

section Lanes

variable {lanes others : List Blueprint.Lane}

/-- Whether a lane comes before another, or with it. -/
def precedes (a b : Blueprint.Lane) : Bool :=
  a.order < b.order || (a.order == b.order && a.id ≤ b.id)

/-- Lanes are told apart by their numbers, and those of one number by their names. -/
theorem precedes_iff {a b : Blueprint.Lane} :
    precedes a b = true ↔ a.order < b.order ∨ a.order = b.order ∧ a.id ≤ b.id := by
  simp [precedes]

/-- The order of the lanes is transitive. -/
theorem precedes_trans (a b c : Blueprint.Lane) (hab : precedes a b = true)
    (hbc : precedes b c = true) : precedes a c = true := by
  rw [precedes_iff] at hab hbc ⊢
  rcases hab with hab | ⟨hab, hid⟩
  · rcases hbc with hbc | ⟨hbc, -⟩
    · exact .inl (Int32.lt_trans hab hbc)
    · exact .inl (hbc ▸ hab)
  · rcases hbc with hbc | ⟨hbc, hlater⟩
    · exact .inl (hab ▸ hbc)
    · exact .inr ⟨hab.trans hbc, String.le_trans hid hlater⟩

theorem precedes_total (a b : Blueprint.Lane) : (precedes a b || precedes b a) = true := by
  rw [Bool.or_eq_true, precedes_iff, precedes_iff]
  by_cases heq : a.order = b.order
  · rcases String.le_total a.id b.id with hid | hid
    · exact .inl (.inr ⟨heq, hid⟩)
    · exact .inr (.inr ⟨heq.symm, hid⟩)
  · rcases Int32.lt_or_lt_of_ne heq with hlt | hgt
    · exact .inl (.inl hlt)
    · exact .inr (.inl hgt)

/-- Lanes that come before each other have the same name. -/
theorem id_eq_of_precedes {a b : Blueprint.Lane} (hab : precedes a b = true)
    (hba : precedes b a = true) : a.id = b.id := by
  rw [precedes_iff] at hab hba
  rcases hab with hab | ⟨hab, hid⟩
  · rcases hba with hba | ⟨hba, -⟩
    · exact absurd hba (Int32.lt_asymm hab)
    · exact absurd hba.symm (Int32.ne_of_lt hab)
  · rcases hba with hba | ⟨-, hdi⟩
    · exact absurd hab.symm (Int32.ne_of_lt hba)
    · exact String.le_antisymm hid hdi

/-- The lanes that are used have an order of their own, since no two have the same name. -/
theorem lanesInOrder_eq (hids : (lanes.map Blueprint.Lane.id).Nodup)
    (hused : (others.filter Blueprint.Lane.enabled).Perm (lanes.filter Blueprint.Lane.enabled)) :
    lanesInOrder others = lanesInOrder lanes := by
  have hperm : (lanesInOrder others).Perm (lanesInOrder lanes) :=
    (List.mergeSort_perm _ _).trans (hused.trans (List.mergeSort_perm _ _).symm)
  refine hperm.eq_of_pairwise ?_ (List.pairwise_mergeSort precedes_trans precedes_total _)
    (List.pairwise_mergeSort precedes_trans precedes_total _)
  intro a b ha hb hab hba
  have hmem : ∀ lane ∈ lanesInOrder lanes, lane ∈ lanes :=
    fun lane hlane => List.mem_of_mem_filter ((List.mergeSort_perm _ _).mem_iff.1 hlane)
  exact List.inj_on_of_nodup_map hids (hmem a (hperm.mem_iff.1 ha)) (hmem b hb)
    (id_eq_of_precedes hab hba)

end Lanes

section Inject

variable (estimate : Estimator) {lanes others : List Blueprint.Lane} {requests more : List Request}

/-- Injecting takes nothing from the lanes but those that are used, and nothing from the requests
but which of one priority are sent to each of these, in their order. -/
theorem inject_eq_of_sent_eq (hids : (lanes.map Blueprint.Lane.id).Nodup)
    (hused : (others.filter Blueprint.Lane.enabled).Perm (lanes.filter Blueprint.Lane.enabled))
    (hsent : ∀ lane ∈ lanes, lane.enabled = true → ∀ priority,
      more.filter (Request.isSent lane.id priority) =
        requests.filter (Request.isSent lane.id priority))
    (placed : List Placed) (ledger : Ledger) :
    inject estimate others more placed ledger = inject estimate lanes requests placed ledger := by
  rw [inject, inject, lanesInOrder_eq hids hused]
  refine List.foldl_ext _ _ _ fun before lane hlane => ?_
  obtain ⟨hin, henabled⟩ := List.mem_filter.1 ((List.mergeSort_perm _ _).mem_iff.1 hlane)
  rw [injectLane, injectLane, served_eq (hsent lane hin henabled)]

/-- Requests to lanes that are not used are not among those that are sent to a lane that is. -/
theorem filter_isSent_filter_isUsed {lane : Blueprint.Lane} (hlane : lane ∈ lanes)
    (henabled : lane.enabled = true) (priority : Int32) (requests : List Request) :
    (requests.filter (Request.isUsed lanes)).filter (Request.isSent lane.id priority) =
      requests.filter (Request.isSent lane.id priority) := by
  rw [List.filter_filter]
  refine List.filter_congr fun request _ => ?_
  cases hsent : request.isSent lane.id priority with
  | false => rfl
  | true =>
    have hid : request.lane = lane.id := by
      rw [Request.isSent, Bool.and_eq_true, beq_iff_eq] at hsent
      exact hsent.1
    have hused : request.isUsed lanes = true :=
      List.any_eq_true.2 ⟨lane, hlane, by simp [henabled, hid]⟩
    rw [hused]
    rfl

/-- Injecting lanes with distinct names does the same to every prompt and ledger, and reports the
same, when the lanes come in another order and the requests in any other that keeps those of one
lane and priority in theirs; and so it does when the lanes that are off are taken away then, and
with them the requests that are addressed to them or to no lane at all. -/
theorem inject_eq_of_reordered (hids : (lanes.map Blueprint.Lane.id).Nodup)
    (hlanes : others.Perm lanes)
    (hrequests : ∀ id priority, more.filter (Request.isSent id priority) =
      requests.filter (Request.isSent id priority)) (placed : List Placed) (ledger : Ledger) :
    inject estimate others more placed ledger = inject estimate lanes requests placed ledger ∧
      inject estimate (others.filter Blueprint.Lane.enabled)
          (more.filter (Request.isUsed others)) placed ledger =
        inject estimate lanes requests placed ledger := by
  have hused := hlanes.filter Blueprint.Lane.enabled
  constructor
  · exact inject_eq_of_sent_eq estimate hids hused (fun _ _ _ _ => hrequests _ _) placed ledger
  refine inject_eq_of_sent_eq estimate hids ?_ (fun lane hin henabled priority => ?_) placed ledger
  · rw [List.filter_filter]
    simpa only [Bool.and_self] using hused
  · rw [filter_isSent_filter_isUsed (hlanes.mem_iff.2 hin) henabled, hrequests]

end Inject

end ChatPrompt.Injection

namespace ChatPrompt.Sample

open Injection

/-- A lane that makes a message of each payload. -/
def echo (id : String) (enabled : Bool) : Blueprint.Lane :=
  ⟨id, enabled, .system, ⟨"\x7b\x7bpayload\x7d\x7d", [.value (.path ⟨"payload", []⟩)]⟩, 0, [],
    none⟩

/-- A request for a lane. -/
def toLane (id text : String) (priority : Int32) : Request :=
  ⟨id, [], .string text, priority, none⟩

end ChatPrompt.Sample

namespace ChatPrompt.Injection

/-- Two requests of one lane and priority keep their order, while one of another lane, one to a lane
that is off and one to no lane change their places. -/
theorem inject_eq_of_reordered_sample :
    let lanes := [Sample.echo "b" true, Sample.echo "off" false, Sample.echo "a" true]
    let others := [Sample.echo "a" true, Sample.echo "b" true, Sample.echo "off" false]
    let requests := [Sample.toLane "a" "x" 0, Sample.toLane "off" "o" 0, Sample.toLane "a" "y" 0,
      Sample.toLane "b" "z" 1, Sample.toLane "none" "n" 0]
    let more := [Sample.toLane "b" "z" 1, Sample.toLane "none" "n" 0, Sample.toLane "a" "x" 0,
      Sample.toLane "a" "y" 0, Sample.toLane "off" "o" 0]
    let ledger := Ledger.ofCapacity 9
    let injected := inject Estimator.characters lanes requests [] ledger
    injected.placed.map (fun placed => placed.message.content) = ["x", "y", "z"] ∧
      inject Estimator.characters others more [] ledger = injected ∧
      inject Estimator.characters (others.filter Blueprint.Lane.enabled)
        (more.filter (Request.isUsed others)) [] ledger = injected := by
  intro lanes others requests more ledger injected
  refine ⟨?_, inject_eq_of_reordered _ (by decide) ?_ (fun id priority => ?_) [] ledger⟩
  · simp only [injected, lanes, requests, ledger]
    cbv
  · exact (List.Perm.swap _ _ _).trans ((List.Perm.swap _ _ _).cons _)
  · simp only [requests, more, List.filter_cons, List.filter_nil, Request.isSent, Sample.toLane]
    grind

end ChatPrompt.Injection
