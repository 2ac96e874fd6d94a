import ChatPrompt.Proofs.Grouping
import ChatPrompt.Proofs.Stopping

/-!
# Urgency and groups

The blocks of a lane, read one after the other, make a line of its requests, and what goes into the
prompt is the front of that line. The first requests of the blocks stand in the line by their
priorities, and so do the requests of each block. But a request that joins the block of its group
stands where the group does, before requests of other blocks that may be more urgent. So a request
that stays out has no higher priority than one that goes in, unless that one joined a group which a
request at least as urgent as both had opened.
-/

namespace ChatPrompt.Injection

open Render

/-- The requests of some blocks, read block by block. -/
def lineOf (shares : List Share) : List Numbered := shares.flatMap Share.members

/-- One request stands before another although it may be less urgent: it joined the block of a group
that a request at least as urgent as the other opened, and the other is not of that block. -/
structure Overtakes (shares : List Share) (request other : Numbered) (share : Share) : Prop where
  /-- The block is one of the lane. -/
  mem_shares : share ∈ shares
  /-- The request joined it. -/
  mem_others : request ∈ share.others
  /-- The other one is not in it. -/
  not_mem : other ∉ share.members
  /-- The one that opened it is at least as urgent as the other. -/
  le_first : other.1.priority ≤ share.first.1.priority

section Line

variable {ranked : List Numbered} {shares : List Share}

/-- No request outranks itself. -/
theorem outranks_irrefl (request : Numbered) : ¬Outranks request request := by
  rintro (hlt | ⟨-, hlt⟩)
  · exact Int32.lt_irrefl hlt
  · exact Nat.lt_irrefl _ hlt

/-- A request is at least as urgent as those it outranks. -/
theorem Outranks.priority_le {a b : Numbered} (h : Outranks a b) :
    b.1.priority ≤ a.1.priority := by
  rcases h with hlt | ⟨heq, -⟩
  · exact Int32.le_of_lt hlt
  · exact heq ▸ Int32.le_refl _

/-- Every request stands once in the line. -/
theorem Dealt.nodup_line (h : Dealt ranked shares) (hranked : ranked.Pairwise Outranks) :
    (lineOf shares).Nodup := by
  refine h.members_perm.nodup_iff.2 (hranked.imp ?_)
  rintro a b hab rfl
  exact outranks_irrefl a hab

/-- The requests of a block stand in the line by their priorities. -/
theorem Dealt.members_sorted (h : Dealt ranked shares) (hranked : ranked.Pairwise Outranks)
    {share : Share} (hshare : share ∈ shares) :
    share.members.Pairwise fun a b => b.1.priority ≤ a.1.priority :=
  (hranked.sublist (h.members_sublist share hshare)).imp Outranks.priority_le

/-- The one that opened a block is at least as urgent as all of it. -/
theorem Dealt.le_first (h : Dealt ranked shares) (hranked : ranked.Pairwise Outranks)
    {share : Share} (hshare : share ∈ shares) {request : Numbered}
    (hrequest : request ∈ share.members) :
    request.1.priority ≤ share.first.1.priority := by
  rcases List.mem_cons.1 hrequest with rfl | hother
  · exact Int32.le_refl _
  · exact (List.pairwise_cons.1 (h.members_sorted hranked hshare)).1 request hother

/-- A request that stands behind another one is no more urgent, unless it was overtaken. -/
theorem Dealt.pairwise_line (h : Dealt ranked shares) (hranked : ranked.Pairwise Outranks) :
    (lineOf shares).Pairwise fun a b =>
      b.1.priority ≤ a.1.priority ∨ ∃ share, Overtakes shares a b share := by
  have hfirsts : shares.Pairwise fun a b => b.first.1.priority ≤ a.first.1.priority :=
    List.pairwise_map.1 ((hranked.sublist h.firsts_sublist).imp Outranks.priority_le)
  have hapart := (List.pairwise_flatMap.1 (h.nodup_line hranked)).2
  refine List.pairwise_flatMap.2 ⟨fun share hshare => ?_, ?_⟩
  · exact (h.members_sorted hranked hshare).imp Or.inl
  · refine (hfirsts.and hapart).imp_of_mem fun {share behind} hshare hbehind hboth => ?_
    obtain ⟨hle, hdistinct⟩ := hboth
    intro a ha b hb
    have hopener := Int32.le_trans (h.le_first hranked hbehind hb) hle
    rcases List.mem_cons.1 ha with rfl | hother
    · exact .inl hopener
    · exact .inr ⟨share, hshare, hother, fun hin => hdistinct b hin b hb rfl, hopener⟩

end Line

/-- The requests of a block that go in. -/
structure Portion where
  /-- The requests of the block. -/
  share : Share
  /-- Its first requests, or all of them. -/
  taken : List Numbered

/-- What is admitted for the requests of a block that go in. -/
def Portion.admission (lane : Blueprint.Lane) (portion : Portion) : Admission :=
  ⟨portion.share.block lane, portion.taken.map fun request => requestText lane request.1⟩

/-- Requests that go in, block by block from the front of a line, and those that stay out. -/
structure Splits (shares : List Share) (portions : List Portion) (omitted : List Numbered) :
    Prop where
  /-- Together they are the line, the ones that go in before the others. -/
  line_eq : lineOf shares = portions.flatMap Portion.taken ++ omitted
  /-- They are of different blocks, in the order of these. -/
  shares_sublist : (portions.map Portion.share).Sublist shares
  /-- Of a block the first requests go in, and one at least. -/
  taken_prefix : ∀ portion ∈ portions, portion.taken ≠ [] ∧ portion.taken <+: portion.share.members

section Serving

variable (estimate : Estimator) (lane : Blueprint.Lane)

/-- What is admitted of the blocks of a lane is the front of its line. -/
theorem Admitted.exists_portions {ledger : Ledger} {shares : List Share}
    {admissions : List Admission}
    (h : Admitted estimate lane ledger (shares.map (Share.block lane)) admissions) :
    ∃ portions omitted, admissions = portions.map (Portion.admission lane) ∧
      Splits shares portions omitted := by
  generalize hblocks : shares.map (Share.block lane) = blocks at h
  induction h generalizing shares with
  | nil ledger =>
    obtain rfl := List.map_eq_nil_iff.1 hblocks
    exact ⟨[], [], rfl, rfl, .refl _, List.forall_mem_nil _⟩
  | whole hne hfits hrest ih =>
    obtain ⟨share, others, rfl, rfl, hothers⟩ := List.map_eq_cons_iff.1 hblocks
    obtain ⟨portions, omitted, rfl, hsplits⟩ := ih hothers
    refine ⟨⟨share, share.members⟩ :: portions, omitted, rfl, ?_, ?_, ?_⟩
    · rw [lineOf, List.flatMap_cons, List.flatMap_cons, List.append_assoc]
      exact congrArg (share.members ++ ·) hsplits.line_eq
    · exact hsplits.shares_sublist.cons_cons share
    · exact List.forall_mem_cons.2
        ⟨⟨List.cons_ne_nil _ _, List.prefix_rfl⟩, hsplits.taken_prefix⟩
  | @stopped ledger block entries others entry rest hentries hfits hfull =>
    obtain ⟨share, behind, rfl, rfl, hbehind⟩ := List.map_eq_cons_iff.1 hblocks
    obtain ⟨taken, left, hmembers, rfl, hleft⟩ := List.map_eq_append_iff.1 hentries
    have hline : lineOf (share :: behind) = taken ++ (left ++ lineOf behind) := by
      rw [lineOf, List.flatMap_cons, hmembers, List.append_assoc]
      rfl
    by_cases hnil : taken = []
    · subst hnil
      exact ⟨[], left ++ lineOf behind, rfl, hline, List.nil_sublist _, List.forall_mem_nil _⟩
    · refine ⟨[⟨share, taken⟩], left ++ lineOf behind,
        if_neg (mt List.map_eq_nil_iff.1 hnil), ?_, ?_, ?_⟩
      · rw [List.flatMap_singleton]
        exact hline
      · exact List.singleton_sublist.2 List.mem_cons_self
      · exact List.forall_mem_singleton.2 ⟨hnil, hmembers ▸ List.prefix_append _ _⟩

/-- Where every message costs one, as many blocks go in whole as there are tokens. -/
theorem Admitted.eq_take_of_cost_one {ledger : Ledger} {blocks : List Block}
    {admissions : List Admission} (h : Admitted (fun _ => 1) lane ledger blocks admissions) :
    admissions = (blocks.take ledger.remaining.toNat).map Admission.whole := by
  have hfits : ∀ {ledger : Ledger}, ledger.fits 1 = true → 1 ≤ ledger.remaining.toNat :=
    fun {ledger} h => (ledger.refusalLevel?_eq_none_iff 1).1 (Option.isNone_iff_eq_none.1 h)
  induction h with
  | nil ledger => rw [List.take_nil, List.map_nil]
  | @whole ledger block rest admissions hne hwhole hrest ih =>
    have hroom := hfits (hwhole _ hne List.prefix_rfl)
    have hleft : (ledger.charge 1).remaining.toNat = ledger.remaining.toNat - 1 :=
      ledger.toNat_remaining_charge hroom
    obtain ⟨more, hmore⟩ := Nat.exists_eq_add_of_le' hroom
    rw [ih, entriesCost, hleft, hmore, List.take_succ_cons]
    rfl
  | @stopped ledger block entries others entry rest hentries hwhole hfull =>
    have hnone : ledger.remaining.toNat = 0 := by
      have hlt := UInt64.lt_iff_toNat_lt.1 ((fits_eq_false_iff _).1 hfull)
      exact Nat.lt_one_iff.1 hlt
    have hnil : entries = [] := by
      by_contra hne
      have hroom := hfits (hwhole _ hne List.prefix_rfl)
      omega
    rw [hnone, hnil, List.take_zero]
    rfl

variable (requests : List Request) (before : Injected)

/-- What a lane does with the requests that are dealt out to its blocks. -/
structure Serves (shares : List Share) (portions : List Portion) (omitted : List Numbered) : Prop
    extends Splits shares portions omitted where
  /-- The messages of those that go in join the prompt. -/
  placed_perm : (injectLane estimate requests before lane).placed.Perm (before.placed ++
    portions.map fun portion => ⟨(portion.admission lane).message lane, none⟩)
  /-- They are the ones that are counted. -/
  included_eq : ∃ stats,
    (injectLane estimate requests before lane).lanes = before.lanes ++ [stats] ∧
    stats.included = (portions.flatMap Portion.taken).length

/-- A lane serves the requests for which something is admitted. -/
theorem exists_admitted_serves {shares : List Share}
    (hblocks : blocks lane (served lane.id requests) = shares.map (Share.block lane)) :
    ∃ admissions, Admitted estimate lane (before.ledger.release (laneFloor lane.id))
        (shares.map (Share.block lane)) admissions ∧
      ∀ portions omitted, admissions = portions.map (Portion.admission lane) →
        Splits shares portions omitted →
        Serves estimate lane requests before shares portions omitted := by
  obtain ⟨run, exhausted, rfl, hadmitted, hinject⟩ := injectLane_eq estimate requests before lane
  refine ⟨run.admissions, hblocks ▸ hadmitted, fun portions omitted hportions hsplits => ?_⟩
  refine ⟨hsplits, ?_, run.stats estimate requests, ?_, ?_⟩
  · rw [hinject]
    refine (weave_perm _ _).trans (.of_eq ?_)
    rw [hportions, List.map_map, List.map_map]
    rfl
  · rw [hinject]
  · have hcount : ∀ portion ∈ portions,
        (portion.admission run.lane).entries.length = portion.taken.length :=
      fun portion _ => List.length_map _
    rw [LaneRun.stats, hportions, List.map_map, List.length_flatMap]
    exact congrArg List.sum (List.map_congr_left hcount)

/-- Where every message costs one, the blocks that go in are as many as there are tokens. -/
theorem serves_take {shares : List Share} {count : Nat} (hcount : count < 2 ^ 64)
    (hblocks : blocks lane (served lane.id requests) = shares.map (Share.block lane)) :
    Serves (fun _ => 1) lane requests ⟨[], .ofCapacity (.ofNat count), [], []⟩ shares
      ((shares.take count).map fun share => ⟨share, share.members⟩)
      (lineOf (shares.drop count)) := by
  obtain ⟨admissions, hadmitted, hserves⟩ := exists_admitted_serves (fun _ => 1) lane requests
    ⟨[], .ofCapacity (.ofNat count), [], []⟩ hblocks
  have hledger : (Ledger.ofCapacity (.ofNat count)).remaining.toNat = count := by
    have hcapacity : (UInt64.ofNat count).toNat = count := UInt64.toNat_ofNat_of_lt' hcount
    have hspent := Tokens.toNat_minus (.ofNat count) 0
    have hfloors := Tokens.toNat_minus (Tokens.minus (.ofNat count) 0) 0
    rw [hspent, hcapacity] at hfloors
    exact hfloors
  refine hserves _ _ ?_ ⟨?_, ?_, ?_⟩
  · rw [hadmitted.eq_take_of_cost_one, ← List.map_take, List.map_map, List.map_map]
    exact congrArg (fun count => (shares.take count).map _) hledger
  · rw [List.flatMap_map, lineOf, lineOf, ← List.flatMap_append, List.take_append_drop]
  · rw [List.map_map]
    exact (List.map_id _).symm ▸ List.take_sublist _ _
  · intro portion hportion
    obtain ⟨share, -, rfl⟩ := List.mem_map.1 hportion
    exact ⟨List.cons_ne_nil _ _, List.prefix_rfl⟩

end Serving

/-- Where no request that stays out is more urgent than one that goes in, whatever messages cost and
whatever there is to spend, the line of a lane is sorted by priority. -/
theorem Dealt.line_sorted {ranked : List Numbered} {shares : List Share} (h : Dealt ranked shares)
    (hranked : ranked.Pairwise Outranks) {lane : Blueprint.Lane} {requests : List Request}
    (hblocks : blocks lane (served lane.id requests) = shares.map (Share.block lane))
    (hcount : shares.length ≤ 2 ^ 64)
    (hlaw : ∀ estimate before portions omitted,
      Serves estimate lane requests before shares portions omitted →
        ∀ request ∈ portions.flatMap Portion.taken, ∀ other ∈ omitted,
          other.1.priority ≤ request.1.priority) :
    (lineOf shares).Pairwise fun a b => b.1.priority ≤ a.1.priority := by
  refine List.pairwise_flatMap.2 ⟨fun share hshare => h.members_sorted hranked hshare, ?_⟩
  refine List.pairwise_iff_getElem.2 fun i j hi hj hlt a ha b hb => ?_
  -- the budget ends between the two blocks
  have hlast : i + 1 < 2 ^ 64 := by omega
  have hserves := serves_take lane requests hlast hblocks
  refine hlaw _ _ _ _ hserves a ?_ b ?_
  · refine List.mem_flatMap.2 ⟨⟨shares[i], shares[i].members⟩, List.mem_map_of_mem ?_, ha⟩
    exact List.mem_take_iff_getElem.2 ⟨i, by omega, rfl⟩
  · refine List.mem_flatMap.2 ⟨shares[j], ?_, hb⟩
    exact List.mem_drop_iff_getElem.2 ⟨j - (i + 1), by omega, by congr 1; omega⟩

/-- A request that stays out is no more urgent than one that goes in, unless that one overtook it in
the block of its group. The requests of a lane that say something are dealt out to its blocks by
rank, and whatever the estimator and the prompt before are, those that go in are the front of the
line of these blocks and those that stay out its end. Of two that stand in this order the second one
is no more urgent than the first, or the first joined a group whose block was opened by a request at
least as urgent as the second, which is not of that block. So the more urgent ones always go in
first just if the line is sorted by priority. -/
theorem injectLane_urgency (lane : Blueprint.Lane) (requests : List Request) :
    ∃ (ranked : List Numbered) (shares : List Share),
      ranked.Perm (requests.zipIdx.filter fun request => request.1.isVoiced lane) ∧
      ranked.Pairwise Outranks ∧ Dealt ranked shares ∧
      blocks lane (served lane.id requests) = shares.map (Share.block lane) ∧
      (∀ (estimate : Estimator) (before : Injected), ∃ portions omitted,
        Serves estimate lane requests before shares portions omitted ∧
        ∀ request ∈ portions.flatMap Portion.taken, ∀ other ∈ omitted,
          other.1.priority ≤ request.1.priority ∨ ∃ share, Overtakes shares request other share) ∧
      (shares.length ≤ 2 ^ 64 →
        ((∀ estimate before portions omitted,
          Serves estimate lane requests before shares portions omitted →
            ∀ request ∈ portions.flatMap Portion.taken, ∀ other ∈ omitted,
              other.1.priority ≤ request.1.priority) ↔
          (lineOf shares).Pairwise fun a b => b.1.priority ≤ a.1.priority)) := by
  obtain ⟨ranked, shares, hperm, hranked, hdealt, hblocks⟩ := exists_dealt_blocks lane requests
  refine ⟨ranked, shares, hperm, hranked, hdealt, hblocks, fun estimate before => ?_,
    fun hcount => ⟨hdealt.line_sorted hranked hblocks hcount, ?_⟩⟩
  · obtain ⟨admissions, hadmitted, hserves⟩ :=
      exists_admitted_serves estimate lane requests before hblocks
    obtain ⟨portions, omitted, hportions, hsplits⟩ := hadmitted.exists_portions
    have hline := hdealt.pairwise_line hranked
    rw [hsplits.line_eq] at hline
    exact ⟨portions, omitted, hserves portions omitted hportions hsplits,
      (List.pairwise_append.1 hline).2.2⟩
  · intro hsorted estimate before portions omitted hserves
    rw [hserves.line_eq] at hsorted
    exact (List.pairwise_append.1 hsorted).2.2

end ChatPrompt.Injection

namespace ChatPrompt.Sample

open Injection Render

/-- Two requests of a group, between which an urgent one of none has its rank. -/
def mixedRequests : List Request :=
  [⟨"lore", [], .string "a", 10, some "g"⟩, ⟨"lore", [], .string "b", 5, none⟩,
    ⟨"lore", [], .string "c", 0, some "g"⟩]

/-- What injecting them into an empty prompt does, with three tokens to spend. -/
def mixedInjected : Injected :=
  injectLane Estimator.characters mixedRequests ⟨[], .ofCapacity 3, [], []⟩ (echo "lore" true)

/-- The less urgent request of the group goes in, and the more urgent one of none stays out. -/
theorem exists_less_urgent_included : ∃ included ∈ mixedRequests, ∃ omitted ∈ mixedRequests,
    included.isVoiced (echo "lore" true) = true ∧ omitted.isVoiced (echo "lore" true) = true ∧
      included.priority < omitted.priority ∧
      requestText (echo "lore" true) included = "c" ∧
      requestText (echo "lore" true) omitted = "b" ∧
      mixedInjected.placed.map (fun placed => placed.message.content) = ["a\nc"] ∧
      mixedInjected.lanes.map LaneStats.included = [2] := by
  refine ⟨⟨"lore", [], .string "c", 0, some "g"⟩, by simp [mixedRequests],
    ⟨"lore", [], .string "b", 5, none⟩, by simp [mixedRequests], ?_⟩
  refine ⟨by cbv, by cbv, by decide, by cbv, by cbv, by cbv, by cbv⟩

end ChatPrompt.Sample
