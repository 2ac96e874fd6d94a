import ChatPrompt.Proofs.Interchange
import ChatPrompt.Proofs.Tracing

/-!
# Groups of requests share a message

The requests of a lane are ranked by their priorities, and those of one priority by the order in
which they come. The ones that say something are dealt out to the blocks of the lane, each to one
block: those of a group go to the block that the first of them opened, and any other opens a block
of its own. So the requests of a block, and the first ones of the blocks, are in the order of their
ranks. The message of a block has its entries in their order, with the texts of its group around
them.
-/

namespace ChatPrompt.Injection

open Render

/-- The text that a lane makes of a request. -/
def requestText (lane : Blueprint.Lane) (request : Request) : String :=
  lane.template.render (Scope.ofContext (requestData lane request))

/-- Whether a request is addressed to a lane, and the lane has something to say for it. -/
def Request.isVoiced (lane : Blueprint.Lane) (request : Request) : Bool :=
  request.lane == lane.id && !Text.isBlankText (requestText lane request)

/-- A request with its place among the requests. -/
abbrev Numbered := Request × Nat

/-- One request comes before another: it has a higher priority, or the same and an earlier place. -/
def Outranks (a b : Numbered) : Prop :=
  b.1.priority < a.1.priority ∨ a.1.priority = b.1.priority ∧ a.2 < b.2

/-- The requests of a block. -/
structure Share where
  /-- The one that opened the block. -/
  first : Numbered
  /-- Those that joined it. -/
  others : List Numbered

namespace Share

/-- All requests of a block. -/
def members (share : Share) : List Numbered := share.first :: share.others

/-- The groups that the requests of a block name. -/
def groups (share : Share) : List String := share.members.filterMap fun request => request.1.group

/-- The block: it goes where its first request does, and has the texts of all of them. -/
def block (lane : Blueprint.Lane) (share : Share) : Block :=
  ⟨share.first.1.targets, share.first.1.group,
    share.members.map fun request => requestText lane request.1⟩

/-- One more request joins. -/
def join (share : Share) (request : Numbered) : Share :=
  ⟨share.first, share.others ++ [request]⟩

@[simp] theorem first_join (share : Share) (request : Numbered) :
    (share.join request).first = share.first := rfl

@[simp] theorem members_join (share : Share) (request : Numbered) :
    (share.join request).members = share.members ++ [request] := rfl

/-- The group of the first request is among those that are named. -/
theorem mem_groups_of_first {share : Share} {group : String}
    (h : share.first.1.group = some group) : group ∈ share.groups :=
  List.mem_filterMap.2 ⟨share.first, List.mem_cons_self, h⟩

/-- The text of a request that joins becomes the last entry of the block. -/
theorem block_join (lane : Blueprint.Lane) (share : Share) (request : Numbered) :
    (share.join request).block lane = { share.block lane with
      entries := (share.block lane).entries ++ [requestText lane request.1] } := by
  simp [block]

end Share

/-- Ranked requests are dealt out to blocks. -/
structure Dealt (ranked : List Numbered) (shares : List Share) : Prop where
  /-- Each goes to one block, and the blocks have no others. -/
  members_perm : (shares.flatMap Share.members).Perm ranked
  /-- The requests of a block come in their order. -/
  members_sublist : ∀ share ∈ shares, share.members.Sublist ranked
  /-- The blocks come in the order of their first requests. -/
  firsts_sublist : (shares.map Share.first).Sublist ranked
  /-- Only requests of one group share a block. -/
  together : ∀ share ∈ shares, ∀ other ∈ share.others,
    ∃ group, share.first.1.group = some group ∧ other.1.group = some group
  /-- No group is named in two blocks. -/
  apart : shares.Pairwise fun a b => a.groups.Disjoint b.groups

namespace Dealt

variable {ranked : List Numbered} {shares front back : List Share} {share : Share}
  {request : Numbered}

/-- Nothing is dealt out at first. -/
theorem nil : Dealt [] [] := ⟨.refl _, nofun, .refl _, nofun, .nil⟩

/-- The groups that are named in a block are the one of its first request. -/
theorem mem_groups_iff (h : Dealt ranked shares) (hshare : share ∈ shares) {group : String} :
    group ∈ share.groups ↔ share.first.1.group = some group := by
  refine ⟨fun hgroup => ?_, Share.mem_groups_of_first⟩
  obtain ⟨member, hmember, hnamed⟩ := List.mem_filterMap.1 hgroup
  rcases List.mem_cons.1 hmember with rfl | hother
  · exact hnamed
  · obtain ⟨shared, hfirst, hsame⟩ := h.together share hshare member hother
    rw [hfirst, ← hsame, hnamed]

/-- A request that joins no block opens one. -/
theorem opened (h : Dealt ranked shares)
    (hfresh : ∀ share ∈ shares, ∀ group, request.1.group = some group →
      share.first.1.group ≠ some group) :
    Dealt (ranked ++ [request]) (shares ++ [⟨request, []⟩]) where
  members_perm := by
    simpa [Share.members] using h.members_perm.append_right [request]
  members_sublist := by
    intro share hshare
    rcases List.mem_append.1 hshare with hin | hnew
    · exact (h.members_sublist share hin).trans (List.sublist_append_left _ _)
    · rw [List.mem_singleton.1 hnew]
      exact List.sublist_append_right _ _
  firsts_sublist := by
    rw [List.map_append]
    exact h.firsts_sublist.append (.refl _)
  together := by
    intro share hshare
    rcases List.mem_append.1 hshare with hin | hnew
    · exact h.together share hin
    · rw [List.mem_singleton.1 hnew]
      exact nofun
  apart := by
    refine List.pairwise_append.2 ⟨h.apart, List.pairwise_singleton _ _, ?_⟩
    intro share hshare new hnew group hgroup hnamed
    obtain rfl := List.mem_singleton.1 hnew
    obtain ⟨member, hmember, hrequest⟩ := List.mem_filterMap.1 hnamed
    obtain rfl := List.mem_singleton.1 hmember
    exact hfresh share hshare group hrequest ((h.mem_groups_iff hshare).1 hgroup)

/-- A request of the group of a block joins it. -/
theorem joined (h : Dealt ranked (front ++ share :: back)) {group : String}
    (hrequest : request.1.group = some group) (hshare : share.first.1.group = some group) :
    Dealt (ranked ++ [request]) (front ++ share.join request :: back) := by
  -- the block names no more groups than it did
  have hgroups : ∀ {named}, named ∈ (share.join request).groups → named ∈ share.groups := by
    intro named hnamed
    rw [Share.groups, Share.members_join, List.filterMap_append] at hnamed
    rcases List.mem_append.1 hnamed with hold | hnew
    · exact hold
    · obtain ⟨member, hmember, hmatch⟩ := List.mem_filterMap.1 hnew
      obtain rfl := List.mem_singleton.1 hmember
      obtain rfl := Option.some.inj (hmatch.symm.trans hrequest)
      exact Share.mem_groups_of_first hshare
  have hin : ∀ {other}, other ∈ front ++ share.join request :: back →
      other = share.join request ∨ other ∈ front ++ share :: back := by
    intro other hother
    rcases List.mem_append.1 hother with hfront | hrest
    · exact .inr (List.mem_append_left _ hfront)
    · rcases List.mem_cons.1 hrest with heq | hback
      · exact .inl heq
      · exact .inr (List.mem_append_right _ (List.mem_cons_of_mem _ hback))
  have hmem : share ∈ front ++ share :: back := List.mem_append_right _ List.mem_cons_self
  constructor
  · -- the members behind the block move in front of the new one
    refine .trans ?_ (h.members_perm.append_right _)
    simp only [List.flatMap_append, List.flatMap_cons, Share.members_join, List.append_assoc]
    exact (List.perm_append_comm.append_left _).append_left _
  · intro other hother
    rcases hin hother with rfl | hold
    · exact (h.members_sublist share hmem).append (.refl _)
    · exact (h.members_sublist other hold).trans (List.sublist_append_left _ _)
  · have hfirsts := h.firsts_sublist
    simp only [List.map_append, List.map_cons] at hfirsts ⊢
    exact hfirsts.trans (List.sublist_append_left _ _)
  · intro other hother
    rcases hin hother with rfl | hold
    · intro member hmember
      rcases List.mem_append.1 hmember with hwas | hnew
      · exact h.together share hmem member hwas
      · obtain rfl := List.mem_singleton.1 hnew
        exact ⟨group, hshare, hrequest⟩
    · exact h.together other hold
  · obtain ⟨hfront, hrest, hacross⟩ := List.pairwise_append.1 h.apart
    obtain ⟨hshares, hback⟩ := List.pairwise_cons.1 hrest
    refine List.pairwise_append.2 ⟨hfront, List.pairwise_cons.2 ⟨?_, hback⟩, ?_⟩
    · exact fun other hother named hnamed => hshares other hother (hgroups hnamed)
    · intro earlier hearlier later hlater
      rcases List.mem_cons.1 hlater with rfl | hin
      · exact fun named hnamed hjoined =>
          hacross earlier hearlier share List.mem_cons_self hnamed (hgroups hjoined)
      · exact hacross earlier hearlier later (List.mem_cons_of_mem _ hin)

end Dealt

section Blocks

variable (lane : Blueprint.Lane)

/-- An entry joins the first block of its group, if there is one. -/
theorem joinGroup_cases (group : String) (request : Numbered) (shares : List Share) :
    (joinGroup group (requestText lane request.1) (shares.map (Share.block lane)) = none ∧
      ∀ share ∈ shares, share.first.1.group ≠ some group) ∨
    ∃ front share back, shares = front ++ share :: back ∧ share.first.1.group = some group ∧
      joinGroup group (requestText lane request.1) (shares.map (Share.block lane)) =
        some ((front ++ share.join request :: back).map (Share.block lane)) := by
  induction shares with
  | nil => exact .inl ⟨rfl, nofun⟩
  | cons share rest ih =>
    rw [List.map_cons, joinGroup]
    by_cases hgroup : share.first.1.group = some group
    · refine .inr ⟨[], share, rest, rfl, hgroup, ?_⟩
      rw [if_pos (show (share.block lane).group = some group from hgroup), ← Share.block_join]
      rfl
    · rw [if_neg (show ¬(share.block lane).group = some group from hgroup)]
      rcases ih with ⟨hnone, hothers⟩ | ⟨front, found, back, rfl, hfound, hjoin⟩
      · refine .inl ⟨by rw [hnone]; rfl, List.forall_mem_cons.2 ⟨hgroup, hothers⟩⟩
      · refine .inr ⟨share :: front, found, back, rfl, hfound, ?_⟩
        rw [hjoin]
        rfl

/-- A request that says nothing changes no block. -/
theorem addRequest_of_blank {request : Request} (blocks : List Block)
    (h : Text.isBlankText (requestText lane request) = true) :
    addRequest lane blocks request = blocks := by
  have hentry : entryText lane request = none := if_pos h
  rw [addRequest, hentry]

/-- A request that says something is dealt out to a block. -/
theorem Dealt.addRequest {ranked : List Numbered} {shares : List Share} {request : Numbered}
    (h : Dealt ranked shares) (hvoiced : Text.isBlankText (requestText lane request.1) = false) :
    ∃ next, addRequest lane (shares.map (Share.block lane)) request.1 =
        next.map (Share.block lane) ∧
      Dealt (ranked ++ [request]) next := by
  have hentry : entryText lane request.1 = some (requestText lane request.1) :=
    (Text.contentful?_eq_some_iff _ _).2 ⟨rfl, hvoiced⟩
  rw [Injection.addRequest, hentry]
  dsimp only
  cases hgroup : request.1.group with
  | none =>
    refine ⟨shares ++ [⟨request, []⟩], ?_, h.opened fun _ _ group hsome => ?_⟩
    · simp [Share.block, Share.members, hgroup]
    · rw [hgroup] at hsome
      cases hsome
  | some group =>
    rcases joinGroup_cases lane group request shares with
      ⟨hnone, hothers⟩ | ⟨front, share, back, rfl, hshare, hjoin⟩
    · refine ⟨shares ++ [⟨request, []⟩], ?_, h.opened fun share hin other hsome => ?_⟩
      · simp [hnone, Share.block, Share.members, hgroup]
      · obtain rfl := Option.some.inj (hgroup.symm.trans hsome)
        exact hothers share hin
    · exact ⟨_, by rw [Option.bind_some, hjoin]; rfl, h.joined hgroup hshare⟩

/-- Requests are dealt out one after the other, those that say nothing left out. -/
theorem Dealt.foldl_addRequest {ranked : List Numbered} {shares : List Share}
    (h : Dealt ranked shares) (requests : List Numbered) :
    ∃ next, (requests.map Prod.fst).foldl (Injection.addRequest lane)
        (shares.map (Share.block lane)) = next.map (Share.block lane) ∧
      Dealt (ranked ++ requests.filter fun request =>
        !Text.isBlankText (requestText lane request.1)) next := by
  induction requests generalizing ranked shares with
  | nil => exact ⟨shares, rfl, by rwa [List.filter_nil, List.append_nil]⟩
  | cons request rest ih =>
    rw [List.map_cons, List.foldl_cons]
    cases hblank : Text.isBlankText (requestText lane request.1) with
    | true =>
      rw [addRequest_of_blank lane _ hblank, List.filter_cons_of_neg (by simp [hblank])]
      exact ih h
    | false =>
      obtain ⟨next, hnext, hdealt⟩ := h.addRequest lane hblank
      obtain ⟨last, hlast, hall⟩ := ih hdealt
      rw [List.append_assoc, List.singleton_append] at hall
      exact ⟨last, hnext ▸ hlast, by rwa [List.filter_cons_of_pos (by simp [hblank])]⟩

end Blocks

section Ranks

variable (id : String) (requests : List Request)

/-- The requests of a lane in the order in which they are served, each with its place. -/
def queue : List Numbered :=
  (requests.zipIdx.filter fun request => request.1.lane == id).mergeSort fun a b =>
    b.1.priority ≤ a.1.priority

/-- Without their places these are the requests that the lane serves. -/
theorem map_fst_queue : (queue id requests).map Prod.fst = served id requests := by
  have hfilter : (requests.zipIdx.filter fun request => request.1.lane == id).map Prod.fst =
      requests.filter fun request => request.lane == id := by
    rw [← Function.comp_def (fun request : Request => request.lane == id) Prod.fst,
      ← List.filter_map, List.zipIdx_map_fst]
  rw [served, ← hfilter]
  exact List.map_mergeSort fun _ _ _ _ => rfl

/-- The places of requests rise. -/
theorem pairwise_zipIdx : requests.zipIdx.Pairwise fun a b => a.2 < b.2 := by
  have hplaces : (requests.zipIdx.map Prod.snd).Pairwise fun a b => a < b := by
    rw [List.zipIdx_map_snd]
    exact List.pairwise_lt_range'
  exact List.pairwise_map.1 hplaces

/-- A lane serves its requests by rank. -/
theorem pairwise_queue : (queue id requests).Pairwise Outranks := by
  have htrans : ∀ a b c : Numbered, decide (b.1.priority ≤ a.1.priority) = true →
      decide (c.1.priority ≤ b.1.priority) = true → decide (c.1.priority ≤ a.1.priority) = true :=
    fun a b c => urgency_trans a.1 b.1 c.1
  have htotal : ∀ a b : Numbered,
      (decide (b.1.priority ≤ a.1.priority) || decide (a.1.priority ≤ b.1.priority)) = true :=
    fun a b => urgency_total a.1 b.1
  refine List.pairwise_iff_forall_sublist.2 fun {a b} hsub => ?_
  have hle : b.1.priority ≤ a.1.priority := of_decide_eq_true
    (List.pairwise_iff_forall_sublist.1 (List.pairwise_mergeSort htrans htotal _) hsub)
  by_cases htied : b.1.priority = a.1.priority
  · -- those of one priority are not sorted, so they are in the order of their places
    have hkind := hsub.filter fun request => request.1.priority == a.1.priority
    rw [queue, filter_mergeSort htrans htotal] at hkind
    · rw [List.filter_eq_self.2 (by simp [htied])] at hkind
      have hplaces := hkind.trans ((List.filter_sublist).trans List.filter_sublist)
      exact .inr ⟨htied.symm,
        List.pairwise_iff_forall_sublist.1 (pairwise_zipIdx requests) hplaces⟩
    · intro first second hfirst hsecond
      rw [eq_of_beq hfirst, eq_of_beq hsecond]
      exact decide_eq_true (Int32.le_refl _)
  · exact .inl (Int32.lt_of_le_of_ne hle htied)

end Ranks

/-- The blocks of a lane deal out its requests that say something, by their ranks. -/
theorem exists_dealt_blocks (lane : Blueprint.Lane) (requests : List Request) :
    ∃ (ranked : List Numbered) (shares : List Share),
      ranked.Perm (requests.zipIdx.filter fun request => request.1.isVoiced lane) ∧
      ranked.Pairwise Outranks ∧ Dealt ranked shares ∧
      blocks lane (served lane.id requests) = shares.map (Share.block lane) := by
  obtain ⟨shares, hblocks, hdealt⟩ := Dealt.nil.foldl_addRequest lane (queue lane.id requests)
  rw [map_fst_queue, List.map_nil] at hblocks
  rw [List.nil_append] at hdealt
  refine ⟨_, shares, ?_, (pairwise_queue lane.id requests).sublist List.filter_sublist, hdealt,
    hblocks⟩
  refine ((List.mergeSort_perm _ _).filter _).trans (.of_eq ?_)
  rw [List.filter_filter]
  exact List.filter_congr fun request _ => Bool.and_comm _ _

section Messages

variable (lane : Blueprint.Lane)

variable {lane} in
/-- The group that a lane finds under a name is the first of its groups with that name. -/
theorem group?_eq_some_iff {id : String} {declared : Blueprint.LaneGroup} :
    lane.group? id = some declared ↔ declared.id = id ∧ ∃ front back,
      lane.groups = front ++ declared :: back ∧ ∀ other ∈ front, other.id ≠ id := by
  rw [Blueprint.Lane.group?, List.find?_eq_some_iff_append]
  simp

variable {lane} in
/-- A lane finds a group under each name that it declares, and under no other. -/
theorem group?_eq_none_iff {id : String} :
    lane.group? id = none ↔ id ∉ lane.groups.map Blueprint.LaneGroup.id := by
  rw [Blueprint.Lane.group?, List.find?_eq_none]
  simp

variable {lane} in
/-- A group that a lane declares is found under its name, if no two of its groups share one. -/
theorem group?_of_mem (hnodup : (lane.groups.map Blueprint.LaneGroup.id).Nodup)
    {declared : Blueprint.LaneGroup} (h : declared ∈ lane.groups) :
    lane.group? declared.id = some declared := by
  obtain ⟨front, back, hgroups⟩ := List.append_of_mem h
  refine group?_eq_some_iff.2 ⟨rfl, front, back, hgroups, fun other hother hsame => ?_⟩
  rw [hgroups, List.map_append, List.map_cons] at hnodup
  have happart := (List.nodup_append.1 hnodup).2.2
  exact happart _ (List.mem_map_of_mem hother) _ List.mem_cons_self hsame

/-- The text of a group on one side of some entries, as a list of lines: the one that the lane
declares for the group, unless it is blank. There is none without a group, for a group that the lane
does not declare, or where it declares no text on that side. -/
def around (side : Blueprint.LaneGroup → Option Leaf) (group : Option String)
    (entries : List String) : List String :=
  let text : Option String := do
    let declared ← lane.group? (← group)
    let leaf ← side declared
    some (leaf.render (Scope.ofContext (groupData lane declared entries)))
  text.toList.filter fun text => !Text.isBlankText text

variable {lane} in
/-- Without a group that the lane declares, there is no text around entries. -/
theorem around_eq_nil {group : Option String} (h : group.bind lane.group? = none)
    (side : Blueprint.LaneGroup → Option Leaf) (entries : List String) :
    around lane side group entries = [] := by
  cases group with
  | none => rfl
  | some id =>
    rw [Option.bind_some] at h
    simp [around, h]

variable {lane} in
/-- Around the entries of a group is what wraps them. -/
theorem around_eq_wrapper {group : Option String} {declared : Blueprint.LaneGroup}
    (h : group.bind lane.group? = some declared) (side : Blueprint.LaneGroup → Option Leaf)
    (entries : List String) : around lane side group entries =
      (wrapper (Scope.ofContext (groupData lane declared entries)) (side declared)).toList := by
  obtain ⟨id, rfl, hid⟩ := Option.bind_eq_some_iff.1 h
  cases hside : side declared with
  | none => simp [around, hid, hside, wrapper]
  | some leaf =>
    cases hblank : Text.isBlankText
      (leaf.render (Scope.ofContext (groupData lane declared entries))) with
    | true => simp [around, hid, hside, wrapper, Text.contentful?, hblank]
    | false => simp [around, hid, hside, wrapper, Text.contentful?, hblank]

variable {lane} in
/-- Around the entries of a group that a lane declares is what wraps them there. -/
theorem around_of_mem (hnodup : (lane.groups.map Blueprint.LaneGroup.id).Nodup)
    {declared : Blueprint.LaneGroup} (h : declared ∈ lane.groups)
    (side : Blueprint.LaneGroup → Option Leaf) (entries : List String) :
    around lane side (some declared.id) entries =
      (wrapper (Scope.ofContext (groupData lane declared entries)) (side declared)).toList := by
  have hfound : (some declared.id).bind lane.group? = some declared := group?_of_mem hnodup h
  exact around_eq_wrapper hfound side entries

variable {lane} in
/-- Around the entries of a group that a lane does not declare is nothing. -/
theorem around_of_not_mem {id : String} (h : id ∉ lane.groups.map Blueprint.LaneGroup.id)
    (side : Blueprint.LaneGroup → Option Leaf) (entries : List String) :
    around lane side (some id) entries = [] := by
  have hmissing : (some id).bind lane.group? = none := group?_eq_none_iff.2 h
  exact around_eq_nil hmissing side entries

/-- A message has the texts of its group around its entries, a line each. -/
theorem compose_eq (group : Option String) (entries : List String) :
    compose lane group entries = "\n".intercalate (around lane Blueprint.LaneGroup.opening group
      entries ++ entries ++ around lane Blueprint.LaneGroup.closing group entries) := by
  rw [compose]
  cases hgroup : group.bind lane.group? with
  | none => simp [around_eq_nil hgroup]
  | some declared => simp [around_eq_wrapper hgroup]

end Messages

/-- The requests of a lane that say something are dealt out to its blocks by rank, each to one, with
the requests of a group in one block; and each block goes where its first request does. What a lane
puts into a prompt are messages of its blocks: of a block the first entries in their order, a line
each, with the text of its group before them and the one behind, each once and unless it is
blank. -/
theorem injectLane_grouped (estimate : Estimator) (requests : List Request) (before : Injected)
    (lane : Blueprint.Lane) :
    ∃ (ranked : List Numbered) (shares : List Share) (admissions : List Admission),
      ranked.Perm (requests.zipIdx.filter fun request => request.1.isVoiced lane) ∧
      ranked.Pairwise Outranks ∧ Dealt ranked shares ∧
      blocks lane (served lane.id requests) = shares.map (Share.block lane) ∧
      Admitted estimate lane (before.ledger.release (laneFloor lane.id))
        (shares.map (Share.block lane)) admissions ∧
      (admissions.map Admission.block).Sublist (shares.map (Share.block lane)) ∧
      (∀ admission ∈ admissions,
        admission.entries ≠ [] ∧ admission.entries <+: admission.block.entries) ∧
      (injectLane estimate requests before lane).placed.Perm
        (before.placed ++ admissions.map fun admission => ⟨Message.of lane.role ("\n".intercalate
          (around lane Blueprint.LaneGroup.opening admission.block.group admission.entries ++
            admission.entries ++ around lane Blueprint.LaneGroup.closing admission.block.group
              admission.entries)), none⟩) := by
  obtain ⟨ranked, shares, hperm, hranked, hdealt, hblocks⟩ := exists_dealt_blocks lane requests
  obtain ⟨run, exhausted, rfl, hadmitted, hinject⟩ := injectLane_eq estimate requests before lane
  rw [hblocks] at hadmitted
  refine ⟨ranked, shares, run.admissions, hperm, hranked, hdealt, hblocks, hadmitted,
    hadmitted.block_sublist, hadmitted.entries_prefix, ?_⟩
  simp only [← compose_eq]
  rw [hinject]
  refine (weave_perm _ _).trans (.of_eq ?_)
  rw [List.map_map]
  rfl

end ChatPrompt.Injection

namespace ChatPrompt.Sample

open Injection Render

/-- A lane that makes a message of each payload, with text around those of one group. -/
def wrapping : Blueprint.Lane :=
  { echo "lore" true with groups := [⟨"g", some ⟨"<", [.text "<"]⟩, some ⟨" ", [.text " "]⟩⟩] }

/-- Requests of that group, and one of none between them. -/
def wrappedRequests : List Request :=
  [⟨"lore", [.boundary .top 0], .string "x", 0, some "g"⟩, ⟨"lore", [], .string "s", 0, none⟩,
    ⟨"lore", [.boundary .top 0], .string " ", 1, some "g"⟩,
    ⟨"lore", [], .string "y", 0, some "g"⟩]

/-- A prompt of one message, with room for nine tokens. -/
def unwrapped : Injected := ⟨[⟨Message.of .user "m", none⟩], .ofCapacity 9, [], []⟩

end ChatPrompt.Sample

namespace ChatPrompt.Injection

open Sample

/-- The lane declares the group, which has one message with the text before it, in the place of its
first request, and no blank line at its end; the request that says nothing is left out. A group that
the lane does not declare would have nothing around it. -/
theorem injectLane_grouped_wrapping :
    (∀ entries, around wrapping Blueprint.LaneGroup.opening (some "g") entries = ["<"]) ∧
      (∀ entries, around wrapping Blueprint.LaneGroup.closing (some "g") entries = []) ∧
      (∀ side entries, around wrapping side (some "h") entries = []) ∧
      (∃ (shares : List Share) (admissions : List Admission),
        blocks wrapping (served wrapping.id wrappedRequests) = shares.map (Share.block wrapping) ∧
        (injectLane Estimator.characters wrappedRequests unwrapped wrapping).placed.Perm
          (unwrapped.placed ++ admissions.map fun admission =>
            ⟨Message.of wrapping.role ("\n".intercalate
              (around wrapping Blueprint.LaneGroup.opening admission.block.group admission.entries ++
                admission.entries ++ around wrapping Blueprint.LaneGroup.closing
                  admission.block.group admission.entries)), none⟩)) ∧
      (injectLane Estimator.characters wrappedRequests unwrapped wrapping).placed.map
        (fun placed => placed.message.content) = ["<\nx\ny", "m", "s"] := by
  have hnodup : (wrapping.groups.map Blueprint.LaneGroup.id).Nodup := by decide
  have hdeclared := around_of_mem hnodup (List.mem_singleton.2 rfl)
  obtain ⟨ranked, shares, admissions, -, -, -, hblocks, -, -, -, hplaced⟩ :=
    injectLane_grouped Estimator.characters wrappedRequests unwrapped wrapping
  refine ⟨fun entries => ?_, fun entries => ?_, around_of_not_mem (by decide),
    ⟨shares, admissions, hblocks, hplaced⟩, by cbv⟩
  · refine (hdeclared Blueprint.LaneGroup.opening entries).trans ?_
    cbv
  · refine (hdeclared Blueprint.LaneGroup.closing entries).trans ?_
    cbv

end ChatPrompt.Injection
