import ChatPrompt.Proofs.Ceiling
import ChatPrompt.Proofs.Releases

/-!
# What is held while slots are filled

While slots are filled, a ledger holds what the texts of the layout cost that can still go in, and
behind that the reserves of the lanes, which nothing touches before the lanes are injected. A slot
that turns out empty takes its header and footer away; when the layout is put together, the other
texts go, and only the reserves of the lanes are left. Lanes may share a name here, and with it what
is set aside for them.
-/

namespace ChatPrompt

/-- A floor that is there after an amount was added has its key, or a key that was there. -/
theorem Ledger.key_mem_of_mem_addFloor {key : String} {tokens : Tokens}
    {floors : List (String × Tokens)} {floor : String × Tokens}
    (h : floor ∈ addFloor key tokens floors) : floor.1 = key ∨ floor.1 ∈ floors.map Prod.fst := by
  induction floors with
  | nil =>
    rw [List.mem_singleton.1 h]
    exact .inl rfl
  | cons first rest ih =>
    obtain ⟨found, held⟩ := first
    rw [addFloor] at h
    split at h
    · next heq =>
      rcases List.mem_cons.1 h with rfl | hrest
      · exact .inl heq
      · exact .inr (List.mem_cons_of_mem _ (List.mem_map_of_mem hrest))
    · rcases List.mem_cons.1 h with rfl | hrest
      · exact .inr List.mem_cons_self
      · exact (ih hrest).imp_right (List.mem_cons_of_mem _)

namespace Render

/-- Reserves of lanes do not touch what is set aside under other keys in front of them. -/
theorem floors_foldl_reserveLane_append {own : List (String × Tokens)}
    (hown : ∀ id, Injection.laneFloor id ∉ own.map Prod.fst) (lanes : List Blueprint.Lane)
    {ledger other : Ledger} (h : ledger.floors = own ++ other.floors) :
    (lanes.foldl reserveLane ledger).floors = own ++ (lanes.foldl reserveLane other).floors := by
  induction lanes generalizing ledger other with
  | nil => exact h
  | cons lane rest ih =>
    refine ih ?_
    rw [reserveLane, reserveLane]
    cases lane.reserve with
    | none => exact h
    | some amount =>
      dsimp only
      split
      · exact h
      · rw [Ledger.reserve, Ledger.reserve, h]
        exact Ledger.addFloor_append (hown lane.id) amount other.floors

/-- Lanes set aside under their own keys only. -/
theorem key_foldl_reserveLane (lanes : List Blueprint.Lane) {ledger : Ledger}
    (h : ∀ floor ∈ ledger.floors, ∃ id, floor.1 = Injection.laneFloor id) :
    ∀ floor ∈ (lanes.foldl reserveLane ledger).floors, ∃ id, floor.1 = Injection.laneFloor id := by
  induction lanes generalizing ledger with
  | nil => exact h
  | cons lane rest ih =>
    refine ih fun floor hfloor => ?_
    rw [reserveLane] at hfloor
    cases hreserve : lane.reserve with
    | none =>
      rw [hreserve] at hfloor
      exact h floor hfloor
    | some amount =>
      rw [hreserve] at hfloor
      dsimp only at hfloor
      split at hfloor
      · exact h floor hfloor
      · rcases Ledger.key_mem_of_mem_addFloor hfloor with hkey | hkey
        · exact ⟨lane.id, hkey⟩
        · obtain ⟨other, hother, heq⟩ := List.mem_map.1 hkey
          obtain ⟨id, hid⟩ := h other hother
          exact ⟨id, heq.symm.trans hid⟩

/-- Giving up texts leaves alone what is set aside under other keys behind them. -/
theorem floors_foldl_releaseText_append {reserves : List (String × Tokens)} (texts : List HeldText)
    (hreserves : ∀ held ∈ texts, held.floor ∉ reserves.map Prod.fst) {ledger other : Ledger}
    (h : ledger.floors = other.floors ++ reserves) :
    (texts.foldl releaseText ledger).floors =
      (texts.foldl releaseText other).floors ++ reserves := by
  induction texts generalizing ledger other with
  | nil => exact h
  | cons held rest ih =>
    obtain ⟨hfirst, hrest⟩ := List.forall_mem_cons.1 hreserves
    refine ih hrest ?_
    have hall : reserves.filter (fun floor => floor.1 != held.floor) = reserves := by
      rw [List.filter_eq_self]
      intro floor hfloor
      have hne : floor.1 ≠ held.floor := fun heq => hfirst (heq ▸ List.mem_map_of_mem hfloor)
      simpa using hne
    rw [releaseText, releaseText, Ledger.release, Ledger.release, h, List.filter_append, hall]

variable (env : Environment)

/-- A ledger holds what some texts cost, in any order, and behind that certain reserves. -/
def Holds (reserves : List (String × Tokens)) (ledger : Ledger) (texts : List HeldText) : Prop :=
  ∃ own, ledger.floors = own ++ reserves ∧ own.Perm (texts.map (floorOf env))

variable {env} {reserves : List (String × Tokens)} {ledger : Ledger} {texts : List HeldText}

/-- What is set aside is what the texts cost, and the reserves. -/
theorem Holds.floorTotal_eq (h : Holds env reserves ledger texts) :
    ledger.floorTotal =
      (texts.map fun held => env.estimate held.text).sum + (reserves.map Prod.snd).sum := by
  obtain ⟨own, hfloors, hperm⟩ := h
  have hsum := (hperm.map Prod.snd).sum_eq
  rw [List.map_map] at hsum
  rw [Ledger.floorTotal, Tokens.total_eq_sum, hfloors, List.map_append, List.sum_append, hsum]
  rfl

/-- Where texts are given up, what the others cost is still held. -/
theorem Holds.release (h : Holds env reserves ledger texts) {gone rest : List HeldText}
    (hperm : texts.Perm (gone ++ rest)) (hnodup : (texts.map HeldText.floor).Nodup)
    (hreserves : ∀ held ∈ gone, held.floor ∉ reserves.map Prod.fst) :
    Holds env reserves (gone.foldl releaseText ledger) rest := by
  obtain ⟨own, hfloors, hown⟩ := h
  have hsplit := hown.trans (hperm.map (floorOf env))
  have hkeys := (hperm.map HeldText.floor).nodup_iff.1 hnodup
  rw [List.map_append] at hsplit
  rw [← keys_floorOf env, List.map_append] at hkeys
  refine ⟨(gone.foldl releaseText { ledger with floors := own }).floors, ?_, ?_⟩
  · exact floors_foldl_releaseText_append gone hreserves hfloors
  · exact floors_foldl_releaseText env gone hsplit hkeys

namespace Setup

variable (setup : Setup)

/-- What is set aside for the lanes. -/
def laneFloors : List (String × Tokens) :=
  ((setup.lanes.filter Blueprint.Lane.enabled).foldl reserveLane (Ledger.ofCapacity 0)).floors

/-- No text of the layout has the key of a lane. -/
theorem floor_ne_laneFloor {held : HeldText} (hheld : held ∈ setup.texts) (id : String) :
    held.floor ≠ Injection.laneFloor id := by
  intro heq
  have hkey : setup.isTextKey (Injection.laneFloor id) = true :=
    List.any_eq_true.2 ⟨held, hheld, beq_iff_eq.2 heq⟩
  rw [setup.isTextKey_laneFloor] at hkey
  cases hkey

/-- Nothing is set aside for the lanes under the key of a text. -/
theorem floor_notMem_laneFloors {held : HeldText} (hheld : held ∈ setup.texts) :
    held.floor ∉ setup.laneFloors.map Prod.fst := by
  intro hin
  obtain ⟨floor, hfloor, heq⟩ := List.mem_map.1 hin
  obtain ⟨id, hid⟩ := key_foldl_reserveLane _ (by simp [Ledger.ofCapacity]) floor hfloor
  exact setup.floor_ne_laneFloor hheld id (heq.symm.trans hid)

/-- At first what all texts cost is held. -/
theorem holds_reserved : Holds setup.env setup.laneFloors setup.reserved setup.texts := by
  have hnone : (Ledger.ofCapacity setup.capacity).floors = [] := rfl
  have hkeys : (((Ledger.ofCapacity setup.capacity).floors ++
      setup.texts.map (floorOf setup.env)).map Prod.fst).Nodup := by
    rw [hnone, List.nil_append, keys_floorOf]
    exact setup.nodup_floors
  have htexts := floors_foldl_reserveText setup.env setup.texts hkeys
  have hown : ∀ id,
      Injection.laneFloor id ∉ (setup.texts.map (floorOf setup.env)).map Prod.fst := by
    intro id hin
    rw [keys_floorOf] at hin
    obtain ⟨held, hheld, heq⟩ := List.mem_map.1 hin
    exact setup.floor_ne_laneFloor hheld id heq
  refine ⟨_, floors_foldl_reserveLane_append hown _ ?_, List.Perm.refl _⟩
  rw [htexts, hnone]
  exact (List.append_nil _).symm

/-- Whether the slot of a number is among some slots and turned out empty. -/
def isGone (before : List Nat) (number : Nat) : Bool :=
  before.contains number && (setup.fill number).isEmpty

end Setup

/-- An element shows all of its texts where no slot is empty. -/
theorem shown_of_not_empty (node : PreparedNode) : node.shown (fun _ => false) = node.texts := by
  cases node <;> simp [PreparedNode.shown, PreparedNode.texts]

/-- An element shows its frames until its slot is gone. -/
theorem shown_eq_append {isEmpty isEmpty' : Nat → Bool} {number : Nat}
    (hbefore : isEmpty number = false) (hgone : isEmpty' number = true)
    (hothers : ∀ other, other ≠ number → isEmpty' other = isEmpty other) (node : PreparedNode) :
    node.shown isEmpty = node.frames number ++ node.shown isEmpty' := by
  cases node with
  | message held openEnded anchor => rfl
  | omitted => rfl
  | slot name found omitIfEmpty header footer =>
    by_cases heq : found = number
    · subst heq
      cases omitIfEmpty <;> simp [PreparedNode.shown, PreparedNode.frames, hbefore, hgone]
    · simp [PreparedNode.shown, PreparedNode.frames, heq, hothers found heq]

namespace Setup

variable (setup : Setup)

/-- A slot more is gone if it is empty. -/
theorem isGone_snoc (before : List Nat) (number other : Nat) :
    setup.isGone (before ++ [number]) other =
      (setup.isGone before other || (other == number && (setup.fill other).isEmpty)) := by
  simp only [isGone, List.contains_append, List.contains_cons, List.contains_nil, Bool.or_false,
    Bool.and_or_distrib_right]

/-- No other slot is gone after one that is not empty. -/
theorem isGone_snoc_of_not_isEmpty {number : Nat} (h : ¬ (setup.fill number).isEmpty = true)
    (before : List Nat) : setup.isGone (before ++ [number]) = setup.isGone before := by
  funext other
  rw [isGone_snoc]
  by_cases heq : other = number
  · simp [heq, h]
  · simp [heq]

/-- Where a slot more is gone, the texts that were shown are its frames and those that still
are. -/
theorem shown_isGone_perm {before : List Nat} {number : Nat} (hfresh : number ∉ before)
    (hempty : (setup.fill number).isEmpty = true) :
    (setup.nodes.flatMap (PreparedNode.shown (setup.isGone before))).Perm
      (setup.nodes.flatMap (PreparedNode.frames number) ++
        setup.nodes.flatMap (PreparedNode.shown (setup.isGone (before ++ [number])))) := by
  have hnew : setup.isGone before number = false := by simp [isGone, hfresh]
  have hgone : setup.isGone (before ++ [number]) number = true := by
    simp [isGone_snoc, hempty]
  have hothers : ∀ other, other ≠ number →
      setup.isGone (before ++ [number]) other = setup.isGone before other := by
    intro other hne
    simp [isGone_snoc, hne]
  rw [List.flatMap_congr fun node _ => shown_eq_append hnew hgone hothers node]
  exact (List.flatMap_append_perm _ _ _).symm

/-- The texts that are shown are some of those of the layout. -/
theorem shown_sublist_texts (isEmpty : Nat → Bool) :
    (setup.nodes.flatMap (PreparedNode.shown isEmpty)).Sublist setup.texts :=
  List.Sublist.flatMap_right setup.nodes fun node _ => shown_sublist isEmpty node

variable (h : setup.blueprint.IsLaidOut)

include h

/-- After one slot more, what the texts cost is held but for its frames if it is empty. -/
theorem holds_filledUpTo_snoc {before after : List Nat} {number : Nat}
    (horder : setup.blueprint.order = before ++ number :: after)
    (hbefore : Holds setup.env setup.laneFloors (setup.filledUpTo before).2
      (setup.nodes.flatMap (PreparedNode.shown (setup.isGone before)))) :
    Holds setup.env setup.laneFloors (setup.filledUpTo (before ++ [number])).2
      (setup.nodes.flatMap (PreparedNode.shown (setup.isGone (before ++ [number])))) := by
  have hin : number ∈ setup.blueprint.order := by simp [horder]
  obtain ⟨slot, hslot⟩ : ∃ slot, setup.blueprint.slots[number]? = some slot :=
    ⟨_, List.getElem?_eq_getElem (setup.lt_of_mem_order h number hin)⟩
  have hnumbers : (setup.prepared.nodes.filterMap PreparedNode.number?).Nodup :=
    setup.numbers_nodes h ▸ List.nodup_range
  rw [Holds, ← floors_fillSlot setup.env slot] at hbefore
  rw [setup.filledUpTo_snoc hslot, afterSlot, ← setup.fill_eq h horder hslot]
  split
  · next hempty =>
    -- the slot was not gone before, since no slot is filled twice
    have hnodup := h.nodup_order
    rw [horder] at hnodup
    have hfresh : number ∉ before := fun hmem =>
      (List.nodup_append.1 hnodup).2.2 number hmem number List.mem_cons_self rfl
    have hsplit := setup.shown_isGone_perm hfresh hempty
    rw [omittedTexts_eq number hnumbers]
    have hsublist := setup.shown_sublist_texts (setup.isGone before)
    refine Holds.release hbefore hsplit ((hsublist.map _).nodup setup.nodup_floors) ?_
    intro held hheld
    have hshown := hsplit.mem_iff.2 (List.mem_append_left _ hheld)
    exact setup.floor_notMem_laneFloors (hsublist.subset hshown)
  · next hempty =>
    rw [setup.isGone_snoc_of_not_isEmpty hempty]
    exact hbefore

/-- After some slots, what the texts cost is held but for the frames of those that are empty. -/
theorem holds_filledUpTo {before after : List Nat}
    (horder : setup.blueprint.order = before ++ after) :
    Holds setup.env setup.laneFloors (setup.filledUpTo before).2
      (setup.nodes.flatMap (PreparedNode.shown (setup.isGone before))) := by
  induction before using List.reverseRecOn generalizing after with
  | nil =>
    have hall : setup.nodes.flatMap (PreparedNode.shown (setup.isGone [])) = setup.texts :=
      List.flatMap_congr fun node _ => shown_of_not_empty node
    rw [hall]
    exact setup.holds_reserved
  | append_singleton before number ih =>
    rw [List.append_assoc] at horder
    exact setup.holds_filledUpTo_snoc h horder (ih horder)

/-- When the layout is put together, only the reserves of the lanes are left. -/
theorem floors_assembledUpTo_nodes :
    (setup.assembledUpTo setup.nodes).floors = setup.laneFloors := by
  have hfilled := setup.holds_filledUpTo h (List.append_nil _).symm
  have hshown : setup.nodes.flatMap (PreparedNode.shown (setup.isGone setup.blueprint.order)) =
      setup.shownBy setup.nodes := by
    refine List.flatMap_congr fun node hnode => ?_
    cases node with
    | message held openEnded anchor => rfl
    | omitted => rfl
    | slot name number omitIfEmpty header footer =>
      have hnumber : number ∈ setup.blueprint.order :=
        setup.mem_order_of_mem_nodes h (List.mem_filterMap.2 ⟨_, hnode, rfl⟩)
      simp [PreparedNode.shown, isGone, hnumber]
  rw [hshown] at hfilled
  have hsublist := setup.shownBy_sublist setup.nodes
  have hall : (setup.shownBy setup.nodes).Perm (setup.shownBy setup.nodes ++ []) := by
    rw [List.append_nil]
  obtain ⟨own, hfloors, hown⟩ := hfilled.release hall ((hsublist.map _).nodup setup.nodup_floors)
    fun held hheld => setup.floor_notMem_laneFloors (hsublist.subset hheld)
  rw [List.map_nil, List.perm_nil] at hown
  rw [assembledUpTo, floors_foldl_settleText setup.env _ rfl]
  rw [hown, List.nil_append] at hfloors
  exact hfloors

end Setup

end Render

end ChatPrompt
