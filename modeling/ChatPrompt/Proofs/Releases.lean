import ChatPrompt.Proofs.Floors
import ChatPrompt.Proofs.Lanes
import Mathlib.Data.List.Flatten
import Mathlib.Data.List.Induction
import Mathlib.Data.List.Perm.Basic

/-!
# Everything that is set aside is given up once

What is set aside at first stands under keys that are all different. From then on floors only
go, and each goes at one moment: what belongs to the frame of a slot that is left out goes right
after the slot, what belongs to a text that is placed goes with the text, and what belongs to a
lane goes when the lane is injected. The floors that are ahead are listed in the order in which
they go; each step takes the first of them away, and in the end the list is empty.
-/

namespace ChatPrompt

namespace Ledger

/-- The floors of one ledger are some floors and those of another ledger. -/
def Removes (before : Ledger) (floors : List (String × Tokens)) (after : Ledger) : Prop :=
  before.floors.Perm (floors ++ after.floors)

/-- An amount under a key that some floors do not have comes behind them. -/
theorem addFloor_append {key : String} {floors : List (String × Tokens)}
    (hfresh : key ∉ floors.map Prod.fst) (tokens : Tokens) (rest : List (String × Tokens)) :
    addFloor key tokens (floors ++ rest) = floors ++ addFloor key tokens rest := by
  induction floors with
  | nil => rfl
  | cons floor others ih =>
    obtain ⟨found, held⟩ := floor
    rw [List.map_cons, List.mem_cons, not_or] at hfresh
    rw [List.cons_append, addFloor, if_neg (Ne.symm hfresh.1), ih hfresh.2, List.cons_append]

/-- A key that is not there yet comes last. -/
theorem addFloor_eq {key : String} {floors : List (String × Tokens)}
    (hfresh : key ∉ floors.map Prod.fst) (tokens : Tokens) :
    addFloor key tokens floors = floors ++ [(key, tokens)] := by
  have hlast := addFloor_append hfresh tokens []
  rwa [List.append_nil] at hlast

/-- Giving a key up takes away the floors that have it and leaves those that do not. -/
theorem floors_release_perm {ledger : Ledger} {key : String}
    {own rest : List (String × Tokens)} (hfloors : ledger.floors.Perm (own ++ rest))
    (hown : ∀ floor ∈ own, floor.1 = key) (hrest : ∀ floor ∈ rest, floor.1 ≠ key) :
    (ledger.release key).floors.Perm rest := by
  have hfiltered := hfloors.filter fun floor => floor.1 != key
  have hnone : (own.filter fun floor => floor.1 != key) = [] := by
    rw [List.filter_eq_nil_iff]
    intro floor hfloor
    simp [hown floor hfloor]
  have hall : (rest.filter fun floor => floor.1 != key) = rest := by
    rw [List.filter_eq_self]
    intro floor hfloor
    simpa using hrest floor hfloor
  rwa [List.filter_append, hnone, hall, List.nil_append] at hfiltered

end Ledger

namespace Injection

/-- What is set aside for a lane. -/
def floorsOf (lane : Blueprint.Lane) : List (String × Tokens) :=
  match lane.reserve with
  | none => []
  | some amount => if amount = 0 then [] else [(laneFloor lane.id, amount)]

/-- What is set aside for a lane is its reserve. -/
theorem sum_floorsOf (lane : Blueprint.Lane) :
    ((floorsOf lane).map fun floor => floor.2.toNat).sum = (lane.reserve.getD 0).toNat := by
  rw [floorsOf]
  cases lane.reserve with
  | none => rfl
  | some amount =>
    dsimp only
    split
    · next hzero =>
      rw [hzero]
      rfl
    · simp

/-- Lanes with one key have one name. -/
theorem laneFloor_inj {id other : String} (h : laneFloor id = laneFloor other) : id = other := by
  rw [laneFloor, laneFloor, String.append_right_inj] at h
  exact h

/-- The lanes in their order are those that are used. -/
theorem lanesInOrder_perm (lanes : List Blueprint.Lane) :
    (lanesInOrder lanes).Perm (lanes.filter Blueprint.Lane.enabled) :=
  List.mergeSort_perm _ _

end Injection

namespace Render

/-- The header and footer of a place for the slot of a number, if they go where it is empty. -/
def PreparedNode.frames (number : Nat) : PreparedNode → List HeldText
  | .message _ _ _ => []
  | .omitted => []
  | .slot _ found omitIfEmpty header footer =>
    if found = number ∧ omitIfEmpty then header.toList ++ footer.toList else []

/-- What is set aside for a lane stands under the key of the lane. -/
theorem key_floorsOf {lane : Blueprint.Lane} {floor : String × Tokens}
    (h : floor ∈ Injection.floorsOf lane) : floor.1 = Injection.laneFloor lane.id := by
  rw [Injection.floorsOf] at h
  split at h
  · cases h
  · split at h
    · cases h
    · rw [List.mem_singleton.1 h]

/-- Lanes of different names have different keys. -/
theorem nodup_floorsOf {lanes : List Blueprint.Lane}
    (h : (lanes.map Blueprint.Lane.id).Nodup) :
    ((lanes.flatMap Injection.floorsOf).map Prod.fst).Nodup := by
  induction lanes with
  | nil => exact List.nodup_nil
  | cons lane rest ih =>
    obtain ⟨hfresh, hnodup⟩ := List.nodup_cons.1 h
    have hone : ((Injection.floorsOf lane).map Prod.fst).Nodup := by
      rw [Injection.floorsOf]
      split
      · exact List.nodup_nil
      · split
        · exact List.nodup_nil
        · exact List.nodup_singleton _
    rw [List.flatMap_cons, List.map_append, List.nodup_append]
    refine ⟨hone, ih hnodup, ?_⟩
    intro key hkey other hother heq
    obtain ⟨floor, hfloor, rfl⟩ := List.mem_map.1 hkey
    obtain ⟨later, hlater, rfl⟩ := List.mem_map.1 hother
    obtain ⟨next, hnext, hin⟩ := List.mem_flatMap.1 hlater
    rw [key_floorsOf hfloor, key_floorsOf hin] at heq
    exact hfresh (Injection.laneFloor_inj heq ▸ List.mem_map_of_mem hnext)

/-- Reserves of lanes come behind what is set aside, if their keys are new. -/
theorem floors_foldl_reserveLane (lanes : List Blueprint.Lane) {ledger : Ledger}
    (h : ((ledger.floors ++ lanes.flatMap Injection.floorsOf).map Prod.fst).Nodup) :
    (lanes.foldl reserveLane ledger).floors =
      ledger.floors ++ lanes.flatMap Injection.floorsOf := by
  induction lanes generalizing ledger with
  | nil => simp
  | cons lane rest ih =>
    rw [List.flatMap_cons, ← List.append_assoc] at h ⊢
    have hlane : (reserveLane ledger lane).floors =
        ledger.floors ++ Injection.floorsOf lane := by
      rw [List.map_append] at h
      have hown := (List.nodup_append.1 h).1
      rw [reserveLane, Injection.floorsOf] at *
      cases hamount : lane.reserve with
      | none => simp
      | some amount =>
        rw [hamount] at hown
        dsimp only at hown ⊢
        by_cases hzero : amount = 0
        · rw [if_pos hzero, if_pos hzero, List.append_nil]
        · rw [if_neg hzero, if_neg hzero]
          rw [if_neg hzero, List.map_append, List.nodup_append] at hown
          refine Ledger.addFloor_eq (fun hin => ?_) amount
          exact hown.2.2 _ hin _ List.mem_cons_self rfl
    rw [List.foldl_cons, ih (by rw [hlane]; exact h), hlane]

variable (env : Environment)

/-- What is set aside for a text. -/
def floorOf (held : HeldText) : String × Tokens := (held.floor, env.estimate held.text)

/-- The keys of what is set aside for texts are those of the texts. -/
theorem keys_floorOf (texts : List HeldText) :
    (texts.map (floorOf env)).map Prod.fst = texts.map HeldText.floor := by
  rw [List.map_map]
  rfl

/-- What is set aside for texts comes behind what there is, if the keys are new. -/
theorem floors_foldl_reserveText (texts : List HeldText) {ledger : Ledger}
    (h : ((ledger.floors ++ texts.map (floorOf env)).map Prod.fst).Nodup) :
    (texts.foldl (reserveText env) ledger).floors =
      ledger.floors ++ texts.map (floorOf env) := by
  induction texts generalizing ledger with
  | nil => simp
  | cons held rest ih =>
    have hfresh : held.floor ∉ ledger.floors.map Prod.fst := by
      intro hin
      rw [List.map_append, List.nodup_append] at h
      exact h.2.2 _ hin _ List.mem_cons_self rfl
    have hheld : (reserveText env ledger held).floors =
        ledger.floors ++ [floorOf env held] := Ledger.addFloor_eq hfresh _
    rw [List.map_cons, List.append_cons] at h ⊢
    rw [List.foldl_cons, ih (by rw [hheld]; exact h), hheld]

/-- Giving texts up takes away what is set aside for them. -/
theorem floors_foldl_releaseText (texts : List HeldText) {ledger : Ledger}
    {rest : List (String × Tokens)}
    (hfloors : ledger.floors.Perm (texts.map (floorOf env) ++ rest))
    (hnodup : ((texts.map (floorOf env) ++ rest).map Prod.fst).Nodup) :
    (texts.foldl releaseText ledger).floors.Perm rest := by
  induction texts generalizing ledger with
  | nil => exact hfloors
  | cons held others ih =>
    obtain ⟨hfresh, hnodup⟩ := List.nodup_cons.1 hnodup
    have hown : ∀ floor ∈ [floorOf env held], floor.1 = held.floor := by
      intro floor hfloor
      rw [List.mem_singleton.1 hfloor]
      rfl
    have hrest : ∀ floor ∈ others.map (floorOf env) ++ rest, floor.1 ≠ held.floor :=
      fun floor hfloor heq => hfresh (List.mem_map.2 ⟨floor, hfloor, heq⟩)
    exact ih (Ledger.floors_release_perm hfloors hown hrest) hnodup

/-- Spending texts takes away the same floors as giving them up. -/
theorem floors_foldl_settleText (texts : List HeldText) {ledger other : Ledger}
    (h : ledger.floors = other.floors) :
    (texts.foldl (settleText env) ledger).floors = (texts.foldl releaseText other).floors := by
  induction texts generalizing ledger other with
  | nil => exact h
  | cons held rest ih => exact ih (congrArg (List.filter _) h)

/-- Filling a slot leaves what is set aside alone. -/
theorem floors_fillSlot (slot : Blueprint.Slot) (ledger : Ledger) :
    (fillSlot env slot ledger).2.floors = ledger.floors := by
  rw [(fillSlot_charges env slot ledger).1]
  rfl

theorem fillSlots_append (blueprint : Blueprint) (prepared : PreparedLayout)
    (order others : List Nat) (ledger : Ledger) :
    fillSlots env blueprint prepared (order ++ others) ledger =
      ((fillSlots env blueprint prepared order ledger).1 ++
          (fillSlots env blueprint prepared others
            (fillSlots env blueprint prepared order ledger).2).1,
        (fillSlots env blueprint prepared others
          (fillSlots env blueprint prepared order ledger).2).2) := by
  induction order generalizing ledger with
  | nil => rfl
  | cons number rest ih =>
    rw [List.cons_append]
    cases hslot : blueprint.slots[number]? with
    | none => rw [fillSlots_cons_of_none env hslot, ih, fillSlots_cons_of_none env hslot]
    | some slot =>
      rw [fillSlots_cons env hslot, ih, fillSlots_cons env hslot]
      rfl

/-- A place for another slot has no frames to go. -/
theorem frames_eq_nil {node : PreparedNode} {number : Nat} (h : node.number? ≠ some number) :
    node.frames number = [] := by
  cases node with
  | message held openEnded anchor => rfl
  | omitted => rfl
  | slot name found omitIfEmpty header footer =>
    exact if_neg fun hboth => h (congrArg some hboth.1)

/-- What goes around an empty slot is the frames of its places, where places have different
numbers. -/
theorem omittedTexts_eq {nodes : List PreparedNode} (number : Nat)
    (hnodup : (nodes.filterMap PreparedNode.number?).Nodup) :
    omittedTexts number nodes = nodes.flatMap (PreparedNode.frames number) := by
  induction nodes with
  | nil => rfl
  | cons node rest ih =>
    cases node with
    | message held openEnded anchor => exact ih hnodup
    | omitted => exact ih hnodup
    | slot name found omitIfEmpty header footer =>
      obtain ⟨hfresh, hnodup⟩ := List.nodup_cons.1 hnodup
      have hrest := ih hnodup
      rw [List.flatMap_cons, PreparedNode.frames]
      cases omitIfEmpty with
      | false =>
        rw [if_neg fun hboth => Bool.false_ne_true hboth.2]
        exact hrest
      | true =>
        rw [omittedTexts]
        by_cases hfound : found = number
        · have hnone : rest.flatMap (PreparedNode.frames number) = [] := by
            rw [List.flatMap_eq_nil_iff]
            intro other hother
            refine frames_eq_nil fun hnumber => hfresh ?_
            exact List.mem_filterMap.2 ⟨other, hother, hfound ▸ hnumber⟩
          rw [if_pos hfound, if_pos ⟨hfound, rfl⟩, hnone, List.append_nil]
        · rw [if_neg hfound, if_neg fun hboth => hfound hboth.1]
          exact hrest

/-- Over an order of all slots, the texts of an element are the frames that go where its slot
is empty, and those that are shown. -/
theorem frames_append_shown_perm (isEmpty : Nat → Bool) {order : List Nat} (hnodup : order.Nodup)
    {node : PreparedNode} (hnumber : ∀ number, node.number? = some number → number ∈ order) :
    (order.flatMap (fun number => if isEmpty number then node.frames number else []) ++
      node.shown isEmpty).Perm node.texts := by
  have hother : ∀ others : List Nat, (∀ number ∈ others, node.number? ≠ some number) →
      others.flatMap (fun number => if isEmpty number then node.frames number else []) = [] := by
    intro others hne
    rw [List.flatMap_eq_nil_iff]
    intro number hin
    rw [frames_eq_nil (hne number hin), ite_self]
  cases node with
  | message held openEnded anchor =>
    rw [hother order fun _ _ => (Option.some_ne_none _).symm]
    exact List.Perm.refl _
  | omitted =>
    rw [hother order fun _ _ => (Option.some_ne_none _).symm]
    exact List.Perm.refl _
  | slot name found omitIfEmpty header footer =>
    -- only the turn of the slot itself gives anything
    have hturn := (List.perm_cons_erase (hnumber found rfl)).flatMap_right fun number =>
      if isEmpty number then (PreparedNode.slot name found omitIfEmpty header footer).frames number
      else []
    rw [List.flatMap_cons, hother (order.erase found), List.append_nil] at hturn
    · refine (hturn.append_right _).trans ?_
      simp only [PreparedNode.frames, PreparedNode.shown, PreparedNode.texts]
      cases isEmpty found <;> cases omitIfEmpty <;> simp
    · intro number hin heq
      have hsame : found = number := Option.some.inj heq
      exact hnodup.not_mem_erase (hsame ▸ hin)

/-- Over an order of all slots, the texts of a layout are the frames that go where slots are
empty, and those that are shown. -/
theorem texts_perm (isEmpty : Nat → Bool) {order : List Nat} (hnodup : order.Nodup)
    {nodes : List PreparedNode}
    (hnumbers : ∀ number ∈ nodes.filterMap PreparedNode.number?, number ∈ order) :
    (order.flatMap (fun number =>
        if isEmpty number then nodes.flatMap (PreparedNode.frames number) else []) ++
      nodes.flatMap (PreparedNode.shown isEmpty)).Perm (nodes.flatMap PreparedNode.texts) := by
  induction nodes with
  | nil =>
    have hnone : order.flatMap (fun number => if isEmpty number then
        ([] : List PreparedNode).flatMap (PreparedNode.frames number) else []) = [] := by
      rw [List.flatMap_eq_nil_iff]
      exact fun number _ => ite_self []
    rw [hnone]
    exact List.Perm.refl _
  | cons node rest ih =>
    have hin : ∀ number, node.number? = some number → number ∈ order := fun number heq =>
      hnumbers number (List.mem_filterMap.2 ⟨node, List.mem_cons_self, heq⟩)
    have hnode := frames_append_shown_perm isEmpty hnodup hin
    have hrest := ih fun number hin => by
      obtain ⟨other, hother, heq⟩ := List.mem_filterMap.1 hin
      exact hnumbers number (List.mem_filterMap.2 ⟨other, List.mem_cons_of_mem node hother, heq⟩)
    have hsplit := List.flatMap_append_perm order
      (fun number => if isEmpty number then node.frames number else [])
      (fun number => if isEmpty number then rest.flatMap (PreparedNode.frames number) else [])
    have hjoin : (fun number => (if isEmpty number then node.frames number else []) ++
        if isEmpty number then rest.flatMap (PreparedNode.frames number) else []) =
          fun number => if isEmpty number then
            (node :: rest).flatMap (PreparedNode.frames number) else [] := by
      funext number
      cases isEmpty number <;> rfl
    rw [hjoin] at hsplit
    refine (hsplit.symm.append_right _).trans ?_
    -- the frames of the other elements change places with what this one shows
    rw [List.append_assoc]
    refine ((List.perm_append_comm_assoc _ _ _).append_left _).trans ?_
    rw [← List.append_assoc]
    exact hnode.append hrest

namespace Setup

variable (setup : Setup)

/-- The texts that go where the slot of a number is empty. -/
def withheld (number : Nat) : List HeldText :=
  if (setup.fill number).isEmpty then setup.nodes.flatMap (PreparedNode.frames number) else []

/-- What goes when slots are filled, elements of the layout are placed and lanes are injected,
in this order. -/
def floorsAhead (order : List Nat) (nodes : List PreparedNode) (lanes : List Blueprint.Lane) :
    List (String × Tokens) :=
  (order.flatMap setup.withheld ++ setup.shownBy nodes).map (floorOf setup.env) ++
    lanes.flatMap Injection.floorsOf

/-- The frames around the first slot go first. -/
theorem floorsAhead_cons (number : Nat) (rest : List Nat) (nodes : List PreparedNode)
    (lanes : List Blueprint.Lane) :
    setup.floorsAhead (number :: rest) nodes lanes =
      (setup.withheld number).map (floorOf setup.env) ++ setup.floorsAhead rest nodes lanes := by
  simp [floorsAhead]

variable (hlanes : (setup.lanes.map Blueprint.Lane.id).Nodup)

include hlanes

/-- What is set aside for the texts and the lanes stands under keys that are all different. -/
theorem nodup_keys : ((setup.texts.map (floorOf setup.env) ++
    (setup.lanes.filter Blueprint.Lane.enabled).flatMap Injection.floorsOf).map
      Prod.fst).Nodup := by
  have hused : ((setup.lanes.filter Blueprint.Lane.enabled).map Blueprint.Lane.id).Nodup :=
    (List.filter_sublist.map _).nodup hlanes
  rw [List.map_append, keys_floorOf, List.nodup_append]
  refine ⟨setup.nodup_floors, nodup_floorsOf hused, ?_⟩
  intro key hkey other hother heq
  obtain ⟨held, hheld, rfl⟩ := List.mem_map.1 hkey
  obtain ⟨floor, hfloor, rfl⟩ := List.mem_map.1 hother
  obtain ⟨lane, -, hin⟩ := List.mem_flatMap.1 hfloor
  have htext : setup.isTextKey held.floor = true :=
    List.any_eq_true.2 ⟨held, hheld, beq_self_eq_true _⟩
  rw [heq, key_floorsOf hin, setup.isTextKey_laneFloor] at htext
  exact Bool.false_ne_true htext

/-- At first the texts and the lanes are what is set aside. -/
theorem floors_reserved : setup.reserved.floors = setup.texts.map (floorOf setup.env) ++
    (setup.lanes.filter Blueprint.Lane.enabled).flatMap Injection.floorsOf := by
  have hkeys := setup.nodup_keys hlanes
  have htexts : (setup.texts.foldl (reserveText setup.env)
      (Ledger.ofCapacity setup.capacity)).floors = setup.texts.map (floorOf setup.env) := by
    refine floors_foldl_reserveText setup.env setup.texts ?_
    rw [List.map_append] at hkeys
    exact (List.nodup_append.1 hkeys).1
  rw [reserved, floors_foldl_reserveLane _ (by rw [htexts]; exact hkeys), htexts]

variable (h : setup.blueprint.IsLaidOut)

include h

/-- What is set aside at first is all that goes. -/
theorem floors_reserved_perm : setup.reserved.floors.Perm
    (setup.floorsAhead setup.blueprint.order setup.nodes
      (Injection.lanesInOrder setup.lanes)) := by
  have htexts := texts_perm (fun number => (setup.fill number).isEmpty) h.nodup_order
    fun number => setup.mem_order_of_mem_nodes h
  rw [setup.floors_reserved hlanes]
  exact (htexts.symm.map _).append
    ((Injection.lanesInOrder_perm setup.lanes).symm.flatMap_right _)

/-- What is still to go stands under keys that are all different. -/
theorem nodup_floorsAhead {order : List Nat} {nodes : List PreparedNode}
    {lanes : List Blueprint.Lane} (horder : order <:+ setup.blueprint.order)
    (hnodes : nodes <:+ setup.nodes) (hin : lanes <:+ Injection.lanesInOrder setup.lanes) :
    ((setup.floorsAhead order nodes lanes).map Prod.fst).Nodup := by
  have hall := (setup.floors_reserved_perm hlanes h).map Prod.fst
  rw [setup.floors_reserved hlanes] at hall
  have hnodup := hall.nodup_iff.1 (setup.nodup_keys hlanes)
  have htexts := (horder.sublist.flatMap setup.withheld).append
    (hnodes.sublist.flatMap (PreparedNode.shown fun number => (setup.fill number).isEmpty))
  have hfloors := (htexts.map (floorOf setup.env)).append
    (hin.sublist.flatMap Injection.floorsOf)
  exact (hfloors.map Prod.fst).nodup hnodup

omit hlanes in
/-- What the slot of a number is filled with is what filling it after those before gives. -/
theorem fill_eq {before after : List Nat} {number : Nat} {slot : Blueprint.Slot}
    (horder : setup.blueprint.order = before ++ number :: after)
    (hslot : setup.blueprint.slots[number]? = some slot) :
    setup.fill number = (fillSlot setup.env slot (setup.filledUpTo before).2).1.entries := by
  have hfilled : setup.filled.1 = (setup.filledUpTo before).1 ++
      (fillSlots setup.env setup.blueprint setup.prepared (number :: after)
        (setup.filledUpTo before).2).1 := by
    rw [filled, filledUpTo, horder, fillSlots_append]
    rfl
  rw [fillSlots_cons setup.env hslot] at hfilled
  have hentry : (number, (fillSlot setup.env slot (setup.filledUpTo before).2).1) ∈
      setup.filled.1 := by
    rw [hfilled]
    exact List.mem_append_right _ List.mem_cons_self
  exact setup.fill_of_mem h hentry

omit hlanes h in
/-- The slots that are filled first stand first among all. -/
theorem filledUpTo_isPrefix {before after : List Nat}
    (horder : setup.blueprint.order = before ++ after) :
    (setup.filledUpTo before).1 <+: setup.filled.1 := by
  rw [filled, filledUpTo, filledUpTo, horder, fillSlots_append]
  exact List.prefix_append _ _

omit hlanes h in
/-- The buffer of one more slot comes behind those before it. -/
theorem buffers_filledUpTo_snoc {number : Nat} {slot : Blueprint.Slot}
    (hslot : setup.blueprint.slots[number]? = some slot) (before : List Nat) :
    (setup.filledUpTo (before ++ [number])).1 = (setup.filledUpTo before).1 ++
      [(number, (fillSlot setup.env slot (setup.filledUpTo before).2).1)] := by
  rw [filledUpTo, fillSlots_append, fillSlots_cons setup.env hslot]
  rfl

omit hlanes h in
/-- The ledger after one more slot. -/
theorem filledUpTo_snoc {number : Nat} {slot : Blueprint.Slot}
    (hslot : setup.blueprint.slots[number]? = some slot) (before : List Nat) :
    (setup.filledUpTo (before ++ [number])).2 =
      afterSlot setup.env setup.prepared number slot (setup.filledUpTo before).2 := by
  rw [filledUpTo, fillSlots_append, fillSlots_cons setup.env hslot]
  rfl

/-- A slot takes away what is set aside for the frames that go where it is empty. -/
theorem floors_filledUpTo_snoc {before after : List Nat} {number : Nat}
    (horder : setup.blueprint.order = before ++ number :: after)
    (hfloors : (setup.filledUpTo before).2.floors.Perm (setup.floorsAhead (number :: after)
      setup.nodes (Injection.lanesInOrder setup.lanes))) :
    (setup.filledUpTo (before ++ [number])).2.floors.Perm (setup.floorsAhead after
      setup.nodes (Injection.lanesInOrder setup.lanes)) := by
  have hin : number ∈ setup.blueprint.order := by simp [horder]
  obtain ⟨slot, hslot⟩ : ∃ slot, setup.blueprint.slots[number]? = some slot :=
    ⟨_, List.getElem?_eq_getElem (setup.lt_of_mem_order h number hin)⟩
  have hsuffix : number :: after <:+ setup.blueprint.order := ⟨before, horder.symm⟩
  have hkeys := setup.nodup_floorsAhead hlanes h hsuffix List.suffix_rfl List.suffix_rfl
  rw [floorsAhead_cons] at hfloors hkeys
  rw [← floors_fillSlot setup.env slot] at hfloors
  rw [setup.filledUpTo_snoc hslot, afterSlot, ← setup.fill_eq h horder hslot]
  have hnodup : (setup.prepared.nodes.filterMap PreparedNode.number?).Nodup :=
    setup.numbers_nodes h ▸ List.nodup_range
  rw [omittedTexts_eq number hnodup]
  rw [withheld] at hfloors hkeys
  split
  · next hempty =>
    rw [if_pos hempty] at hfloors hkeys
    exact floors_foldl_releaseText setup.env _ hfloors hkeys
  · next hempty =>
    rw [if_neg hempty] at hfloors
    exact hfloors

/-- After some slots, the frames of the others are still to go, and all that comes later. -/
theorem floors_filledUpTo {before after : List Nat}
    (horder : setup.blueprint.order = before ++ after) :
    (setup.filledUpTo before).2.floors.Perm (setup.floorsAhead after setup.nodes
      (Injection.lanesInOrder setup.lanes)) := by
  induction before using List.reverseRecOn generalizing after with
  | nil =>
    have hreserved := setup.floors_reserved_perm hlanes h
    rw [horder] at hreserved
    exact hreserved
  | append_singleton before number ih =>
    rw [List.append_assoc] at horder
    exact setup.floors_filledUpTo_snoc hlanes h horder (ih horder)

/-- After some elements of the layout, the texts of the others are still to go, and the
lanes. -/
theorem floors_assembledUpTo {walked rest : List PreparedNode}
    (hnodes : setup.nodes = walked ++ rest) :
    (setup.assembledUpTo walked).floors.Perm (setup.floorsAhead [] rest
      (Injection.lanesInOrder setup.lanes)) := by
  have hfilled := setup.floors_filledUpTo hlanes h (List.append_nil _).symm
  have hkeys := setup.nodup_floorsAhead hlanes h (List.nil_suffix) List.suffix_rfl List.suffix_rfl
  have hahead : setup.floorsAhead [] setup.nodes (Injection.lanesInOrder setup.lanes) =
      (setup.shownBy walked).map (floorOf setup.env) ++
        setup.floorsAhead [] rest (Injection.lanesInOrder setup.lanes) := by
    simp [floorsAhead, shownBy, hnodes]
  rw [hahead] at hfilled hkeys
  rw [assembledUpTo, floors_foldl_settleText setup.env (setup.shownBy walked) rfl]
  exact floors_foldl_releaseText setup.env _ hfilled hkeys

/-- After some lanes, the reserves of the others are still to go. -/
theorem floors_injectedUpTo {before after : List Blueprint.Lane}
    (hin : Injection.lanesInOrder setup.lanes = before ++ after) :
    (setup.injectedUpTo before).ledger.floors.Perm (setup.floorsAhead [] [] after) := by
  induction before using List.reverseRecOn generalizing after with
  | nil =>
    have hassembled := setup.floors_assembledUpTo hlanes h (List.append_nil _).symm
    rw [hin] at hassembled
    exact hassembled
  | append_singleton before lane ih =>
    rw [List.append_assoc] at hin
    have hbefore : (setup.injectedUpTo before).ledger.floors.Perm
        (Injection.floorsOf lane ++ setup.floorsAhead [] [] after) := ih hin
    have hfresh : lane.id ∉ after.map Blueprint.Lane.id := by
      have hids := (Injection.lanesInOrder_perm setup.lanes).map Blueprint.Lane.id
      have hnodup := hids.nodup_iff.2 ((List.filter_sublist.map _).nodup hlanes)
      rw [hin, List.map_append, List.nodup_append] at hnodup
      exact (List.nodup_cons.1 hnodup.2.1).1
    obtain ⟨inserted, hjoins⟩ := Injection.injectLane_joins setup.env setup.options.injections
      (setup.injectedUpTo before) lane
    have hledger : (setup.injectedUpTo (before ++ [lane])).ledger.floors =
        ((setup.injectedUpTo before).ledger.release (Injection.laneFloor lane.id)).floors := by
      have hcharged := congrArg Ledger.floors hjoins.ledger_eq
      rw [injectedUpTo, List.foldl_append]
      exact hcharged
    rw [hledger]
    refine Ledger.floors_release_perm hbefore (fun _ => key_floorsOf) ?_
    intro floor hfloor heq
    obtain ⟨other, hother, hkey⟩ := List.mem_flatMap.1 hfloor
    have hid := Injection.laneFloor_inj ((key_floorsOf hkey).symm.trans heq)
    exact hfresh (hid ▸ List.mem_map_of_mem hother)

end Setup

theorem isKept_depth : IsKept Ledger.depth :=
  ⟨fun ledger tokens => by simp [Ledger.charge, Ledger.depth], fun _ _ => rfl⟩

theorem kept_foldl_injectLane {α : Type} {kept : Ledger → α} (h : IsKept kept)
    (requests : List Injection.Request) (lanes : List Blueprint.Lane)
    (before : Injection.Injected) :
    kept (lanes.foldl (Injection.injectLane env.estimate requests) before).ledger =
      kept before.ledger := by
  induction lanes generalizing before with
  | nil => rfl
  | cons lane rest ih =>
    obtain ⟨inserted, hjoins⟩ := Injection.injectLane_joins env requests before lane
    rw [List.foldl_cons, ih, hjoins.ledger_eq, h.charge]
    exact h.floors _ _

namespace Setup

/-- What is kept is the same after any lanes as before anything is set aside. -/
theorem kept_injectedUpTo {α : Type} {kept : Ledger → α} (h : IsKept kept) (setup : Setup)
    (lanes : List Blueprint.Lane) :
    kept (setup.injectedUpTo lanes).ledger = kept (Ledger.ofCapacity setup.capacity) := by
  obtain ⟨floors, hreserved⟩ := setup.reserved_eq
  rw [injectedUpTo, kept_foldl_injectLane _ h]
  rw [assembledUpTo, kept_foldl_settleText _ h, filled, filledUpTo, kept_fillSlots _ h, hreserved,
    h.floors]

/-- In the end no cap is open. -/
theorem depth_injected (setup : Setup) : setup.injected.ledger.depth = 0 :=
  setup.kept_injectedUpTo isKept_depth _

end Setup

/-- Nothing that is set aside leaks. The render ends with nothing set aside and no cap open.
What is set aside at first, for the texts of the layout and the lanes that are used, stands under
keys that are all different. From then on filling a slot leaves it alone, and right after that
the header and footer that go where the slot is empty are given up; an element of the layout
takes away what is set aside for the texts that it places; and a lane takes away its reserve.
Nothing else goes. -/
theorem floors_eq_nil {setup : Setup} (h : setup.blueprint.IsCompiled)
    (hlanes : (setup.lanes.map Blueprint.Lane.id).Nodup) :
    (∃ prompt ledger,
      renderOver setup.env setup.blueprint setup.options (Ledger.ofCapacity setup.capacity) =
        .ok (prompt, ledger) ∧
      ledger.floors = [] ∧ ledger.floorTotal = 0 ∧ ledger.depth = 0) ∧
    (setup.reserved.floors.map Prod.fst).Nodup ∧
    setup.reserved.floors = setup.texts.map (floorOf setup.env) ++
      (setup.lanes.filter Blueprint.Lane.enabled).flatMap Injection.floorsOf ∧
    (∀ before number after, setup.blueprint.order = before ++ number :: after →
      ∃ slot, setup.blueprint.slots[number]? = some slot ∧
        (fillSlot setup.env slot (setup.filledUpTo before).2).1.entries = setup.fill number ∧
        (fillSlot setup.env slot (setup.filledUpTo before).2).2.floors =
          (setup.filledUpTo before).2.floors ∧
        (setup.filledUpTo before).2.Removes
          ((setup.withheld number).map (floorOf setup.env))
          (setup.filledUpTo (before ++ [number])).2) ∧
    (∀ before node after, setup.nodes = before ++ node :: after →
      ∃ placed, assemble setup.env before setup.filled.1 setup.filled.2 =
          .ok (placed, setup.assembledUpTo before) ∧
        assemble setup.env (before ++ [node]) setup.filled.1 setup.filled.2 =
          .ok (placed ++ node.spliced setup.fill, setup.assembledUpTo (before ++ [node])) ∧
        (setup.assembledUpTo before).Removes
          ((setup.shownBy [node]).map (floorOf setup.env))
          (setup.assembledUpTo (before ++ [node]))) ∧
    ∀ before lane after, Injection.lanesInOrder setup.lanes = before ++ lane :: after →
      (setup.injectedUpTo before).ledger.Removes (Injection.floorsOf lane)
        (setup.injectedUpTo (before ++ [lane])).ledger := by
  have hlaid := h.isLaidOut
  have hnone : setup.injected.ledger.floors = [] :=
    (setup.floors_injectedUpTo hlanes hlaid (List.append_nil _).symm).eq_nil
  refine ⟨⟨setup.prompt, setup.injected.ledger, setup.renderOver_eq hlaid, hnone, ?_,
    setup.depth_injected⟩, ?_, setup.floors_reserved hlanes, ?_, ?_, ?_⟩
  · rw [Ledger.floorTotal, hnone]
    rfl
  · rw [setup.floors_reserved hlanes]
    exact setup.nodup_keys hlanes
  · intro before number after horder
    have hin : number ∈ setup.blueprint.order := by simp [horder]
    have hlater : setup.blueprint.order = before ++ [number] ++ after := by simp [horder]
    have hbefore := setup.floors_filledUpTo hlanes hlaid horder
    have hafter := setup.floors_filledUpTo hlanes hlaid hlater
    obtain ⟨slot, hslot⟩ : ∃ slot, setup.blueprint.slots[number]? = some slot :=
      ⟨_, List.getElem?_eq_getElem (setup.lt_of_mem_order hlaid number hin)⟩
    refine ⟨slot, hslot, (setup.fill_eq hlaid horder hslot).symm,
      floors_fillSlot setup.env slot _, ?_⟩
    rw [setup.floorsAhead_cons] at hbefore
    exact hbefore.trans (hafter.symm.append_left _)
  · intro before node after hnodes
    have hlater : setup.nodes = before ++ [node] ++ after := by simp [hnodes]
    have hbefore := setup.floors_assembledUpTo hlanes hlaid hnodes
    have hafter := setup.floors_assembledUpTo hlanes hlaid hlater
    refine ⟨_, setup.assemble_eq hlaid before _ hnodes, ?_, ?_⟩
    · rw [setup.assemble_eq hlaid _ _ hlater, List.flatMap_append, List.flatMap_singleton]
    · have hfirst : setup.floorsAhead [] (node :: after)
          (Injection.lanesInOrder setup.lanes) =
            (setup.shownBy [node]).map (floorOf setup.env) ++
              setup.floorsAhead [] after (Injection.lanesInOrder setup.lanes) := by
        simp [Setup.floorsAhead, Setup.shownBy]
      rw [hfirst] at hbefore
      exact hbefore.trans (hafter.symm.append_left _)
  · intro before lane after hin
    have hlater : Injection.lanesInOrder setup.lanes = before ++ [lane] ++ after := by simp [hin]
    have hbefore := setup.floors_injectedUpTo hlanes hlaid hin
    have hafter := setup.floors_injectedUpTo hlanes hlaid hlater
    exact hbefore.trans (hafter.symm.append_left _)

/-- In the sample three floors are set aside and all are gone in the end. -/
theorem floors_eq_nil_sample :
    (Setup.mk Sample.environment Sample.blueprint Sample.options 5).reserved.floors =
      [("layout[0]", 1), ("layout[1].header", 1), ("lane:lore", 1)] ∧
    ∃ prompt ledger, renderOver Sample.environment Sample.blueprint Sample.options
      (Ledger.ofCapacity 5) = .ok (prompt, ledger) ∧ ledger.floors = [] ∧
        ledger.floorTotal = 0 ∧ ledger.depth = 0 := by
  obtain ⟨hend, -⟩ :=
    @floors_eq_nil ⟨Sample.environment, Sample.blueprint, Sample.options, 5⟩ Sample.isCompiled
      (by decide)
  exact ⟨by cbv, hend⟩

end Render

end ChatPrompt
