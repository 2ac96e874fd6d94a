import ChatPrompt.Proofs.Stages
import Mathlib.Algebra.Order.BigOperators.Group.List
import Mathlib.Algebra.Order.Group.Nat
import Mathlib.Data.List.Nodup

/-!
# What is set aside first

Before anything is spent, the texts of the layout are set aside, each under a key of its own,
and after them the reserves of the lanes, under keys that no text has. So the amount under the
key of a text is what that text costs, whatever else is set aside or given up. The totals are
taken as natural numbers.
-/

namespace ChatPrompt.Render

/-- The digits in the key of an element of the layout. -/
def keyDigits (key : String) : List Char := (key.toList.drop 7).takeWhile (· != ']')

/-- The digits in a key of the layout are those of the number of the element. -/
theorem keyDigits_layoutFloor (index : Nat) (suffix : String) :
    keyDigits (layoutFloor index ++ suffix) = Nat.toDigits 10 index := by
  have hdigits : ∀ c ∈ Nat.toDigits 10 index, (c != ']') = true := by
    intro c hc
    have hdigit := Nat.isDigit_of_mem_toDigits (by omega) (by omega) hc
    have hbracket : (']' : Char).isDigit = false := by decide
    have hne : c ≠ ']' := fun heq => by simp [heq, hbracket] at hdigit
    simpa using hne
  have hkey : (layoutFloor index ++ suffix).toList =
      "layout[".toList ++ (Nat.toDigits 10 index ++ ']' :: suffix.toList) := by
    simp [layoutFloor, String.toList_append]
  have hdrop : ("layout[".toList ++ (Nat.toDigits 10 index ++ ']' :: suffix.toList)).drop 7 =
      Nat.toDigits 10 index ++ ']' :: suffix.toList := rfl
  rw [keyDigits, hkey, hdrop, List.takeWhile_append_of_pos hdigits]
  simp

/-- The keys of two elements of the layout differ, whatever they end in. -/
theorem layoutFloor_append_ne {index other : Nat} (h : index ≠ other)
    (suffix ending : String) : layoutFloor index ++ suffix ≠ layoutFloor other ++ ending := by
  intro heq
  have hdigits := congrArg (fun key => Nat.ofDigitChars 10 (keyDigits key) 0) heq
  simp only [keyDigits_layoutFloor, Nat.ofDigitChars_ten_toDigits] at hdigits
  exact h hdigits

/-- The key of a lane is none of the layout. -/
theorem laneFloor_ne_layoutFloor (id : String) (index : Nat) (suffix : String) :
    Injection.laneFloor id ≠ layoutFloor index ++ suffix := by
  intro heq
  have hthird := congrArg (fun key : String => key.toList[2]?) heq
  simp [Injection.laneFloor, layoutFloor, String.toList_append] at hthird

/-- A frame has the key that it is prepared for. -/
theorem floor_prepareFrame {scope : Scope} {floor : String} {frame : Option Blueprint.Frame}
    {held : HeldText} (h : held ∈ (prepareFrame scope floor frame).toList) :
    held.floor = floor := by
  rw [Option.mem_toList, prepareFrame, Option.bind_eq_some_iff] at h
  obtain ⟨frame, -, hframe⟩ := h
  obtain ⟨text, -, hheld⟩ := Option.map_eq_some_iff.1 hframe
  rw [← hheld]

variable (env : Environment)

/-- A message of the layout has the text that it says, if it says anything. -/
theorem texts_prepareNode_message (index : Nat) (details : Blueprint.Message) :
    (prepareNode env index (.message details)).texts =
      ((Text.contentful? (env.text env.root details.content)).map fun text =>
        ⟨details.role, text, layoutFloor index⟩).toList := by
  rw [prepareNode]
  cases Text.contentful? (env.text env.root details.content) with
  | none => rfl
  | some text => rfl

/-- The keys of an element start with its own. -/
theorem floor_prepareNode {index : Nat} {node : Blueprint.LayoutNode} {held : HeldText}
    (h : held ∈ (prepareNode env index node).texts) :
    ∃ suffix, held.floor = layoutFloor index ++ suffix := by
  cases node with
  | message details =>
    rw [texts_prepareNode_message, Option.mem_toList, Option.map_eq_some_iff] at h
    obtain ⟨text, -, rfl⟩ := h
    exact ⟨"", String.append_empty.symm⟩
  | slot place =>
    rcases List.mem_append.1 h with hheader | hfooter
    · exact ⟨_, floor_prepareFrame hheader⟩
    · exact ⟨_, floor_prepareFrame hfooter⟩

/-- The texts of an element have different keys. -/
theorem nodup_floors_prepareNode (index : Nat) (node : Blueprint.LayoutNode) :
    ((prepareNode env index node).texts.map HeldText.floor).Nodup := by
  have hone : ∀ frame : Option HeldText, (frame.toList.map HeldText.floor).Nodup := by
    intro frame
    cases frame with
    | none => exact List.nodup_nil
    | some held => exact List.nodup_singleton _
  cases node with
  | message details =>
    rw [texts_prepareNode_message]
    exact hone _
  | slot place =>
    rw [prepareNode, PreparedNode.texts]
    rw [List.map_append, List.nodup_append]
    refine ⟨hone _, hone _, ?_⟩
    intro header hheader footer hfooter heq
    obtain ⟨held, hheld, rfl⟩ := List.mem_map.1 hheader
    obtain ⟨other, hother, rfl⟩ := List.mem_map.1 hfooter
    rw [floor_prepareFrame hheld, floor_prepareFrame hother, String.append_right_inj] at heq
    exact absurd heq (by decide)

/-- The texts of elements have keys from the numbers of the elements on. -/
theorem floor_mapIdx_prepareNode {layout : List Blueprint.LayoutNode} {start : Nat}
    {held : HeldText}
    (h : held ∈ (layout.mapIdx fun index node => prepareNode env (index + start) node).flatMap
      PreparedNode.texts) :
    ∃ index suffix, start ≤ index ∧ held.floor = layoutFloor index ++ suffix := by
  obtain ⟨node, hnode, hheld⟩ := List.mem_flatMap.1 h
  obtain ⟨index, hindex, rfl⟩ := List.mem_mapIdx.1 hnode
  obtain ⟨suffix, hfloor⟩ := floor_prepareNode env hheld
  exact ⟨index + start, suffix, by omega, hfloor⟩

/-- All texts of a layout have different keys. -/
theorem nodup_floors_mapIdx (layout : List Blueprint.LayoutNode) (start : Nat) :
    (((layout.mapIdx fun index node => prepareNode env (index + start) node).flatMap
      PreparedNode.texts).map HeldText.floor).Nodup := by
  induction layout generalizing start with
  | nil => exact List.nodup_nil
  | cons node rest ih =>
    have hrest := ih (start + 1)
    have hkeys := @floor_mapIdx_prepareNode env rest (start + 1)
    simp only [Nat.add_comm start 1, ← Nat.add_assoc] at hrest hkeys
    rw [List.mapIdx_cons, List.flatMap_cons, List.map_append, List.nodup_append]
    refine ⟨nodup_floors_prepareNode env _ node, hrest, ?_⟩
    intro floor hfloor other hother heq
    obtain ⟨held, hheld, rfl⟩ := List.mem_map.1 hfloor
    obtain ⟨later, hlater, rfl⟩ := List.mem_map.1 hother
    obtain ⟨suffix, hsuffix⟩ := floor_prepareNode env hheld
    obtain ⟨index, ending, hle, hending⟩ := hkeys hlater
    rw [hsuffix, hending] at heq
    exact layoutFloor_append_ne (by omega) suffix ending heq

/-- Setting texts aside adds what the kept ones cost, as long as everything is in the range of
amounts. -/
theorem held_foldl_reserveText (keep : String → Bool) (texts : List HeldText) (ledger : Ledger)
    (h : ledger.heldInAll + (texts.map fun held => (env.estimate held.text).toNat).sum < 2 ^ 64) :
    (texts.foldl (reserveText env) ledger).held keep = ledger.held keep +
      (texts.map fun held => if keep held.floor then (env.estimate held.text).toNat else 0).sum := by
  induction texts generalizing ledger with
  | nil => simp
  | cons held rest ih =>
    rw [List.map_cons, List.sum_cons] at h
    have hkey := ledger.held_le_heldInAll (· == held.floor)
    have hreserve := fun keep => ledger.held_reserve keep held.floor (env.estimate held.text)
      (by omega)
    have hall : (reserveText env ledger held).heldInAll =
        ledger.heldInAll + (env.estimate held.text).toNat := hreserve fun _ => true
    have hkept : (reserveText env ledger held).held keep = _ := hreserve keep
    rw [List.foldl_cons, ih _ (by rw [hall]; omega), hkept, List.map_cons, List.sum_cons]
    omega

/-- Setting the reserves of lanes aside adds the kept ones, as long as everything is in the
range of amounts. -/
theorem held_foldl_reserveLane (keep : String → Bool) (lanes : List Blueprint.Lane)
    (ledger : Ledger)
    (h : ledger.heldInAll + (lanes.map fun lane => (lane.reserve.getD 0).toNat).sum < 2 ^ 64) :
    (lanes.foldl reserveLane ledger).held keep = ledger.held keep +
      (lanes.map fun lane =>
        if keep (Injection.laneFloor lane.id) then (lane.reserve.getD 0).toNat else 0).sum := by
  induction lanes generalizing ledger with
  | nil => simp
  | cons lane rest ih =>
    rw [List.map_cons, List.sum_cons] at h
    have hkey := ledger.held_le_heldInAll (· == Injection.laneFloor lane.id)
    have hreserve : ∀ keep, (reserveLane ledger lane).held keep = ledger.held keep +
        if keep (Injection.laneFloor lane.id) then (lane.reserve.getD 0).toNat else 0 := by
      intro keep
      rw [reserveLane]
      cases hamount : lane.reserve with
      | none => simp
      | some amount =>
        rw [hamount, Option.getD_some] at h
        dsimp only
        split
        · next hzero => simp [hzero]
        · exact ledger.held_reserve keep _ amount (by omega)
    have hall : (reserveLane ledger lane).heldInAll =
        ledger.heldInAll + (lane.reserve.getD 0).toNat := hreserve fun _ => true
    rw [List.foldl_cons, ih _ (by rw [hall]; omega), hreserve keep, List.map_cons, List.sum_cons]
    omega

namespace Setup

variable (setup : Setup)

/-- What the texts of the layout cost. -/
def textsAside : Nat :=
  (setup.texts.map fun held => (setup.env.estimate held.text).toNat).sum

/-- What the lanes that are used have in reserve. -/
def lanesAside : Nat :=
  ((setup.lanes.filter Blueprint.Lane.enabled).map fun lane => (lane.reserve.getD 0).toNat).sum

/-- All that is set aside before slots are filled. -/
def setAside : Nat := setup.textsAside + setup.lanesAside

/-- Whether a key is that of a text of the layout. -/
def isTextKey (key : String) : Bool := setup.texts.any fun held => held.floor == key

/-- No two texts of the layout have one key. -/
theorem nodup_floors : (setup.texts.map HeldText.floor).Nodup :=
  nodup_floors_mapIdx setup.env setup.blueprint.layout 0

/-- No lane has the key of a text. -/
theorem isTextKey_laneFloor (id : String) : setup.isTextKey (Injection.laneFloor id) = false := by
  rw [isTextKey, List.any_eq_false]
  intro held hheld heq
  obtain ⟨index, suffix, -, hfloor⟩ :=
    @floor_mapIdx_prepareNode setup.env setup.blueprint.layout 0 held hheld
  exact laneFloor_ne_layoutFloor id index suffix ((beq_iff_eq.1 heq).symm.trans hfloor)

variable (h : setup.setAside < 2 ^ 64)

include h

/-- What is set aside under some keys is that of the texts and of the lanes. -/
theorem held_reserved (keep : String → Bool) :
    setup.reserved.held keep =
      (setup.texts.map fun held =>
        if keep held.floor then (setup.env.estimate held.text).toNat else 0).sum +
      ((setup.lanes.filter Blueprint.Lane.enabled).map fun lane =>
        if keep (Injection.laneFloor lane.id) then (lane.reserve.getD 0).toNat else 0).sum := by
  have hstart : ∀ keep, (Ledger.ofCapacity setup.capacity).held keep = 0 := fun _ => rfl
  have htexts := fun keep => held_foldl_reserveText setup.env keep setup.texts
    (Ledger.ofCapacity setup.capacity) (by
      rw [Ledger.heldInAll, hstart]
      exact Nat.lt_of_le_of_lt (by unfold setAside textsAside; omega) h)
  have hlanes := held_foldl_reserveLane keep (setup.lanes.filter Blueprint.Lane.enabled)
    (setup.texts.foldl (reserveText setup.env) (Ledger.ofCapacity setup.capacity)) (by
      rw [Ledger.heldInAll, htexts, hstart]
      simp only [if_true, Nat.zero_add]
      exact h)
  rw [reserved, hlanes, htexts, hstart, Nat.zero_add]

/-- All that is set aside is what was announced. -/
theorem heldInAll_reserved : setup.reserved.heldInAll = setup.setAside := by
  rw [Ledger.heldInAll, setup.held_reserved h]
  rfl

/-- What is set aside under keys of texts is what the texts cost. -/
theorem held_isTextKey_reserved : setup.reserved.held setup.isTextKey = setup.textsAside := by
  have htexts : ∀ held ∈ setup.texts,
      (if setup.isTextKey held.floor then (setup.env.estimate held.text).toNat else 0) =
        (setup.env.estimate held.text).toNat := by
    intro held hheld
    have hkey : setup.isTextKey held.floor = true :=
      List.any_eq_true.2 ⟨held, hheld, beq_self_eq_true _⟩
    rw [if_pos hkey]
  have hlanes : ((setup.lanes.filter Blueprint.Lane.enabled).map fun lane =>
      if setup.isTextKey (Injection.laneFloor lane.id) then (lane.reserve.getD 0).toNat
      else 0).sum = 0 := by
    rw [List.sum_eq_zero_iff_forall_eq_nat]
    intro amount hamount
    obtain ⟨lane, -, rfl⟩ := List.mem_map.1 hamount
    rw [setup.isTextKey_laneFloor, if_neg Bool.false_ne_true]
  rw [setup.held_reserved h, List.map_congr_left htexts, hlanes, Nat.add_zero, textsAside]

/-- Under the key of a text there is what it costs. -/
theorem le_held_reserved {held : HeldText} (hheld : held ∈ setup.texts) :
    (setup.env.estimate held.text).toNat ≤ setup.reserved.held (· == held.floor) := by
  have hmem := List.mem_map_of_mem
    (f := fun other : HeldText =>
      if other.floor == held.floor then (setup.env.estimate other.text).toNat else 0) hheld
  have hle := List.single_le_sum (fun _ _ => Nat.zero_le _) _ hmem
  rw [setup.held_reserved h]
  simp only [beq_self_eq_true, if_true] at hle
  omega

/-- The report gives what the texts cost. -/
theorem toNat_floorTokens : setup.prepared.floorTokens.toNat = setup.textsAside := by
  have hmap : (setup.texts.map fun held => setup.env.estimate held.text).map UInt64.toNat =
      setup.texts.map fun held => (setup.env.estimate held.text).toNat := by
    rw [List.map_map]
    rfl
  have hlt : setup.textsAside < 2 ^ 64 := by
    rw [setAside] at h
    omega
  rw [textsAside] at hlt ⊢
  rw [← hmap] at hlt ⊢
  exact Tokens.toNat_sum _ hlt

end Setup

end ChatPrompt.Render
