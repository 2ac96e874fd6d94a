import ChatPrompt.Proofs.Dropping
import ChatPrompt.Proofs.Stages
import ChatPrompt.Render.Prompt

/-!
# What the loops of a slot count

The items that the loops of a plan take form a tree: inside an item are those of the loops that its
nodes run. A loop counts an item as included as soon as it keeps it, and that is not taken back
where an item around it is dropped. So a slot reports the items that are part of its messages, and
besides those that were kept inside a dropped item. The second number is zero if no loop of the plan
has another one inside it.
-/

namespace ChatPrompt

namespace Blueprint

mutual

/-- Whether there is no loop in a node. -/
def PlanNode.isFlat : PlanNode → Bool
  | .message _ => true
  | .forEach _ _ => false
  | .branch _ whenTrue whenFalse => PlanNode.areFlat whenTrue && PlanNode.areFlat whenFalse

/-- Whether there is no loop in some nodes. -/
def PlanNode.areFlat : List PlanNode → Bool
  | [] => true
  | node :: rest => node.isFlat && PlanNode.areFlat rest

end

mutual

/-- Whether no loop in a node has another one inside it. -/
def PlanNode.isShallow : PlanNode → Bool
  | .message _ => true
  | .forEach _ body => PlanNode.areFlat body
  | .branch _ whenTrue whenFalse =>
    PlanNode.areShallow whenTrue && PlanNode.areShallow whenFalse

/-- Whether no loop in some nodes has another one inside it. -/
def PlanNode.areShallow : List PlanNode → Bool
  | [] => true
  | node :: rest => node.isShallow && PlanNode.areShallow rest

end

end Blueprint

namespace Render

/-! ### The tree of items -/

/-- An item that a loop took: whether it kept it, and the items of the loops inside. -/
inductive Visit where
  /-- An item. -/
  | item (isKept : Bool) (inside : List Visit)

namespace Visit

mutual

/-- How many of an item and those inside it were kept by their own loop. -/
def kept : Visit → Nat
  | .item isKept inside => isKept.toNat + keptAmong inside

/-- How many of some items and those inside them were kept by their own loop. -/
def keptAmong : List Visit → Nat
  | [] => 0
  | visit :: rest => visit.kept + keptAmong rest

end

mutual

/-- How many of an item and those inside it were kept, with every item around them. -/
def admitted : Visit → Nat
  | .item true inside => 1 + admittedAmong inside
  | .item false _ => 0

/-- How many of some items and those inside them were kept, with every item around them. -/
def admittedAmong : List Visit → Nat
  | [] => 0
  | visit :: rest => visit.admitted + admittedAmong rest

end

mutual

/-- How many of the items inside an item were kept by their own loop, but lost with an item around
them. -/
def lost : Visit → Nat
  | .item true inside => lostAmong inside
  | .item false inside => keptAmong inside

/-- How many items inside some items were kept by their own loop, but lost with an item around
them. -/
def lostAmong : List Visit → Nat
  | [] => 0
  | visit :: rest => visit.lost + lostAmong rest

end

mutual

/-- What was kept was admitted or lost. -/
theorem kept_eq (visit : Visit) : visit.kept = visit.admitted + visit.lost := by
  match visit with
  | .item true inside =>
    have hinside := keptAmong_eq inside
    simp only [kept, admitted, lost, Bool.toNat_true]
    omega
  | .item false inside =>
    simp only [kept, admitted, lost, Bool.toNat_false]

/-- What was kept was admitted or lost. -/
theorem keptAmong_eq (visits : List Visit) :
    keptAmong visits = admittedAmong visits + lostAmong visits := by
  match visits with
  | [] => rfl
  | visit :: rest =>
    have hvisit := kept_eq visit
    have hrest := keptAmong_eq rest
    simp only [keptAmong, admittedAmong, lostAmong]
    omega

end

theorem keptAmong_append (visits others : List Visit) :
    keptAmong (visits ++ others) = keptAmong visits + keptAmong others := by
  induction visits with
  | nil => simp [keptAmong]
  | cons visit rest ih =>
    rw [List.cons_append, keptAmong, keptAmong, ih, Nat.add_assoc]

theorem lostAmong_append (visits others : List Visit) :
    lostAmong (visits ++ others) = lostAmong visits + lostAmong others := by
  induction visits with
  | nil => simp [lostAmong]
  | cons visit rest ih =>
    rw [List.cons_append, lostAmong, lostAmong, ih, Nat.add_assoc]

end Visit

open Visit (keptAmong admittedAmong lostAmong)

variable (env : Environment)

/-- The items that a loop takes, given those of the loops inside an item. -/
def visitItems (header : Blueprint.Loop) (own : Option Nat) (scope : Scope)
    (body : Scope → Ledger → Step) (inside : Scope → Ledger → List Visit) :
    List Json → Nat → LoopState → List Visit
  | [], _, _ => []
  | item :: rest, index, state =>
    let run := itemRun env header scope body index item state
    .item (!run.outcome.isRefused) (inside (itemScope scope index item) state.ledger) ::
      if header.stopsWhenFull && run.outcome.level?.isSome then []
      else visitItems header own scope body inside rest (index + 1) (state.afterItem own run)

mutual

/-- The items that the loops of a node take. -/
def visitNode (scope : Scope) (atomic : Bool) : Blueprint.PlanNode → Ledger → List Visit
  | .message _, _ => []
  | .forEach header body, ledger =>
    visitItems env header (ledger.openCap? header.budget).1 scope (bodyOf env body)
      (fun inner before => visitNodes inner true body before) (loopItems env scope header) 0
      (LoopState.start env header scope ledger)
  | .branch condition whenTrue whenFalse, ledger =>
    if env.holds scope condition then visitNodes scope atomic whenTrue ledger
    else visitNodes scope atomic whenFalse ledger

/-- The items that the loops of some nodes take. -/
def visitNodes (scope : Scope) (atomic : Bool) : List Blueprint.PlanNode → Ledger → List Visit
  | [], _ => []
  | node :: rest, ledger =>
    visitNode scope atomic node ledger ++
      if atomic && (runNode env scope atomic node ledger).outcome.isRefused then []
      else visitNodes scope atomic rest (runNode env scope atomic node ledger).ledger

end

/-- The items that the loops of a slot take, if its condition holds. -/
def visitSlot (slot : Blueprint.Slot) (ledger : Ledger) : List Visit :=
  if isWanted env slot then
    visitNodes env env.root false slot.plan (ledger.openCap? slot.budget).2
  else []

/-! ### What is counted -/

/-- A separator is not counted. -/
theorem tally_separate (header : Blueprint.Loop) (scope : Scope) (groups : List (List Entry))
    (run : Step) : (separate env header scope groups run).tally = run.tally := by
  rw [separate]
  split
  · rfl
  · split
    · rfl
    · split <;> rfl

/-- An item counts what its nodes count. -/
theorem tally_itemRun (header : Blueprint.Loop) (scope : Scope) (body : Scope → Ledger → Step)
    (index : Nat) (item : Json) (state : LoopState) :
    (itemRun env header scope body index item state).tally =
      (body (itemScope scope index item) state.ledger).tally :=
  tally_separate env header _ _ _

/-- After an item a loop counts what its run counted, and the item as included or as dropped; it is
truncated if something was refused in the item. -/
theorem tally_afterItem (state : LoopState) (own : Option Nat) (run : Step) :
    (state.afterItem own run).tally = (state.tally.add run.tally).add
      ⟨(!run.outcome.isRefused).toNat, 0, run.outcome.isRefused.toNat,
        run.outcome.level?.isSome⟩ := by
  rw [LoopState.afterItem, LoopState.take]
  cases run.outcome with
  | refused level => simp [Outcome.isRefused, Outcome.level?, LoopState.note, LoopState.drop,
      Tally.add]
  | finished signal =>
    cases signal with
    | none => rfl
    | some level => simp [Outcome.isRefused, Outcome.level?, LoopState.note, LoopState.keep,
        Tally.add]

/-- After an item a loop counts those that its run counted and, if it is kept, the item. -/
theorem included_afterItem (state : LoopState) (own : Option Nat) (run : Step) :
    (state.afterItem own run).tally.included =
      state.tally.included + run.tally.included + (!run.outcome.isRefused).toNat :=
  congrArg Tally.included (tally_afterItem state own run)

/-- A loop counts the items that are kept by it and by the loops inside, if its body counts the
latter. -/
theorem included_takeItems (header : Blueprint.Loop) (own : Option Nat) (scope : Scope)
    (body : Scope → Ledger → Step) (inside : Scope → Ledger → List Visit)
    (hbody : ∀ inner before,
      (body inner before).tally.included = keptAmong (inside inner before))
    (items : List Json) (index : Nat) (state : LoopState) :
    (takeItems env header own scope body items index state).tally.included =
      state.tally.included +
        keptAmong (visitItems env header own scope body inside items index state) := by
  induction items generalizing index state with
  | nil => rfl
  | cons item rest ih =>
    have hafter := included_afterItem state own (itemRun env header scope body index item state)
    rw [tally_itemRun, hbody] at hafter
    rw [takeItems_cons_eq, visitItems, keptAmong, Visit.kept]
    split
    · -- the items that are left are not taken, and count as dropped only
      rw [LoopState.stop, keptAmong]
      simp only [Tally.add]
      omega
    · rw [ih]
      omega

mutual

/-- A node of a plan counts the items that are kept by their own loop. -/
theorem included_runNode (scope : Scope) (atomic : Bool) (node : Blueprint.PlanNode)
    (ledger : Ledger) :
    (runNode env scope atomic node ledger).tally.included =
      keptAmong (visitNode env scope atomic node ledger) := by
  match node with
  | .message details =>
    rw [runNode, visitNode, say]
    split
    · rfl
    · dsimp only
      split
      · rfl
      · split <;> rfl
  | .forEach header body =>
    rw [runNode, visitNode, runLoop_eq]
    refine (included_takeItems env header _ scope _ _
      (fun inner before => included_runNodes inner true body before) _ 0 _).trans ?_
    exact Nat.zero_add _
  | .branch condition whenTrue whenFalse =>
    rw [runNode, visitNode]
    split
    · exact included_runNodes scope atomic whenTrue ledger
    · exact included_runNodes scope atomic whenFalse ledger

/-- The nodes of a plan count the items that are kept by their own loop. -/
theorem included_runNodes (scope : Scope) (atomic : Bool) (nodes : List Blueprint.PlanNode)
    (ledger : Ledger) :
    (runNodes env scope atomic nodes ledger).tally.included =
      keptAmong (visitNodes env scope atomic nodes ledger) := by
  match nodes with
  | [] =>
    rw [runNodes, visitNodes]
    rfl
  | node :: rest =>
    have hnode := included_runNode scope atomic node ledger
    rw [runNodes_cons, visitNodes, Visit.keptAmong_append]
    split
    · exact hnode
    · have hrest := included_runNodes scope atomic rest
        (runNode env scope atomic node ledger).ledger
      rw [← hnode, ← hrest]
      rfl

end

/-- A slot reports the items that are kept by their own loop. -/
theorem included_fillSlot (slot : Blueprint.Slot) (ledger : Ledger) :
    (fillSlot env slot ledger).1.stats.tally.included = keptAmong (visitSlot env slot ledger) := by
  rw [fillSlot, visitSlot]
  split
  · exact included_runNodes env env.root false slot.plan _
  · rfl

/-! ### Plans without nested loops -/

mutual

/-- A node without loops takes no items. -/
theorem visitNode_of_isFlat (scope : Scope) (atomic : Bool) {node : Blueprint.PlanNode}
    (h : node.isFlat = true) (ledger : Ledger) : visitNode env scope atomic node ledger = [] := by
  match node with
  | .message details => rw [visitNode]
  | .forEach header body => cases h
  | .branch condition whenTrue whenFalse =>
    obtain ⟨htrue, hfalse⟩ := Bool.and_eq_true_iff.1 h
    rw [visitNode]
    split
    · exact visitNodes_of_areFlat scope atomic htrue ledger
    · exact visitNodes_of_areFlat scope atomic hfalse ledger

/-- Nodes without loops take no items. -/
theorem visitNodes_of_areFlat (scope : Scope) (atomic : Bool) {nodes : List Blueprint.PlanNode}
    (h : Blueprint.PlanNode.areFlat nodes = true) (ledger : Ledger) :
    visitNodes env scope atomic nodes ledger = [] := by
  match nodes with
  | [] => rw [visitNodes]
  | node :: rest =>
    obtain ⟨hnode, hrest⟩ := Bool.and_eq_true_iff.1 h
    rw [visitNodes, visitNode_of_isFlat scope atomic hnode ledger,
      visitNodes_of_areFlat scope atomic hrest _, ite_self, List.append_nil]

end

/-- A loop with no items inside its own loses none. -/
theorem lostAmong_visitItems (header : Blueprint.Loop) (own : Option Nat) (scope : Scope)
    (body : Scope → Ledger → Step) {inside : Scope → Ledger → List Visit}
    (hinside : ∀ inner before, inside inner before = []) (items : List Json) (index : Nat)
    (state : LoopState) :
    lostAmong (visitItems env header own scope body inside items index state) = 0 := by
  induction items generalizing index state with
  | nil => rfl
  | cons item rest ih =>
    have hone : ∀ isKept, (Visit.item isKept []).lost = 0 := fun isKept => by
      cases isKept <;> rfl
    rw [visitItems, hinside, lostAmong, hone, Nat.zero_add]
    split
    · rfl
    · exact ih (index + 1) _

mutual

/-- A node in which no loop has another one inside it loses no items. -/
theorem lostAmong_visitNode (scope : Scope) (atomic : Bool) {node : Blueprint.PlanNode}
    (h : node.isShallow = true) (ledger : Ledger) :
    lostAmong (visitNode env scope atomic node ledger) = 0 := by
  match node with
  | .message details =>
    rw [visitNode]
    rfl
  | .forEach header body =>
    rw [visitNode]
    exact lostAmong_visitItems env header _ scope _
      (fun inner before => visitNodes_of_areFlat env inner true h before) _ 0 _
  | .branch condition whenTrue whenFalse =>
    obtain ⟨htrue, hfalse⟩ := Bool.and_eq_true_iff.1 h
    rw [visitNode]
    split
    · exact lostAmong_visitNodes scope atomic htrue ledger
    · exact lostAmong_visitNodes scope atomic hfalse ledger

/-- Nodes in which no loop has another one inside it lose no items. -/
theorem lostAmong_visitNodes (scope : Scope) (atomic : Bool) {nodes : List Blueprint.PlanNode}
    (h : Blueprint.PlanNode.areShallow nodes = true) (ledger : Ledger) :
    lostAmong (visitNodes env scope atomic nodes ledger) = 0 := by
  match nodes with
  | [] =>
    rw [visitNodes]
    rfl
  | node :: rest =>
    obtain ⟨hnode, hrest⟩ := Bool.and_eq_true_iff.1 h
    rw [visitNodes, Visit.lostAmong_append, lostAmong_visitNode scope atomic hnode ledger]
    split
    · rfl
    · exact (Nat.zero_add _).trans (lostAmong_visitNodes scope atomic hrest _)

end

/-- A slot in which no loop has another one inside it loses no items. -/
theorem lostAmong_visitSlot {slot : Blueprint.Slot}
    (h : Blueprint.PlanNode.areShallow slot.plan = true) (ledger : Ledger) :
    lostAmong (visitSlot env slot ledger) = 0 := by
  rw [visitSlot]
  split
  · exact lostAmong_visitNodes env env.root false h _
  · rfl

/-- A slot counts the items that are part of its messages, and besides those that were kept inside
an item that was dropped; no more than the former if no loop of it has another one inside. For where
a loop drops an item, its count grows by the items that the loops inside had kept, so it stays if
there are none. -/
theorem included_eq_admitted_add_lost :
    (∀ (slot : Blueprint.Slot) (ledger : Ledger),
      (fillSlot env slot ledger).1.stats.tally.included =
          admittedAmong (visitSlot env slot ledger) + lostAmong (visitSlot env slot ledger) ∧
        (Blueprint.PlanNode.areShallow slot.plan = true →
          (fillSlot env slot ledger).1.stats.tally.included =
            admittedAmong (visitSlot env slot ledger))) ∧
    ∀ (header : Blueprint.Loop) (nodes : List Blueprint.PlanNode) (scope : Scope)
      (own : Option Nat) (index : Nat) (item : Json) (state : LoopState),
      let run := itemRun env header scope (bodyOf env nodes) index item state
      run.outcome.isRefused = true →
        (state.afterItem own run).tally.included = state.tally.included +
            keptAmong (visitNodes env (itemScope scope index item) true nodes state.ledger) ∧
          (Blueprint.PlanNode.areFlat nodes = true →
            (state.afterItem own run).tally.included = state.tally.included) := by
  constructor
  · intro slot ledger
    have hcount := (included_fillSlot env slot ledger).trans (Visit.keptAmong_eq _)
    refine ⟨hcount, fun hshallow => ?_⟩
    rw [hcount, lostAmong_visitSlot env hshallow, Nat.add_zero]
  · intro header nodes scope own index item state run hrefused
    have hgrows : (state.afterItem own run).tally.included = state.tally.included +
        keptAmong (visitNodes env (itemScope scope index item) true nodes state.ledger) := by
      rw [included_afterItem, hrefused, tally_itemRun]
      exact congrArg (state.tally.included + ·)
        (included_runNodes env (itemScope scope index item) true nodes state.ledger)
    refine ⟨hgrows, fun hflat => ?_⟩
    rw [hgrows, visitNodes_of_areFlat env _ true hflat state.ledger]
    rfl

end Render

namespace Sample

open Render Visit

/-- The template of the loop over tales. -/
def talesTemplate : Template where
  id := "tales"
  task := "chat"
  name := "Tales"
  version := 1
  layout := [.slot ⟨"tales", none, none, none⟩]
  slots := [("tales", ⟨0, none, none,
    [.forEach ⟨⟨none, .null, some "tales"⟩, .ascending, none, none, .appending, none, none, false⟩
      [.forEach ⟨⟨none, .null, some "item"⟩, .ascending, none, none, .appending, none, none, true⟩
        [.message ⟨.user, some "\x7b\x7bitem\x7d\x7d", none, none, none⟩],
      .message ⟨.user, some "so", none, none, some 1⟩,
      .message ⟨.user, some "end.", none, none, none⟩]], .null⟩)]
  attachments := []

/-- The slot of the tales. -/
def talesSlot : Blueprint.Slot :=
  ⟨"tales", 0, none, none, [.forEach talesLoop taleNodes], .null, 0⟩

/-- The blueprint of the loop over tales. -/
def tales : Blueprint where
  id := "tales"
  task := "chat"
  name := "Tales"
  version := 1
  layout := [.slot ⟨"tales", 0, none, none, true⟩]
  slots := [talesSlot]
  order := [0]
  lanes := []

/-- What is left of a tale without its parts: the end. -/
def endNodes : List Blueprint.PlanNode := taleNodes.drop 2

/-- The slot of the tales if only their ends are told. -/
def endsSlot : Blueprint.Slot := { talesSlot with plan := [.forEach talesLoop endNodes] }

/-- The loop over the tales before the first of them, with no room for an end. -/
def endsStart : LoopState :=
  LoopState.start talesEnvironment talesLoop talesEnvironment.root (Ledger.ofCapacity 3)

/-- The run of an end that does not fit. -/
def firstEnd : Step :=
  itemRun talesEnvironment talesLoop talesEnvironment.root (bodyOf talesEnvironment endNodes) 0
    .null endsStart

end Sample

namespace Render

open Sample in
/-- Of the tales two items are part of the messages, and two are lost with the first tale. Where
only the ends are told, one is counted, and none of those that do not fit. -/
theorem included_eq_admitted_add_lost_tales :
    (fillSlot talesEnvironment talesSlot (Ledger.ofCapacity 5)).1.stats.tally.included = 2 + 2 ∧
      (fillSlot talesEnvironment endsSlot (Ledger.ofCapacity 5)).1.stats.tally.included = 1 ∧
      firstTale.outcome.isRefused = true ∧
      (talesStart.afterItem none firstTale).tally.included = 0 + 2 ∧
      firstEnd.outcome.isRefused = true ∧
      (endsStart.afterItem none firstEnd).tally.included = 0 := by
  obtain ⟨hslot, hitem⟩ := included_eq_admitted_add_lost talesEnvironment
  have hrefusedTale : firstTale.outcome.isRefused = true := by decide +kernel
  have hrefusedEnd : firstEnd.outcome.isRefused = true := by decide +kernel
  have htale := (hitem talesLoop taleNodes talesEnvironment.root none 0
    (.array [.string "a", .string "b"]) talesStart hrefusedTale).1
  have hend := (hitem talesLoop endNodes talesEnvironment.root none 0 .null endsStart
    hrefusedEnd).2 rfl
  refine ⟨(hslot talesSlot _).1.trans (by decide +kernel),
    ((hslot endsSlot _).2 rfl).trans (by decide +kernel), hrefusedTale,
    htale.trans (by decide +kernel), hrefusedEnd, hend⟩

end Render

namespace Sample

open Render Visit

/-- An item may be counted as included although it is part of no message: the loop inside the first
tale keeps two parts, the tale is dropped with them, and both stay counted. The document of the
template satisfies the schema and is compiled. -/
theorem exists_included_of_dropped :
    ((Compiler.fresh none).compileDocument talesTemplate.toJson).1 = .ok tales ∧
      firstTale.outcome.isRefused = true ∧ talesStart.tally.included = 0 ∧
      (talesStart.afterItem none firstTale).tally.included = 2 ∧
      (render talesEnvironment tales .none 5).map (fun prompt =>
          (prompt.messages.map Message.said,
            prompt.report.slots.map fun stats => stats.tally.included)) =
        .ok ([(.user, "c"), (.user, "end.")], [4]) ∧
      admittedAmong (visitSlot talesEnvironment talesSlot (Ledger.ofCapacity 5)) = 2 :=
  ⟨by cbv, by decide +kernel, rfl, by decide +kernel, by decide +kernel, by decide +kernel⟩

end Sample

end ChatPrompt
