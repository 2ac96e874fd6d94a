import ChatPrompt.Proofs.Sorting
import ChatPrompt.Proofs.Truncation

/-!
# Plans mean what they say

What a plan says is defined here without a ledger: a message says its text if that is not blank, a
branch says what its chosen side says, and a loop says what its steps say for each of its items,
laid out in its direction with the separator between two items that say something. A slot in which
nothing was refused is filled with what its plan says, neither more nor less.

The proof follows a loop item by item. What it has to show for the items so far are the messages of
each, with separators in place; the groups below are what these messages are made of.
-/

namespace ChatPrompt.Render

/-! ### What a plan says -/

/-- What an item of a loop says, with the separator that is due between it and the items before. -/
structure Group where
  /-- The separator, if there is one and it is not blank. -/
  separator : Option Entry
  /-- The messages. -/
  entries : List Entry

/-- The messages of a loop: each group after those before it or, if the loop prepends, before them,
with its separator in between. -/
def laid : Template.Filling → List Group → List Entry
  | _, [] => []
  | .appending, first :: rest =>
    first.entries ++ rest.flatMap fun group => group.separator.toList ++ group.entries
  | .prepending, first :: rest =>
    (rest.reverse.flatMap fun group => group.entries ++ group.separator.toList) ++ first.entries

variable (env : Environment)

/-- What a message says in a scope, under its key: one message, or nothing if its text is blank. -/
def messageEntries (scope : Scope) (message : Blueprint.Message) : List Entry :=
  (Text.contentful? (env.text scope message.content)).toList.map fun text =>
    ⟨Message.of message.role text, anchorKey scope message.anchor⟩

/-- The separator of a loop in the scope of an item, unless it is blank there. -/
def separatorEntry (header : Blueprint.Loop) (scope : Scope) : Option Entry :=
  header.separator.bind fun frame =>
    (Text.contentful? (frame.content.render scope)).map fun text =>
      ⟨Message.of frame.role text, none⟩

/-- The groups of the items that say something, given what an item says in its scope. -/
def groupsFrom (header : Blueprint.Loop) (scope : Scope) (body : Scope → List Entry)
    (index : Nat) : List Json → List Group
  | [] => []
  | item :: rest =>
    match body (itemScope scope index item) with
    | [] => groupsFrom header scope body (index + 1) rest
    | entries => ⟨separatorEntry header (itemScope scope index item), entries⟩ ::
        groupsFrom header scope body (index + 1) rest

mutual

/-- What a step of a plan says in a scope. -/
def expandNode (scope : Scope) : Blueprint.PlanNode → List Entry
  | .message details => messageEntries env scope details
  | .forEach header body =>
    laid header.filling (groupsFrom header scope (fun inner => expandNodes inner body) 0
      (loopItems env scope header))
  | .branch condition whenTrue whenFalse =>
    if env.holds scope condition then expandNodes scope whenTrue
    else expandNodes scope whenFalse

/-- What steps of a plan say in a scope, one after the other. -/
def expandNodes (scope : Scope) : List Blueprint.PlanNode → List Entry
  | [] => []
  | node :: rest => expandNode scope node ++ expandNodes scope rest

end

/-- The messages of a group that is not the first. -/
def Group.joined (filling : Template.Filling) (group : Group) : List Entry :=
  match group.separator with
  | none => group.entries
  | some separator => withSeparator filling separator group.entries

/-- The messages of each group, the first without its separator. -/
def joinedGroups (filling : Template.Filling) : List Group → List (List Entry)
  | [] => []
  | first :: rest => first.entries :: rest.map (Group.joined filling)

/-- The full group of an item, given what the item says: its messages, with the separator that is
due between them and those of the items before. An item that says nothing has no separator. -/
def fullGroup (header : Blueprint.Loop) (inner : Scope) (isFirst : Bool) (said : List Entry) :
    List Entry :=
  if said.isEmpty || isFirst then said
  else (Group.mk (separatorEntry header inner) said).joined header.filling

/-- The group that an item adds to those of a loop, if it says something. -/
def spokenGroup (header : Blueprint.Loop) (inner : Scope) (said : List Entry) : List Group :=
  if said.isEmpty then [] else [⟨separatorEntry header inner, said⟩]

/-- The first item comes first. -/
theorem groupsFrom_cons (header : Blueprint.Loop) (scope : Scope) (body : Scope → List Entry)
    (index : Nat) (item : Json) (rest : List Json) :
    groupsFrom header scope body index (item :: rest) =
      spokenGroup header (itemScope scope index item) (body (itemScope scope index item)) ++
        groupsFrom header scope body (index + 1) rest := by
  rw [groupsFrom, spokenGroup]
  cases body (itemScope scope index item) <;> rfl

/-- The messages of all groups in the order of the loop are laid out. -/
theorem arranged_joinedGroups (filling : Template.Filling) (groups : List Group) :
    arranged filling (joinedGroups filling groups) = laid filling groups := by
  cases groups with
  | nil => cases filling <;> rfl
  | cons first rest =>
    cases filling with
    | appending =>
      have hjoined : Group.joined .appending =
          fun group => group.separator.toList ++ group.entries := by
        funext ⟨separator, entries⟩
        cases separator <;> rfl
      simp [arranged, joinedGroups, laid, List.flatMap_def, hjoined]
    | prepending =>
      have hjoined : Group.joined .prepending =
          fun group => group.entries ++ group.separator.toList := by
        funext ⟨separator, entries⟩
        cases separator with
        | none => exact (List.append_nil _).symm
        | some separator => rfl
      simp [arranged, joinedGroups, laid, List.flatMap_def, hjoined, ← List.map_reverse]

/-- One more group comes after the others. -/
theorem joinedGroups_concat (filling : Template.Filling) (groups : List Group) (group : Group) :
    joinedGroups filling (groups ++ [group]) = joinedGroups filling groups ++
      [if groups.isEmpty then group.entries else group.joined filling] := by
  cases groups <;> simp [joinedGroups]

/-- There are messages of groups where there are groups. -/
theorem isEmpty_joinedGroups (filling : Template.Filling) (groups : List Group) :
    (joinedGroups filling groups).isEmpty = groups.isEmpty := by
  cases groups <;> rfl

/-- There is something where there is a separator. -/
theorem isEmpty_withSeparator (filling : Template.Filling) (separator : Entry)
    (group : List Entry) : (withSeparator filling separator group).isEmpty = false := by
  cases filling <;> simp [withSeparator]

/-- The full group of an item is empty just if the item says nothing. -/
theorem isEmpty_fullGroup (header : Blueprint.Loop) (inner : Scope) (isFirst : Bool)
    (said : List Entry) : (fullGroup header inner isFirst said).isEmpty = said.isEmpty := by
  rw [fullGroup]
  split
  · rfl
  · next hdue =>
    rw [Group.joined]
    cases separatorEntry header inner with
    | none => rfl
    | some separator =>
      dsimp only
      rw [isEmpty_withSeparator]
      simp_all

/-- The full group of an item comes after the messages of the groups before it, if it says
something. -/
theorem joinedGroups_append_spokenGroup (header : Blueprint.Loop) (inner : Scope)
    (groups : List Group) (said : List Entry) :
    joinedGroups header.filling (groups ++ spokenGroup header inner said) =
      joinedGroups header.filling groups ++
        [fullGroup header inner groups.isEmpty said].filter fun group => !group.isEmpty := by
  have hempty := isEmpty_fullGroup header inner groups.isEmpty said
  rw [spokenGroup]
  cases hsaid : said.isEmpty with
  | true => simp [hempty, hsaid]
  | false =>
    have hfull : fullGroup header inner groups.isEmpty said =
        if groups.isEmpty then said
        else (Group.mk (separatorEntry header inner) said).joined header.filling := by
      rw [fullGroup, hsaid, Bool.false_or]
    rw [if_neg Bool.false_ne_true, joinedGroups_concat, ← hfull]
    simp [hempty, hsaid]

/-- After an item that is kept, a loop has one more group of messages, unless that is empty. -/
theorem groups_keep (state : LoopState) (run : Step) :
    (state.keep run).groups =
      state.groups ++ [run.entries].filter fun group => !group.isEmpty := by
  rw [LoopState.keep]
  cases hempty : run.entries.isEmpty <;> simp [hempty]

/-- After an item that is kept, a loop has messages if it had some or the item has. -/
theorem isEmpty_groups_keep (state : LoopState) (run : Step) :
    (state.keep run).groups.isEmpty = (state.groups.isEmpty && run.entries.isEmpty) := by
  rw [groups_keep]
  cases hempty : run.entries.isEmpty <;> simp [hempty]

variable {env}

/-- The separator that is due before an item that says something, unless it is the first. -/
theorem separatorOf_eq (header : Blueprint.Loop) (scope : Scope) {groups : List (List Entry)}
    {group : List Entry} (h : (group.isEmpty || groups.isEmpty) = false) :
    (separatorOf header scope groups group).map (fun message => (⟨message, none⟩ : Entry)) =
      separatorEntry header scope := by
  rw [separatorOf, separatorEntry, h]
  cases header.separator with
  | none => rfl
  | some frame => simp [Function.comp_def]

/-- The messages of an item that is not given up are its full group. -/
theorem entries_separate {header : Blueprint.Loop} {scope : Scope} {groups : List (List Entry)}
    {run : Step} (h : (separate env header scope groups run).outcome.isRefused = false) :
    (separate env header scope groups run).entries =
      fullGroup header scope groups.isEmpty run.entries := by
  rw [separate] at h ⊢
  split at h
  · next hrefused =>
    rw [hrefused] at h
    cases h
  · next hgoes =>
    rw [if_neg hgoes, fullGroup]
    cases hsilent : run.entries.isEmpty || groups.isEmpty with
    | true => simp [separatorOf, hsilent]
    | false =>
      have hseparator := separatorOf_eq header scope hsilent
      rw [if_neg Bool.false_ne_true, ← hseparator]
      cases hdue : separatorOf header scope groups run.entries with
      | none => rfl
      | some separator =>
        rw [hdue] at h
        dsimp only at h ⊢
        split at h
        · rfl
        · cases h

/-- An item that is kept adds the group of what it says. -/
theorem groups_take {header : Blueprint.Loop} {scope : Scope} {body : Scope → Ledger → Step}
    {index : Nat} {item : Json} {state : LoopState} {groups : List Group}
    (hstate : state.groups = joinedGroups header.filling groups)
    (h : (itemRun env header scope body index item state).outcome.isRefused = false) :
    (state.take (itemRun env header scope body index item state)).groups =
      joinedGroups header.filling (groups ++ spokenGroup header (itemScope scope index item)
        (body (itemScope scope index item) state.ledger).entries) := by
  have hentries : (itemRun env header scope body index item state).entries = _ :=
    entries_separate h
  rw [LoopState.take, h, if_neg Bool.false_ne_true, groups_keep, hentries, hstate,
    isEmpty_joinedGroups, joinedGroups_append_spokenGroup]

/-! ### Runs that refuse nothing -/

/-- A message that is not refused says what it says. -/
theorem entries_say_of_isQuiet {scope : Scope} {message : Blueprint.Message} {ledger : Ledger}
    (h : (say env scope message ledger).IsQuiet) :
    (say env scope message ledger).entries = messageEntries env scope message := by
  rw [messageEntries]
  rw [say] at h ⊢
  cases htext : Text.contentful? (env.text scope message.content) with
  | none => rfl
  | some text =>
    rw [htext] at h
    dsimp only at h ⊢
    cases hspend : (ledger.openCap? message.budget).2.spend (env.estimate text) with
    | ok charged => rfl
    | error refusal =>
      -- a refusal is either contained, and counted, or passed on
      rw [hspend] at h
      dsimp only at h
      split at h
      · cases h.untruncated
      · cases h.unsignalled

/-- A loop that refuses nothing has, after its items, the groups that it had before and those of
the items, if it is so with what is done for an item. -/
theorem groups_takeItems {header : Blueprint.Loop} {own : Option Nat} {scope : Scope}
    {body : Scope → Ledger → Step} {expand : Scope → List Entry}
    (hbody : ∀ inner before, (body inner before).IsQuiet →
      (body inner before).entries = expand inner)
    (items : List Json) (index : Nat) {state : LoopState} {groups : List Group}
    (hstate : state.groups = joinedGroups header.filling groups)
    (h : (takeItems env header own scope body items index state).tally.truncated = false) :
    (takeItems env header own scope body items index state).groups =
      joinedGroups header.filling (groups ++ groupsFrom header scope expand index items) := by
  induction items generalizing index state groups with
  | nil =>
    rw [groupsFrom, List.append_nil]
    exact hstate
  | cons item rest ih =>
    rw [takeItems_cons] at h ⊢
    cases hlevel : (itemRun env header scope body index item state).outcome.level? with
    | some level =>
      -- a refusal would be noted, and stay noted to the end
      rw [hlevel] at h
      dsimp only at h
      split at h
      · simp [LoopState.stop, LoopState.note, Tally.add] at h
      · have hnoted := untruncated_of_takeItems env h
        simp [LoopState.note, Tally.add] at hnoted
    | none =>
      rw [hlevel] at h
      dsimp only at h ⊢
      have htaken := untruncated_of_takeItems env h
      rw [truncated_take, Bool.or_eq_false_iff] at htaken
      have hitem : (itemRun env header scope body index item state).IsQuiet := ⟨htaken.2, hlevel⟩
      have hsaying := hbody (itemScope scope index item) state.ledger
        (isQuiet_of_separate env header (itemScope scope index item) state.groups hitem)
      have hnext := groups_take hstate (isRefused_of_level?_eq_none hlevel)
      rw [hsaying] at hnext
      rw [groupsFrom_cons, ← List.append_assoc]
      exact ih (index + 1) hnext h

mutual

/-- A step of a plan in which nothing is refused does what it says. -/
theorem entries_runNode_of_isQuiet (scope : Scope) (atomic : Bool) (node : Blueprint.PlanNode)
    {ledger : Ledger} (h : (runNode env scope atomic node ledger).IsQuiet) :
    (runNode env scope atomic node ledger).entries = expandNode env scope node := by
  match node with
  | .message details =>
    rw [expandNode]
    exact entries_say_of_isQuiet h
  | .forEach header body =>
    rw [runNode, runLoop_eq] at h ⊢
    rw [expandNode, ← arranged_joinedGroups]
    have hstart : (LoopState.start env header scope ledger).groups =
        joinedGroups header.filling [] := rfl
    have hgroups := groups_takeItems
      (fun inner before hquiet => entries_runNodes_of_isQuiet inner true body hquiet)
      (loopItems env scope header) 0 hstart h.untruncated
    exact congrArg (arranged header.filling) hgroups
  | .branch condition whenTrue whenFalse =>
    rw [runNode] at h ⊢
    rw [expandNode]
    split at h
    · next hholds =>
      rw [if_pos hholds, if_pos hholds]
      exact entries_runNodes_of_isQuiet scope atomic whenTrue h
    · next hfails =>
      rw [if_neg hfails, if_neg hfails]
      exact entries_runNodes_of_isQuiet scope atomic whenFalse h

/-- Steps of a plan in which nothing is refused do what they say. -/
theorem entries_runNodes_of_isQuiet (scope : Scope) (atomic : Bool)
    (nodes : List Blueprint.PlanNode) {ledger : Ledger}
    (h : (runNodes env scope atomic nodes ledger).IsQuiet) :
    (runNodes env scope atomic nodes ledger).entries = expandNodes env scope nodes := by
  match nodes with
  | [] => rfl
  | node :: rest =>
    rw [runNodes_cons] at h ⊢
    rw [expandNodes]
    by_cases hends : (atomic && (runNode env scope atomic node ledger).outcome.isRefused) = true
    · rw [if_pos hends] at h
      rw [isRefused_of_level?_eq_none h.unsignalled, Bool.and_false] at hends
      cases hends
    · rw [if_neg hends] at h ⊢
      have huntruncated := Bool.or_eq_false_iff.1 h.untruncated
      have hunsignalled := level?_followedBy_eq_none.1 h.unsignalled
      have hfirst := entries_runNode_of_isQuiet scope atomic node
        ⟨huntruncated.1, hunsignalled.1⟩
      have hothers := entries_runNodes_of_isQuiet scope atomic rest
        ⟨huntruncated.2, hunsignalled.2⟩
      rw [Step.join, hfirst, hothers]

end

variable (env)

end ChatPrompt.Render

namespace ChatPrompt.Sample

open Render

end ChatPrompt.Sample

namespace ChatPrompt.Render

end ChatPrompt.Render
