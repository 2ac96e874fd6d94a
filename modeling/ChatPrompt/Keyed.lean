/-!
# Values under keys

Lists of pairs as tables. Putting a value under a key keeps the list in the order of its
keys, which is the order of their characters, and replaces what was there; so a table that is
built this way holds each key once.
-/

namespace ChatPrompt.Keyed

variable {α : Type}

/-- Puts a value under a key. -/
def insert (key : String) (value : α) : List (String × α) → List (String × α)
  | [] => [(key, value)]
  | (k, v) :: rest =>
    if key < k then (key, value) :: (k, v) :: rest
    else if key = k then (key, value) :: rest
    else (k, v) :: insert key value rest

/-- The entries in the order of their keys, each key once and with its last value. -/
def ordered (entries : List (String × α)) : List (String × α) :=
  entries.foldl (fun table entry => insert entry.1 entry.2 table) []

/-- A value that was put under a key is found there. -/
theorem lookup_insert (key : String) (value : α) (entries : List (String × α)) :
    (insert key value entries).lookup key = some value := by
  induction entries with
  | nil => simp [insert]
  | cons entry rest ih =>
    obtain ⟨k, v⟩ := entry
    by_cases hlt : key < k
    · simp [insert, hlt]
    · by_cases heq : key = k
      · simp [insert, heq]
      · have hne : (key == k) = false := by simpa using heq
        simp [insert, hlt, heq, List.lookup_cons, hne, ih]

/-- What lies under other keys is not touched. -/
theorem lookup_insert_of_ne (key other : String) (value : α) (entries : List (String × α))
    (h : other ≠ key) : (insert key value entries).lookup other = entries.lookup other := by
  have hkey : (other == key) = false := by simpa using h
  induction entries with
  | nil => simp [insert, List.lookup_cons, hkey]
  | cons entry rest ih =>
    obtain ⟨k, v⟩ := entry
    by_cases hlt : key < k
    · simp [insert, hlt, List.lookup_cons, hkey]
    · by_cases heq : key = k
      · subst heq
        simp [insert, List.lookup_cons, hkey]
      · simp [insert, hlt, heq, List.lookup_cons, ih]

/-- What is there under a key that nothing else has is found under it. -/
theorem lookup_of_mem {κ : Type} [BEq κ] [LawfulBEq κ] {entries : List (κ × α)}
    (hnodup : (entries.map Prod.fst).Nodup) {entry : κ × α} (hentry : entry ∈ entries) :
    entries.lookup entry.1 = some entry.2 := by
  induction entries with
  | nil => cases hentry
  | cons first rest ih =>
    obtain ⟨hfresh, hnodup⟩ := List.nodup_cons.1 hnodup
    rcases List.mem_cons.1 hentry with rfl | hin
    · exact List.lookup_cons_self
    · have hne : entry.1 ≠ first.1 :=
        fun heq => hfresh (heq ▸ List.mem_map.2 ⟨entry, hin, rfl⟩)
      have hbeq : (entry.1 == first.1) = false := by simpa using hne
      rw [List.lookup_cons, hbeq]
      exact ih hnodup hin

/-- What is found under a key is there with it. -/
theorem mem_of_lookup {κ : Type} [BEq κ] [LawfulBEq κ] {entries : List (κ × α)} {key : κ}
    {value : α} (hlookup : entries.lookup key = some value) : (key, value) ∈ entries := by
  obtain ⟨before, after, hsplit, -⟩ := List.lookup_eq_some_iff.1 hlookup
  rw [hsplit]
  exact List.mem_append_right _ List.mem_cons_self

end ChatPrompt.Keyed
