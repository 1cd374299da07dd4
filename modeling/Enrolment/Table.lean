/-
Finite tables: each key has at most one value. A value inserted under a known
key takes the place of the one before; a new key goes to the end.
-/

namespace Enrolment

structure Table (κ α : Type) where
  entries : List (κ × α)
  distinct : (entries.map Prod.fst).Nodup

namespace Table

variable {κ α : Type} [DecidableEq κ]

def empty : Table κ α := { entries := [], distinct := List.nodup_nil }

def get? (table : Table κ α) (key : κ) : Option α :=
  (table.entries.find? fun entry => entry.1 = key).map Prod.snd

def size (table : Table κ α) : Nat :=
  table.entries.length

/-- The entry with the new value, if it is the one under the key. -/
def replaceEntry (key : κ) (value : α) (entry : κ × α) : κ × α :=
  if entry.1 = key then (key, value) else entry

omit [DecidableEq κ] in
theorem notMem_of_find?_eq_none {entries : List (κ × α)} {test : κ × α → Bool} {key : κ}
    (found : entries.find? test = none) (holds : ∀ value, test (key, value) = true) :
    key ∉ entries.map Prod.fst := by
  intro member
  obtain ⟨entry, inside, rfl⟩ := List.mem_map.1 member
  exact List.find?_eq_none.1 found entry inside (holds entry.2)

theorem map_fst_replaceEntry (key : κ) (value : α) (entries : List (κ × α)) :
    (entries.map (replaceEntry key value)).map Prod.fst = entries.map Prod.fst := by
  rw [List.map_map]
  apply List.map_congr_left
  intro entry _
  by_cases same : entry.1 = key
  · simp [replaceEntry, same]
  · simp [replaceEntry, same]

def insert (table : Table κ α) (key : κ) (value : α) : Table κ α :=
  match found : table.entries.find? fun entry => entry.1 = key with
  | some _ =>
      { entries := table.entries.map (replaceEntry key value)
        distinct := by rw [map_fst_replaceEntry]; exact table.distinct }
  | none =>
      { entries := table.entries ++ [(key, value)]
        distinct := by
          have absent : key ∉ table.entries.map Prod.fst :=
            notMem_of_find?_eq_none found (by simp)
          rw [List.map_append, List.nodup_append]
          refine ⟨table.distinct, by simp, ?_⟩
          intro first firstInside second secondInside same
          simp only [List.map_cons, List.map_nil, List.mem_singleton] at secondInside
          exact absent (secondInside ▸ same ▸ firstInside) }

/-! ### Reading after insertion -/

theorem find?_map_replace {entries : List (κ × α)} (key other : κ) (value : α)
    (differ : other ≠ key) :
    (entries.map (replaceEntry key value)).find? (fun entry => entry.1 = other) =
      entries.find? fun entry => entry.1 = other := by
  induction entries with
  | nil => rfl
  | cons entry rest ih =>
      by_cases same : entry.1 = key
      · simp [replaceEntry, same, Ne.symm differ, ih]
      · by_cases hit : entry.1 = other
        · simp [replaceEntry, hit, differ]
        · simp [replaceEntry, same, hit, ih]

theorem find?_map_replace_self {entries : List (κ × α)} {key : κ} {value : α} {entry : κ × α}
    (found : entries.find? (fun entry => entry.1 = key) = some entry) :
    (entries.map (replaceEntry key value)).find? (fun entry => entry.1 = key) =
      some (key, value) := by
  induction entries with
  | nil => simp at found
  | cons first rest ih =>
      by_cases same : first.1 = key
      · simp [replaceEntry, same]
      · simp only [List.find?_cons, same, decide_false] at found
        simp [replaceEntry, same, ih found]

@[simp] theorem get?_insert_self (table : Table κ α) (key : κ) (value : α) :
    (table.insert key value).get? key = some value := by
  unfold insert get?
  split
  · next found => simp [find?_map_replace_self found]
  · next found => simp [List.find?_append, found]

theorem get?_insert_of_ne (table : Table κ α) {key other : κ} (value : α)
    (differ : other ≠ key) :
    (table.insert key value).get? other = table.get? other := by
  unfold insert get?
  split
  · simp [find?_map_replace key other value differ]
  · simp [List.find?_append, Ne.symm differ]

theorem get?_insert (table : Table κ α) (key other : κ) (value : α) :
    (table.insert key value).get? other =
      if other = key then some value else table.get? other := by
  by_cases same : other = key
  · rw [if_pos same, same, get?_insert_self]
  · rw [if_neg same, get?_insert_of_ne _ _ same]

end Table

end Enrolment
