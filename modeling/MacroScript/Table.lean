/-! Tables: finite maps as lists of entries, in which a key is entered once. The view of a table is
`get?`; each operation has the lemma that says what it does to the view. -/

namespace MacroScript

/-- Entries with distinct keys; the newest comes first. -/
structure Table (α β : Type) where
  entries : List (α × β) := []
  deriving DecidableEq

namespace Table

variable {α β : Type} [DecidableEq α]

def find? (key : α) : List (α × β) → Option β
  | [] => none
  | (k, v) :: rest => if k = key then some v else find? key rest

def get? (table : Table α β) (key : α) : Option β := find? key table.entries

def erase (table : Table α β) (key : α) : Table α β := ⟨table.entries.filter (·.1 ≠ key)⟩

def set (table : Table α β) (key : α) (value : β) : Table α β :=
  ⟨(key, value) :: (table.erase key).entries⟩

theorem find?_filter_ne (entries : List (α × β)) (key other : α) :
    find? other (entries.filter (·.1 ≠ key)) =
      if key = other then none else find? other entries := by
  induction entries with
  | nil => simp [find?]
  | cons e rest ih =>
    obtain ⟨k, v⟩ := e
    simp only [List.filter_cons]
    by_cases hk : k = key
    · subst hk
      by_cases ho : k = other <;> simp_all [find?]
    · by_cases ho : k = other
      · subst ho
        simp [find?, hk, Ne.symm hk]
      · by_cases hko : key = other <;> simp_all [find?]

@[simp] theorem get?_empty (key : α) : (⟨[]⟩ : Table α β).get? key = none := rfl

theorem get?_erase (table : Table α β) (key other : α) :
    (table.erase key).get? other = if key = other then none else table.get? other :=
  find?_filter_ne table.entries key other

theorem get?_of_erase {table : Table α β} {key other : α} {value : β}
    (h : (table.erase key).get? other = some value) : table.get? other = some value := by
  rw [get?_erase] at h
  split at h
  · cases h
  · exact h

theorem get?_set (table : Table α β) (key other : α) (value : β) :
    (table.set key value).get? other = if key = other then some value else table.get? other := by
  show (if key = other then some value else (table.erase key).get? other) = _
  by_cases h : key = other <;> simp [h, get?_erase]

theorem erase_set (table : Table α β) (key : α) (value : β) :
    (table.set key value).erase key = table.erase key := by
  simp [set, erase]

theorem set_set (table : Table α β) (key : α) (value other : β) :
    (table.set key value).set key other = table.set key other := by
  simp [set, erase]

theorem mem_of_get? {table : Table α β} {key : α} {value : β} (h : table.get? key = some value) :
    (key, value) ∈ table.entries := by
  obtain ⟨entries⟩ := table
  change find? key entries = some value at h
  induction entries with
  | nil => cases h
  | cons entry entries ih =>
    obtain ⟨k, v⟩ := entry
    rw [find?] at h
    split at h
    · rename_i hkey
      cases h
      rw [hkey]
      exact List.mem_cons_self
    · exact List.mem_cons_of_mem _ (ih h)

theorem mem_set {table : Table α β} {key : α} {value : β} {entry : α × β}
    (h : entry ∈ (table.set key value).entries) :
    entry = (key, value) ∨ entry ∈ table.entries := by
  rcases List.mem_cons.mp h with rfl | hold
  · exact .inl rfl
  · exact .inr (List.mem_filter.mp hold).1

end Table

end MacroScript
