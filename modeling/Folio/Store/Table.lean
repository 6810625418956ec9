/-!
# Tables

A table keeps one value for each key. A new key goes to the end and a known key keeps its place.
`get?_insert` and `get?_erase` say what each change does to every key.
-/

namespace Folio

/-- Values by key. -/
structure Table (κ α : Type) where
  entries : List (κ × α)

namespace Table

variable {κ α : Type} [DecidableEq κ]

/-- The table without entries. -/
def empty : Table κ α := ⟨[]⟩

/-- The value of a key. -/
def get? (t : Table κ α) (key : κ) : Option α :=
  (t.entries.find? fun entry => entry.1 = key).map (·.2)

/-- Whether a key has a value. -/
def contains (t : Table κ α) (key : κ) : Bool :=
  (t.get? key).isSome

/-- Entries with a value set. -/
def set (key : κ) (value : α) : List (κ × α) → List (κ × α)
  | [] => [(key, value)]
  | entry :: rest =>
    if entry.1 = key then (key, value) :: rest else entry :: set key value rest

/-- The table with a value set. -/
def insert (t : Table κ α) (key : κ) (value : α) : Table κ α :=
  ⟨set key value t.entries⟩

/-- The table without a key. -/
def erase (t : Table κ α) (key : κ) : Table κ α :=
  ⟨t.entries.filter fun entry => entry.1 ≠ key⟩

/-- The keys, in order. -/
def keys (t : Table κ α) : List κ :=
  t.entries.map (·.1)

/-- The number of keys. -/
def size (t : Table κ α) : Nat :=
  t.entries.length

/-! ### Laws -/

theorem get?_empty (key : κ) : (empty : Table κ α).get? key = none := rfl

theorem get?_cons (entry : κ × α) (rest : List (κ × α)) (key : κ) :
    get? ⟨entry :: rest⟩ key = if entry.1 = key then some entry.2 else get? ⟨rest⟩ key := by
  by_cases same : entry.1 = key <;> simp [get?, same]

theorem get?_set (entries : List (κ × α)) (key other : κ) (value : α) :
    get? ⟨set key value entries⟩ other =
      if key = other then some value else get? ⟨entries⟩ other := by
  induction entries with
  | nil => rw [set, get?_cons]
  | cons entry rest ih =>
    rw [set]
    split
    · rename_i same
      rw [get?_cons, get?_cons, same]
      split <;> rfl
    · rename_i different
      rw [get?_cons, get?_cons, ih]
      by_cases found : entry.1 = other
      · have : key ≠ other := fun same => different (found.trans same.symm)
        simp [found, this]
      · simp [found]

/-- A key that was set has its value, and all others keep theirs. -/
theorem get?_insert (t : Table κ α) (key other : κ) (value : α) :
    (t.insert key value).get? other = if key = other then some value else t.get? other :=
  get?_set t.entries key other value

/-- A key that was erased has no value, and all others keep theirs. -/
theorem get?_erase (t : Table κ α) (key other : κ) :
    (t.erase key).get? other = if key = other then none else t.get? other := by
  obtain ⟨entries⟩ := t
  rw [erase]
  induction entries with
  | nil => split <;> rfl
  | cons entry rest ih =>
    rw [List.filter_cons, get?_cons]
    by_cases same : entry.1 = key
    · simp only [same, ne_eq, not_true_eq_false, decide_false, Bool.false_eq_true, if_false]
      rw [ih]
      split <;> rfl
    · simp only [ne_eq, same, not_false_eq_true, decide_true, if_true]
      rw [get?_cons, ih]
      by_cases found : entry.1 = other
      · have : key ≠ other := fun equal => same (found.trans equal.symm)
        simp [found, this]
      · simp [found]

theorem get?_eq_none_iff (t : Table κ α) (key : κ) : t.get? key = none ↔ key ∉ t.keys := by
  obtain ⟨entries⟩ := t
  induction entries with
  | nil => simp [get?, keys]
  | cons entry rest ih =>
    rw [get?_cons]
    simp only [keys, List.map_cons, List.mem_cons] at ih ⊢
    by_cases same : entry.1 = key
    · simp [same]
    · simp [same, ih, Ne.symm same]

/-- Setting a known key keeps the keys. -/
theorem keys_insert_known (t : Table κ α) (key : κ) (value : α) (known : key ∈ t.keys) :
    (t.insert key value).keys = t.keys := by
  obtain ⟨entries⟩ := t
  simp only [insert, keys] at known ⊢
  induction entries with
  | nil => simp at known
  | cons entry rest ih =>
    rw [set]
    split
    · rename_i same
      simp [same]
    · rename_i different
      rcases List.mem_cons.mp known with first | later
      · exact absurd first.symm different
      · rw [List.map_cons, List.map_cons, ih later]

/-- Setting a new key puts it last. -/
theorem keys_insert_new (t : Table κ α) (key : κ) (value : α) (new : key ∉ t.keys) :
    (t.insert key value).keys = t.keys ++ [key] := by
  obtain ⟨entries⟩ := t
  simp only [insert, keys] at new ⊢
  induction entries with
  | nil => rfl
  | cons entry rest ih =>
    simp only [List.map_cons, List.mem_cons, not_or] at new
    have different : ¬entry.1 = key := fun same => new.1 same.symm
    rw [set, if_neg different, List.map_cons, List.map_cons, ih new.2, List.cons_append]

theorem keys_erase (t : Table κ α) (key : κ) :
    (t.erase key).keys = t.keys.filter fun other => other ≠ key := by
  simp only [erase, keys, List.filter_map]
  rfl

/-- Setting a key to the value it has changes nothing. -/
theorem insert_stored {t : Table κ α} {key : κ} {value : α}
    (stored : t.get? key = some value) : t.insert key value = t := by
  obtain ⟨entries⟩ := t
  suffices same : set key value entries = entries by rw [insert, same]
  induction entries with
  | nil => cases stored
  | cons entry rest ih =>
    rw [get?_cons] at stored
    rw [set]
    split
    · rename_i here
      rw [if_pos here] at stored
      cases stored
      rw [← here]
    · rename_i elsewhere
      rw [if_neg elsewhere] at stored
      rw [ih stored]

end Table

end Folio
