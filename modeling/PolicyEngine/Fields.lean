/-! Values under text keys, as entries in ascending key order. Insertion keeps the order and gives
each key one entry. -/
namespace PolicyEngine

abbrev Fields (α : Type u) := List (String × α)

namespace Fields

variable {α : Type u} {β : Type v}

def get? (key : String) : List (String × α) → Option α
  | [] => none
  | (k, value) :: rest => if k = key then some value else get? key rest

def contains (key : String) (fields : List (String × α)) : Bool := (get? key fields).isSome

/-- Adds an entry, or replaces the one with the same key. -/
def insert (key : String) (value : α) : List (String × α) → List (String × α)
  | [] => [(key, value)]
  | (k, v) :: rest =>
    if key < k then (key, value) :: (k, v) :: rest
    else if key = k then (key, value) :: rest
    else (k, v) :: insert key value rest

/-- All pairs, a later one replacing an earlier one with its key. -/
def ofPairs (pairs : List (String × α)) : List (String × α) :=
  pairs.foldl (fun fields p => insert p.1 p.2 fields) []

/-- The entries of both, those of `later` replacing those of `fields`. -/
def merge (fields later : List (String × α)) : List (String × α) :=
  later.foldl (fun acc p => insert p.1 p.2 acc) fields

def mapValues (f : α → β) (fields : List (String × α)) : List (String × β) :=
  fields.map fun p => (p.1, f p.2)

/-- Keys in strictly ascending order. -/
def Ascending (fields : List (String × α)) : Prop := fields.Pairwise (·.1 < ·.1)

instance (fields : List (String × α)) : Decidable (Ascending fields) :=
  inferInstanceAs (Decidable (fields.Pairwise (·.1 < ·.1)))

@[simp] theorem get?_nil (key : String) : get? key ([] : List (String × α)) = none := rfl

@[simp] theorem get?_cons (key k : String) (v : α) (rest : List (String × α)) :
    get? key ((k, v) :: rest) = if k = key then some v else get? key rest := rfl

theorem get?_insert (key key' : String) (value : α) (fields : List (String × α)) :
    get? key' (insert key value fields) = if key = key' then some value else get? key' fields := by
  induction fields with
  | nil => simp [insert]
  | cons entry rest ih =>
    obtain ⟨k, v⟩ := entry
    simp only [insert]
    split
    · simp
    · split
      · next h => subst h; by_cases hk : key = key' <;> simp [hk]
      · next h =>
        by_cases hk : k = key'
        · subst hk; simp [h]
        · simp [ih, hk]

@[simp] theorem get?_insert_self (key : String) (value : α) (fields : List (String × α)) :
    get? key (insert key value fields) = some value := by simp [get?_insert]

theorem get?_insert_of_ne {key key' : String} (h : key ≠ key') (value : α)
    (fields : List (String × α)) : get? key' (insert key value fields) = get? key' fields := by
  simp [get?_insert, h]

theorem mem_of_get? {key : String} {value : α} {fields : List (String × α)} (h : get? key fields = some value) :
    (key, value) ∈ fields := by
  induction fields with
  | nil => cases h
  | cons entry rest ih =>
    obtain ⟨k, v⟩ := entry
    rw [get?_cons] at h
    split at h
    · next heq =>
      cases h
      rw [heq]
      exact List.mem_cons_self
    · exact List.mem_cons_of_mem _ (ih h)

theorem mem_of_mem_insert {key : String} {value : α} {p : String × α} {fields : List (String × α)}
    (h : p ∈ insert key value fields) : p = (key, value) ∨ p ∈ fields := by
  induction fields with
  | nil => exact .inl (List.mem_singleton.1 h)
  | cons entry rest ih =>
    obtain ⟨k, v⟩ := entry
    rw [Fields.insert] at h
    split at h
    · exact List.mem_cons.1 h
    · split at h
      · rcases List.mem_cons.1 h with hp | hp
        · exact .inl hp
        · exact .inr (List.mem_cons_of_mem _ hp)
      · rcases List.mem_cons.1 h with hp | hp
        · exact .inr (hp ▸ List.mem_cons_self)
        · exact (ih hp).imp_right (List.mem_cons_of_mem _)

@[simp] theorem merge_nil (fields : List (String × α)) : merge fields [] = fields := rfl

@[simp] theorem merge_cons (fields : List (String × α)) (p : String × α) (later : List (String × α)) :
    merge fields (p :: later) = merge (insert p.1 p.2 fields) later := rfl

theorem mem_of_mem_merge {p : String × α} {fields later : List (String × α)} (h : p ∈ merge fields later) :
    p ∈ fields ∨ p ∈ later := by
  induction later generalizing fields with
  | nil => exact .inl h
  | cons q rest ih =>
    rw [merge_cons] at h
    rcases ih h with hp | hp
    · rcases mem_of_mem_insert hp with rfl | hp
      · exact .inr List.mem_cons_self
      · exact .inl hp
    · exact .inr (List.mem_cons_of_mem _ hp)

/-! Order of keys -/

theorem Ascending.insert {fields : List (String × α)} (h : Ascending fields) (key : String) (value : α) :
    Ascending (insert key value fields) := by
  induction fields with
  | nil => exact List.pairwise_singleton _ _
  | cons entry rest ih =>
    obtain ⟨k, v⟩ := entry
    obtain ⟨hk, hrest⟩ := List.pairwise_cons.1 h
    rw [Fields.insert]
    split
    · next hlt =>
      refine List.pairwise_cons.2 ⟨fun p hp => ?_, h⟩
      rcases List.mem_cons.1 hp with rfl | hp
      · exact hlt
      · exact String.lt_trans hlt (hk p hp)
    · next hnlt =>
      split
      · next heq =>
        subst heq
        exact List.pairwise_cons.2 ⟨hk, hrest⟩
      · next hne =>
        have hlt : k < key :=
          Decidable.byContradiction fun hnot => hne (String.le_antisymm hnot hnlt)
        refine List.pairwise_cons.2 ⟨fun p hp => ?_, ih hrest⟩
        rcases mem_of_mem_insert hp with rfl | hp
        · exact hlt
        · exact hk p hp

theorem Ascending.merge {fields : List (String × α)} (h : Ascending fields) (later : List (String × α)) :
    Ascending (merge fields later) := by
  induction later generalizing fields with
  | nil => exact h
  | cons p rest ih => exact ih (h.insert p.1 p.2)

theorem ascending_ofPairs (pairs : List (String × α)) : Ascending (ofPairs pairs) :=
  Ascending.merge List.Pairwise.nil pairs

end Fields

end PolicyEngine
