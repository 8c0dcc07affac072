import Mathlib.Data.String.Basic
import PolicyEngine.Fields

/-! Laws of insertion and merging. Entries of different keys can be added in any order, and reading a
key sees only the entries of that key. -/
namespace PolicyEngine.Fields

variable {α : Type u}

theorem contains_iff_mem {key : String} {fields : List (String × α)} :
    contains key fields = true ↔ ∃ value, (key, value) ∈ fields := by
  induction fields with
  | nil => simp [contains]
  | cons entry rest ih =>
    obtain ⟨k, v⟩ := entry
    by_cases h : k = key
    · subst h
      simp [contains]
    · have hne : key ≠ k := fun heq => h heq.symm
      simpa [contains, h, hne] using ih

/-- Two lists of entries that read alike at some keys. -/
def Agree (keys : List String) (fields others : List (String × α)) : Prop :=
  ∀ key ∈ keys, get? key fields = get? key others

theorem Agree.mono {small large : List String} {fields others : List (String × α)}
    (h : Agree large fields others) (hsub : small ⊆ large) : Agree small fields others :=
  fun key hkey => h key (hsub hkey)

theorem Agree.insert {keys : List String} {fields others : List (String × α)}
    (h : Agree keys fields others) (key : String) (value : α) :
    Agree keys (insert key value fields) (insert key value others) := by
  intro k hk
  rw [get?_insert, get?_insert, h k hk]

private theorem insert_insert_of_lt {j k : String} (hjk : j < k) (v w : α) (fields : List (String × α)) :
    insert j v (insert k w fields) = insert k w (insert j v fields) := by
  have hne : k ≠ j := hjk.ne'
  have hkj : ¬ k < j := lt_asymm hjk
  induction fields with
  | nil => simp [Fields.insert, hjk, hkj, hne]
  | cons entry rest ih =>
    obtain ⟨key, value⟩ := entry
    rcases lt_trichotomy k key with hk | rfl | hk
    · have hj : j < key := lt_trans hjk hk
      simp [Fields.insert, hk, hj, hjk, hkj, hne]
    · simp [Fields.insert, hjk, hkj, hne]
    · have hk' : ¬ k < key ∧ k ≠ key := ⟨lt_asymm hk, hk.ne'⟩
      rcases lt_trichotomy j key with hj | rfl | hj
      · simp [Fields.insert, hj, hk', hkj, hne]
      · simp [Fields.insert, hkj, hne]
      · have hj' : ¬ j < key ∧ j ≠ key := ⟨lt_asymm hj, hj.ne'⟩
        simp [Fields.insert, hj', hk', ih]

theorem insert_comm {j k : String} (h : j ≠ k) (v w : α) (fields : List (String × α)) :
    insert j v (insert k w fields) = insert k w (insert j v fields) := by
  rcases lt_or_gt_of_ne h with hlt | hgt
  · exact insert_insert_of_lt hlt v w fields
  · exact (insert_insert_of_lt hgt w v fields).symm

theorem merge_append (fields first later : List (String × α)) :
    merge fields (first ++ later) = merge (merge fields first) later := by
  simp [merge]

theorem merge_insert_comm {key : String} {later : List (String × α)} (h : ∀ p ∈ later, p.1 ≠ key)
    (value : α) (fields : List (String × α)) :
    merge (insert key value fields) later = insert key value (merge fields later) := by
  induction later generalizing fields with
  | nil => rfl
  | cons p rest ih =>
    rw [merge_cons, merge_cons, insert_comm (h p List.mem_cons_self)]
    exact ih (fun q hq => h q (List.mem_cons_of_mem p hq)) _

/-- Entries without a common key can be added in either order. -/
theorem merge_comm {first later : List (String × α)} (h : ∀ p ∈ first, ∀ q ∈ later, p.1 ≠ q.1)
    (fields : List (String × α)) : merge (merge fields first) later = merge (merge fields later) first := by
  induction first generalizing fields with
  | nil => rfl
  | cons p rest ih =>
    have hp : ∀ q ∈ later, q.1 ≠ p.1 := fun q hq => (h p List.mem_cons_self q hq).symm
    rw [merge_cons, ih fun q hq => h q (List.mem_cons_of_mem p hq), merge_cons,
      merge_insert_comm hp]

theorem get?_merge_of_notMem {key : String} {later : List (String × α)} (h : ∀ p ∈ later, p.1 ≠ key)
    (fields : List (String × α)) : get? key (merge fields later) = get? key fields := by
  induction later generalizing fields with
  | nil => rfl
  | cons p rest ih =>
    rw [merge_cons, ih fun q hq => h q (List.mem_cons_of_mem p hq)]
    exact get?_insert_of_ne (h p List.mem_cons_self) p.2 fields

theorem Agree.merge {keys : List String} {fields others : List (String × α)}
    (h : Agree keys fields others) (later : List (String × α)) :
    Agree keys (merge fields later) (merge others later) := by
  induction later generalizing fields others with
  | nil => exact h
  | cons p rest ih => exact ih (h.insert p.1 p.2)

/-- Adding entries changes nothing at the keys that none of them has. -/
theorem agree_merge {keys : List String} {later : List (String × α)} (h : ∀ p ∈ later, p.1 ∉ keys)
    (fields : List (String × α)) : Agree keys fields (Fields.merge fields later) := by
  intro key hkey
  refine (get?_merge_of_notMem (fun p hp heq => ?_) fields).symm
  exact h p hp (heq ▸ hkey)

/-! Order of keys -/

/-- Order is a matter of the keys alone. -/
theorem Ascending.of_keys {β : Type v} {fields : List (String × α)} {others : List (String × β)} (h : Ascending fields)
    (hkeys : others.map Prod.fst = fields.map Prod.fst) : Ascending others := by
  have hfields : (fields.map Prod.fst).Pairwise (· < ·) := List.pairwise_map.2 h
  rw [← hkeys] at hfields
  exact List.pairwise_map.1 hfields

theorem mem_of_mem_ofPairs {p : String × α} {pairs : List (String × α)} (h : p ∈ ofPairs pairs) : p ∈ pairs := by
  rcases mem_of_mem_merge h with hp | hp
  · cases hp
  · exact hp

theorem insert_of_lt {key : String} {fields : List (String × α)} (h : ∀ p ∈ fields, p.1 < key) (value : α) :
    insert key value fields = fields ++ [(key, value)] := by
  induction fields with
  | nil => rfl
  | cons entry rest ih =>
    obtain ⟨k, v⟩ := entry
    have hk : k < key := h _ List.mem_cons_self
    rw [Fields.insert, if_neg (lt_asymm hk), if_neg hk.ne', ih fun p hp => h p (List.mem_cons_of_mem _ hp)]
    rfl

/-- The later of two entries under one key counts. -/
theorem insert_insert_self (key : String) (v w : α) (fields : List (String × α)) :
    insert key w (insert key v fields) = insert key w fields := by
  induction fields with
  | nil => simp [Fields.insert]
  | cons entry rest ih =>
    obtain ⟨k, u⟩ := entry
    rcases lt_trichotomy key k with hlt | rfl | hgt
    · simp [Fields.insert, hlt]
    · simp [Fields.insert]
    · simp [Fields.insert, lt_asymm hgt, hgt.ne', ih]

theorem Ascending.get?_of_mem {fields : List (String × α)} (h : Ascending fields) {key : String} {value : α}
    (hmem : (key, value) ∈ fields) : get? key fields = some value := by
  induction fields with
  | nil => cases hmem
  | cons entry rest ih =>
    obtain ⟨k, v⟩ := entry
    obtain ⟨hfirst, hrest⟩ := List.pairwise_cons.1 h
    rw [get?_cons]
    rcases List.mem_cons.1 hmem with heq | hmem
    · cases heq
      exact if_pos rfl
    · have hlt : k < key := hfirst _ hmem
      rw [if_neg hlt.ne, ih hrest hmem]

/-- An entry that is there already is put where it is. -/
theorem insert_eq_self {key : String} {value : α} {fields : List (String × α)} (h : Ascending fields)
    (hget : get? key fields = some value) : insert key value fields = fields := by
  induction fields with
  | nil => cases hget
  | cons entry rest ih =>
    obtain ⟨k, v⟩ := entry
    obtain ⟨hfirst, hrest⟩ := List.pairwise_cons.1 h
    rw [get?_cons] at hget
    split at hget
    · next heq =>
      cases hget
      subst heq
      simp [Fields.insert]
    · have hlt : k < key := hfirst _ (mem_of_get? hget)
      rw [Fields.insert, if_neg (lt_asymm hlt), if_neg hlt.ne', ih hrest hget]

/-- Pairs in ascending order of keys behind all others are entries already. -/
theorem merge_of_ascending {fields pairs : List (String × α)} (h : Ascending (fields ++ pairs)) :
    merge fields pairs = fields ++ pairs := by
  induction pairs generalizing fields with
  | nil => exact (List.append_nil fields).symm
  | cons p rest ih =>
    have hlt : ∀ q ∈ fields, q.1 < p.1 := fun q hq => (List.pairwise_append.1 h).2.2 q hq p List.mem_cons_self
    have hsplit : fields ++ p :: rest = fields ++ [(p.1, p.2)] ++ rest := by simp
    rw [merge_cons, insert_of_lt hlt, ih (hsplit ▸ h), hsplit]

theorem ofPairs_of_ascending {pairs : List (String × α)} (h : Ascending pairs) : ofPairs pairs = pairs :=
  merge_of_ascending h

/-! Reading what was merged -/

/-- Entries in order are told by what is read of them. -/
theorem Ascending.ext {fields others : List (String × α)} (h : Ascending fields) (hothers : Ascending others)
    (hget : ∀ key, get? key fields = get? key others) : fields = others := by
  have hmem : ∀ p, p ∈ fields ↔ p ∈ others := by
    intro p
    constructor
    · intro hp
      exact mem_of_get? ((hget p.1).symm.trans (h.get?_of_mem hp))
    · intro hp
      exact mem_of_get? ((hget p.1).trans (hothers.get?_of_mem hp))
  have hnodup : ∀ {entries : List (String × α)}, Ascending entries → entries.Nodup := by
    intro entries hentries
    exact hentries.imp fun hlt heq => hlt.ne (congrArg Prod.fst heq)
  have hperm : fields.Perm others := (List.perm_ext_iff_of_nodup (hnodup h) (hnodup hothers)).2 fun {p} => hmem p
  exact hperm.eq_of_pairwise (fun p q _ _ hpq hqp => absurd hqp (lt_asymm hpq)) h hothers

end PolicyEngine.Fields
