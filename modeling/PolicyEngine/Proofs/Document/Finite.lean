import PolicyEngine.Proofs.Document.Reread
import PolicyEngine.Proofs.Path.Update
import PolicyEngine.Rule.Coercion

/-! Documents of finite numbers. What is read at a path has no numbers but those of the document, and writing adds those
of the value that is written; so a document stays one of finite numbers exactly if such values are written. -/
namespace PolicyEngine.Value

/-- Whether no number of a document is infinite or NaN. -/
def IsFinite (v : Value) : Prop := ∀ x ∈ v.numbers, x.isFinite = true

instance (v : Value) : Decidable v.IsFinite := inferInstanceAs (Decidable (∀ x ∈ v.numbers, x.isFinite = true))

variable {v w child value : Value} {step : Segment} {way : List Segment} {x : Float}

theorem mem_itemNumbers {items : List Value} : x ∈ itemNumbers items ↔ ∃ item ∈ items, x ∈ item.numbers := by
  induction items with
  | nil => simp [itemNumbers]
  | cons item rest ih => simp [itemNumbers, ih]

theorem mem_fieldNumbers {fields : List (String × Value)} :
    x ∈ fieldNumbers fields ↔ ∃ p ∈ fields, x ∈ p.2.numbers := by
  induction fields with
  | nil => simp [fieldNumbers]
  | cons entry rest ih => simp [fieldNumbers, ih]

@[simp] theorem isFinite_number_iff : (number x).IsFinite ↔ x.isFinite = true := by simp [IsFinite, numbers]

theorem isFinite_of_numbers_eq_nil (h : v.numbers = []) : v.IsFinite := by
  unfold IsFinite
  rw [h]
  simp

theorem isFinite_of_isScalar (hscalar : v.isScalar = true) (h : ∀ x, v = .number x → x.isFinite = true) :
    v.IsFinite := by
  cases v with
  | number x => exact isFinite_number_iff.2 (h x rfl)
  | array items => cases hscalar
  | object fields => cases hscalar
  | _ => exact isFinite_of_numbers_eq_nil rfl

/-- A text that stands for a number spells a finite one. -/
theorem IsFinite.toNumber? (h : v.IsFinite) (hx : v.toNumber? = some x) : x.isFinite = true := by
  cases v with
  | number y =>
    cases hx
    exact isFinite_number_iff.1 h
  | string s => exact Number.isFinite_of_ofText? hx
  | _ => cases hx

/-! Reading -/

theorem numbers_child? (h : v.child? step = some child) : child.numbers ⊆ v.numbers := by
  intro x hx
  cases step with
  | key name =>
    cases v with
    | object fields => exact mem_fieldNumbers.2 ⟨_, Fields.mem_of_get? h, hx⟩
    | _ => cases h
  | index i =>
    cases v with
    | array items => exact mem_itemNumbers.2 ⟨child, List.mem_of_getElem? h, hx⟩
    | _ => cases h

theorem numbers_getAt (h : v.getAt way = .ok (some w)) : w.numbers ⊆ v.numbers := by
  induction way generalizing v with
  | nil =>
    rw [getAt_nil] at h
    cases h
    exact List.Subset.refl _
  | cons step rest ih =>
    obtain ⟨child, hchild, hrest⟩ := getAt_cons_eq_some_iff.1 h
    exact List.Subset.trans (ih hrest) (numbers_child? hchild)

theorem IsFinite.getAt (h : v.IsFinite) (hget : v.getAt way = .ok (some w)) : w.IsFinite :=
  fun x hx => h x (numbers_getAt hget hx)

/-! Writing -/

theorem numbers_fresh (way : List Segment) : (fresh way).numbers = [] := by
  unfold fresh
  split <;> rfl

theorem mem_numbers_put (h : x ∈ (put child step v).numbers) : x ∈ child.numbers ∨ x ∈ v.numbers := by
  cases step with
  | key name =>
    cases v with
    | object fields =>
      obtain ⟨p, hp, hx⟩ := mem_fieldNumbers.1 h
      rcases Fields.mem_of_mem_insert hp with rfl | hp
      · exact .inl hx
      · exact .inr (mem_fieldNumbers.2 ⟨p, hp, hx⟩)
    | _ => exact .inr h
  | index i =>
    cases v with
    | array items =>
      obtain ⟨item, hitem, hx⟩ := mem_itemNumbers.1 h
      rcases List.mem_or_eq_of_mem_set hitem with hitem | rfl
      · rcases List.mem_append.1 hitem with hitem | hitem
        · exact .inr (mem_itemNumbers.2 ⟨item, hitem, hx⟩)
        · rw [List.eq_of_mem_replicate hitem] at hx
          cases hx
      · exact .inl hx
    | _ => exact .inr h

theorem mem_numbers_setAt (hset : setAt value way v = .ok w) (hx : x ∈ w.numbers) :
    x ∈ value.numbers ∨ x ∈ v.numbers := by
  induction way generalizing v w with
  | nil =>
    rw [setAt_nil] at hset
    cases hset
    exact .inl hx
  | cons step rest ih =>
    obtain ⟨-, child, hchild, rfl⟩ := setAt_cons_eq_ok_iff.1 hset
    rcases mem_numbers_put hx with hx | hx
    · refine (ih hchild hx).imp_right fun hstart => ?_
      cases hold : v.child? step with
      | none =>
        rw [hold, Option.getD_none, numbers_fresh] at hstart
        cases hstart
      | some old =>
        rw [hold] at hstart
        exact numbers_child? hold hstart
    · exact .inr hx

/-- What is written is in the document then, so that its numbers are numbers of the document. -/
theorem IsFinite.setAt_iff (h : v.IsFinite) (hset : setAt value way v = .ok w) : w.IsFinite ↔ value.IsFinite := by
  constructor
  · intro hw
    exact hw.getAt (getAt_setAt hset)
  · intro hvalue x hx
    rcases mem_numbers_setAt hset hx with hx | hx
    · exact hvalue x hx
    · exact h x hx

end PolicyEngine.Value
