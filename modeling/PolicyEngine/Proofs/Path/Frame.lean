import Mathlib.Data.List.Basic
import PolicyEngine.Proofs.Path.Steps

/-! The frame of writing at a path. A value that is found at one path is found there still after writing at a
path apart from it: containers are created, padded and replaced only on the way to what is written. -/
namespace PolicyEngine

/-- Ways into a document neither of which continues the other. -/
def Apart (p q : List Segment) : Prop := ¬ p <+: q ∧ ¬ q <+: p

instance (p q : List Segment) : Decidable (Apart p q) := inferInstanceAs (Decidable (¬ p <+: q ∧ ¬ q <+: p))

/-- Ways apart part at their first segments or further on. -/
theorem apart_cons_iff {s t : Segment} {p q : List Segment} : Apart (s :: p) (t :: q) ↔ s = t → Apart p q := by
  simp only [Apart, List.cons_prefix_cons, eq_comm (a := t)]
  by_cases h : s = t <;> simp [h]

namespace Value

/-- By induction on the way that is written. Where both ways take the same step the value that is read lies in
the child that is written into; where they part it is a sibling of that child, which stays. -/
theorem getAt_setAt_of_apart {p q : List Segment} (h : Apart p q) {value v w found : Value}
    (hset : setAt value p v = .ok w) (hget : v.getAt q = .ok (some found)) : w.getAt q = .ok (some found) := by
  induction p generalizing q v w with
  | nil => exact absurd List.nil_prefix h.1
  | cons step rest ih =>
    cases q with
    | nil => exact absurd List.nil_prefix h.2
    | cons other others =>
      have hrest : step = other → Apart rest others := apart_cons_iff.1 h
      obtain ⟨hkind, child, hchild, rfl⟩ := setAt_cons_eq_ok_iff.1 hset
      obtain ⟨old, hold, hfound⟩ := getAt_cons_eq_some_iff.1 hget
      apply getAt_cons_eq_some_iff.2
      by_cases hstep : step = other
      · subst hstep
        rw [hold] at hchild
        exact ⟨child, child?_put hkind child, ih (hrest rfl) hchild hfound⟩
      · exact ⟨old, child?_put_of_ne hstep hold child, hfound⟩

end Value

end PolicyEngine
