import PolicyEngine.Proofs.Document.Finite
import PolicyEngine.Proofs.Number.Rounding
import PolicyEngine.Proofs.Rule.Aggregate
import PolicyEngine.Proofs.Rule.Canonical
import PolicyEngine.Rule.Evaluation

/-! Overflow in the values of operands. On a document of finite numbers, a value is finite too unless one of the
operations of an `EXP`, a sum or an average overflows. -/
namespace PolicyEngine

/-! Aggregates -/

namespace AggregateOp
open Value (IsFinite)

variable {doc : Value} {p : Path} {x : Float}

/-- How an aggregate can be no finite number: a sum overflows, or there are more items than indices. The extremes are
numbers that were there before. -/
def Overflows (doc : Value) (p : Path) : AggregateOp → Prop
  | .sum => ∃ x, AggregateOp.sum.evaluate doc p = .ok x ∧ x.isFinite = false
  | .average => ∃ x, AggregateOp.average.evaluate doc p = .ok x ∧ x.isFinite = false
  | .count => ∃ items, doc.get p = .ok (some (.array items)) ∧ Path.indexBound ≤ items.length
  | .max | .min => False

theorem isFinite_of_numbers {items : List Value} {xs : List Float} (hitems : ∀ item ∈ items, item.IsFinite)
    (h : numbers p items = .ok xs) : xs.length = items.length ∧ ∀ x ∈ xs, x.isFinite = true := by
  induction items generalizing xs with
  | nil =>
    cases h
    simp
  | cons item rest ih =>
    rw [numbers] at h
    split at h
    · next x hx =>
      obtain ⟨ys, hys, rfl⟩ := map_eq_ok_iff.1 h
      obtain ⟨hlength, hrest⟩ := ih (fun other hother => hitems other (List.mem_cons_of_mem _ hother)) hys
      refine ⟨by simp [hlength], List.forall_mem_cons.2 ⟨?_, hrest⟩⟩
      exact (hitems item List.mem_cons_self).toNumber? hx
    · cases h

/-- An extreme is one of the numbers. -/
theorem isFinite_fold_extreme {op : AggregateOp} {xs : List Float} (hop : op = .max ∨ op = .min) (hne : xs ≠ [])
    (h : ∀ x ∈ xs, x.isFinite = true) : (op.fold xs).isFinite = true := by
  rcases hop with rfl | rfl
  · exact h _ (fold_max hne h).1
  · exact h _ (fold_min hne h).1

theorem items_isFinite {items : List Value} (hdoc : doc.IsFinite) (hget : doc.get p = .ok (some (.array items))) :
    ∀ item ∈ items, item.IsFinite := by
  intro item hitem x hx
  exact hdoc.getAt hget x (Value.mem_itemNumbers.2 ⟨item, hitem, hx⟩)

/-- An aggregate of finite numbers is finite, unless it overflows. -/
theorem isFinite_or_overflows {op : AggregateOp} (hdoc : doc.IsFinite) (h : op.evaluate doc p = .ok x) :
    x.isFinite = true ∨ op.Overflows doc p := by
  have hwhole := h
  unfold evaluate at h
  split at h
  · cases h
  · next items hget =>
    unfold ofItems at h
    split at h
    · cases h
      exact .inl (by decide)
    · next hne =>
      split at h
      · next hop =>
        cases h
        subst hop
        by_cases hcount : items.length < Path.indexBound
        · exact .inl (Number.isFinite_ofNat (by decide) hcount)
        · exact .inr ⟨items, hget, Nat.le_of_not_lt hcount⟩
      · next hop =>
        obtain ⟨xs, hxs, rfl⟩ := map_eq_ok_iff.1 h
        obtain ⟨hlength, hfinite⟩ := isFinite_of_numbers (items_isFinite hdoc hget) hxs
        have hxs : xs ≠ [] := by
          rintro rfl
          exact hne (List.isEmpty_iff.2 (List.length_eq_zero_iff.1 hlength.symm))
        by_cases hextreme : op = .max ∨ op = .min
        · exact .inl (isFinite_fold_extreme hextreme hxs hfinite)
        · cases hsum : (op.fold xs).isFinite with
          | true => exact .inl rfl
          | false =>
            cases op with
            | sum => exact .inr ⟨_, hwhole, hsum⟩
            | average => exact .inr ⟨_, hwhole, hsum⟩
            | count => exact absurd rfl hop
            | max => exact absurd (.inl rfl) hextreme
            | min => exact absurd (.inr rfl) hextreme
  · cases h

end AggregateOp

/-! Operands -/

namespace Operand
open Value (IsFinite)

variable {doc : Value} {operand left right : Operand} {op : ArithOp} {found : Found} {x y : Float}

/-- How the value of an operand can come to be no finite number: somewhere in it an operation on finite numbers, or an
aggregate, overflows. -/
inductive Overflows (doc : Value) : Operand → Prop
  | exp {term : Operand} (h : Overflows doc term) : Overflows doc (.exp term)
  | left {left : Operand} {op : ArithOp} {right : Operand} (h : Overflows doc left) :
      Overflows doc (.arith left op right)
  | right {left : Operand} {op : ArithOp} {right : Operand} (h : Overflows doc right) :
      Overflows doc (.arith left op right)
  | operation {left : Operand} {op : ArithOp} {right : Operand} {l r : Found} {x y : Float}
      (hleft : left.evaluate doc = .ok l) (hx : termNumber left l = .ok x) (hright : right.evaluate doc = .ok r)
      (hy : termNumber right r = .ok y) (defined : ¬ (op = .div ∧ y == 0.0))
      (finite : x.isFinite = true ∧ y.isFinite = true) (overflow : (op.apply x y).isFinite = false) :
      Overflows doc (.arith left op right)
  | aggregate {op : AggregateOp} {p : Path} (h : op.Overflows doc p) : Overflows doc (.aggregate op p)

theorem IsFinite.termNumber (hfinite : found.value.IsFinite) (h : termNumber operand found = .ok x) :
    x.isFinite = true := by
  have hrequire := mapError_eq_ok_iff.1 h
  unfold Value.requireNumber at hrequire
  split at hrequire
  · next y hy =>
    cases hrequire
    exact hfinite.toNumber? hy
  · cases hrequire

theorem isFinite_of_path {p : Path} (hdoc : doc.IsFinite) (h : (path p).evaluate doc = .ok found) :
    found.value.IsFinite := by
  rw [evaluate] at h
  split at h
  · next v hget =>
    cases h
    exact hdoc.getAt hget
  · cases h
    exact Value.isFinite_of_numbers_eq_nil rfl
  · cases h

/-- One operation: its result is finite, or it overflows there or in one of its terms. -/
theorem isFinite_or_overflows_arith
    (hleft : ∀ {l}, left.evaluate doc = .ok l → l.value.IsFinite ∨ left.Overflows doc)
    (hright : ∀ {r}, right.evaluate doc = .ok r → r.value.IsFinite ∨ right.Overflows doc)
    (h : (arith left op right).evaluate doc = .ok found) :
    found.value.IsFinite ∨ (arith left op right).Overflows doc := by
  rw [evaluate] at h
  obtain ⟨l, hl, h⟩ := bind_eq_ok_iff.1 h
  obtain ⟨x, hx, h⟩ := bind_eq_ok_iff.1 h
  obtain ⟨r, hr, h⟩ := bind_eq_ok_iff.1 h
  obtain ⟨y, hy, h⟩ := bind_eq_ok_iff.1 h
  rcases hleft hl with hlfinite | hoverflow
  · rcases hright hr with hrfinite | hoverflow
    · rw [arithmetic] at h
      split at h
      · cases h
      · next hdefined =>
        cases h
        cases hresult : (op.apply x y).isFinite with
        | true => exact .inl (Value.isFinite_number_iff.2 hresult)
        | false =>
          have hfinite := And.intro (IsFinite.termNumber hlfinite hx) (IsFinite.termNumber hrfinite hy)
          exact .inr (.operation hl hx hr hy hdefined hfinite hresult)
    · exact .inr (.right hoverflow)
  · exact .inr (.left hoverflow)

theorem isFinite_or_overflows_aggregate {op : AggregateOp} {p : Path} (hdoc : doc.IsFinite)
    (h : (aggregate op p).evaluate doc = .ok found) :
    found.value.IsFinite ∨ (aggregate op p).Overflows doc := by
  rw [evaluate] at h
  split at h
  · next x hx =>
    cases h
    exact (AggregateOp.isFinite_or_overflows hdoc hx).imp Value.isFinite_number_iff.2 .aggregate
  · cases h

theorem IsTerm.isFinite_or_overflows (hterm : operand.IsTerm) (hdoc : doc.IsFinite)
    (h : operand.evaluate doc = .ok found) : found.value.IsFinite ∨ operand.Overflows doc := by
  induction hterm generalizing found with
  | path plain => exact .inl (isFinite_of_path hdoc h)
  | number finite =>
    cases h
    exact .inl (Value.isFinite_number_iff.2 finite)
  | @exp term _ ih =>
    rw [evaluate] at h
    obtain ⟨inner, hinner, h⟩ := bind_eq_ok_iff.1 h
    obtain ⟨x, hx, h⟩ := bind_eq_ok_iff.1 h
    cases h
    exact (ih hinner).imp (fun hfinite => Value.isFinite_number_iff.2 (IsFinite.termNumber hfinite hx)) .exp
  | arith _ _ ihl ihr => exact isFinite_or_overflows_arith ihl ihr h
  | aggregate plain => exact isFinite_or_overflows_aggregate hdoc h

/-- The value of an operand is finite, unless the operand overflows. -/
theorem IsCanonical.isFinite_or_overflows (hcanonical : operand.IsCanonical) (hdoc : doc.IsFinite)
    (h : operand.evaluate doc = .ok found) : found.value.IsFinite ∨ operand.Overflows doc := by
  cases hcanonical with
  | path plain => exact .inl (isFinite_of_path hdoc h)
  | literal scalar finite =>
    cases h
    exact .inl (Value.isFinite_of_isScalar scalar finite)
  | call call term => exact term.isFinite_or_overflows hdoc h

end Operand

end PolicyEngine
