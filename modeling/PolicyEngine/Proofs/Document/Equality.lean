import PolicyEngine.Document.Basic
import PolicyEngine.Proofs.Number.Comparison

/-! Equality of documents. Equal documents differ at most in the signs of their zeros, and nothing that is compared
with them tells them apart. -/
namespace PolicyEngine.Value

/-- Equal documents are the same unless they hold numbers. -/
theorem eq_or_parts_of_beq {v w : Value} (h : v.beq w = true) :
    v = w ∨
      (∃ x y, v = .number x ∧ w = .number y ∧ (x == y) = true) ∨
      (∃ xs ys, v = .array xs ∧ w = .array ys ∧ beqItems xs ys = true) ∨
      ∃ xs ys, v = .object xs ∧ w = .object ys ∧ beqFields xs ys = true := by
  cases v with
  | null => cases w <;> first | exact .inl rfl | cases h
  | bool a =>
    cases w with
    | bool b => exact .inl (congrArg Value.bool (beq_iff_eq.1 h))
    | _ => cases h
  | string s =>
    cases w with
    | string t => exact .inl (congrArg Value.string (beq_iff_eq.1 h))
    | _ => cases h
  | number x =>
    cases w with
    | number y => exact .inr (.inl ⟨x, y, rfl, rfl, h⟩)
    | _ => cases h
  | array xs =>
    cases w with
    | array ys => exact .inr (.inr (.inl ⟨xs, ys, rfl, rfl, h⟩))
    | _ => cases h
  | object xs =>
    cases w with
    | object ys => exact .inr (.inr (.inr ⟨xs, ys, rfl, rfl, h⟩))
    | _ => cases h

theorem beqItems_cons {x y : Value} {xs ys : List Value} :
    beqItems (x :: xs) (y :: ys) = true ↔ x.beq y = true ∧ beqItems xs ys = true := by
  rw [beqItems, Bool.and_eq_true]

theorem beqFields_cons {j k : String} {x y : Value} {xs ys : List (String × Value)} :
    beqFields ((j, x) :: xs) ((k, y) :: ys) = true ↔ j = k ∧ x.beq y = true ∧ beqFields xs ys = true := by
  rw [beqFields, Bool.and_eq_true, Bool.and_eq_true, beq_iff_eq, and_assoc]

theorem length_eq_of_beqItems {xs ys : List Value} (h : beqItems xs ys = true) : xs.length = ys.length := by
  induction xs generalizing ys with
  | nil =>
    cases ys with
    | nil => rfl
    | cons y ys => cases h
  | cons x xs ih =>
    cases ys with
    | nil => cases h
    | cons y ys => exact congrArg (· + 1) (ih (beqItems_cons.1 h).2)

theorem contains_eq_of_beqFields {xs ys : List (String × Value)} (h : beqFields xs ys = true) (key : String) :
    Fields.contains key xs = Fields.contains key ys := by
  unfold Fields.contains
  induction xs generalizing ys with
  | nil =>
    cases ys with
    | nil => rfl
    | cons y ys => cases h
  | cons x xs ih =>
    cases ys with
    | nil => cases h
    | cons y ys =>
      obtain ⟨j, x⟩ := x
      obtain ⟨k, y⟩ := y
      obtain ⟨rfl, -, hrest⟩ := beqFields_cons.1 h
      rw [Fields.get?_cons, Fields.get?_cons]
      split
      · rfl
      · exact ih hrest

theorem kind_eq_of_beq {v w : Value} (h : v.beq w = true) : v.kind = w.kind := by
  rcases eq_or_parts_of_beq h with rfl | ⟨x, y, rfl, rfl, -⟩ | ⟨xs, ys, rfl, rfl, -⟩ | ⟨xs, ys, rfl, rfl, -⟩ <;> rfl

mutual

/-- A value is equal to both of two equal documents or to none. -/
theorem beq_congr_right : ∀ (u v w : Value), v.beq w = true → u.beq v = u.beq w
  | u, v, w, h => by
    rcases eq_or_parts_of_beq h with rfl | ⟨x, y, rfl, rfl, hxy⟩ | ⟨xs, ys, rfl, rfl, hparts⟩ |
      ⟨xs, ys, rfl, rfl, hparts⟩
    · rfl
    · cases u with
      | number z =>
        rw [beq, beq, Number.beq_eq_order, Number.beq_eq_order, Number.order_congr_right hxy]
      | _ => rfl
    · cases u with
      | array items =>
        rw [beq, beq]
        exact beqItems_congr_right items xs ys hparts
      | _ => rfl
    · cases u with
      | object fields =>
        rw [beq, beq]
        exact beqFields_congr_right fields xs ys hparts
      | _ => rfl

theorem beqItems_congr_right : ∀ (us vs ws : List Value), beqItems vs ws = true → beqItems us vs = beqItems us ws
  | us, [], [], _ => rfl
  | us, [], w :: ws, h => by cases h
  | us, v :: vs, [], h => by cases h
  | [], v :: vs, w :: ws, _ => rfl
  | u :: us, v :: vs, w :: ws, h => by
    obtain ⟨hfirst, hrest⟩ := beqItems_cons.1 h
    rw [beqItems, beqItems, beq_congr_right u v w hfirst, beqItems_congr_right us vs ws hrest]

theorem beqFields_congr_right : ∀ (us vs ws : List (String × Value)), beqFields vs ws = true →
    beqFields us vs = beqFields us ws
  | us, [], [], _ => rfl
  | us, [], w :: ws, h => by cases h
  | us, v :: vs, [], h => by cases h
  | [], v :: vs, w :: ws, _ => rfl
  | (i, u) :: us, (j, v) :: vs, (k, w) :: ws, h => by
    obtain ⟨rfl, hfirst, hrest⟩ := beqFields_cons.1 h
    rw [beqFields, beqFields, beq_congr_right u v w hfirst, beqFields_congr_right us vs ws hrest]

end

mutual

/-- Equality of documents is the same from both sides. -/
theorem beq_comm : ∀ v w : Value, v.beq w = w.beq v
  | .null, w => by cases w <;> rfl
  | .bool a, w => by
    cases w with
    | bool b =>
      rw [beq, beq]
      exact Bool.beq_comm
    | _ => rfl
  | .number x, w => by
    cases w with
    | number y => exact Number.beq_comm x y
    | _ => rfl
  | .string s, w => by
    cases w with
    | string t =>
      rw [beq, beq]
      exact Bool.beq_comm
    | _ => rfl
  | .array xs, w => by
    cases w with
    | array ys => exact beqItems_comm xs ys
    | _ => rfl
  | .object xs, w => by
    cases w with
    | object ys => exact beqFields_comm xs ys
    | _ => rfl

theorem beqItems_comm : ∀ vs ws : List Value, beqItems vs ws = beqItems ws vs
  | [], [] => rfl
  | [], _ :: _ => rfl
  | _ :: _, [] => rfl
  | v :: vs, w :: ws => by rw [beqItems, beqItems, beq_comm v w, beqItems_comm vs ws]

theorem beqFields_comm : ∀ vs ws : List (String × Value), beqFields vs ws = beqFields ws vs
  | [], [] => rfl
  | [], _ :: _ => rfl
  | _ :: _, [] => rfl
  | (j, v) :: vs, (k, w) :: ws => by
    have hkeys : (j == k) = (k == j) := Bool.beq_comm
    rw [beqFields, beqFields, hkeys, beq_comm v w, beqFields_comm vs ws]

end

end PolicyEngine.Value
