import PolicyEngine.Path.Access
import PolicyEngine.Proofs.Fields
import PolicyEngine.Proofs.Outcomes

/-! One step into a document. A key leads into objects and an index into arrays; what is found there is the child at
the step. Reading and writing at a path are opened here step by step, for both kinds of steps at once. -/
namespace PolicyEngine

namespace Segment

/-- Whether a value is a container of the kind that the step leads into. -/
def leadsInto : Segment → Value → Bool
  | .key _, .object _ => true
  | .index _, .array _ => true
  | _, _ => false

/-- The fault of reading into a value of another kind. -/
def mismatch (place : List Segment) : Segment → AccessFault
  | .key _ => .notAnObject place
  | .index _ => .notAnArray place

/-- The fault of writing into a value of another kind. -/
def collision (place : List Segment) (step : Segment) (v : Value) : AccessFault :=
  if v.isScalar then .scalarCollision place else step.mismatch place

@[simp] theorem under_mismatch (first step : Segment) (place : List Segment) :
    (step.mismatch place).under first = step.mismatch (first :: place) := by cases step <;> rfl

@[simp] theorem under_collision (first step : Segment) (place : List Segment) (v : Value) :
    (step.collision place v).under first = step.collision (first :: place) v := by
  unfold collision
  split
  · rfl
  · exact under_mismatch first step place

theorem place_of_mismatch {step : Segment} {place other : List Segment}
    (h : step.mismatch place = .notAnObject other ∨ step.mismatch place = .notAnArray other) : place = other := by
  cases step <;> simpa [mismatch] using h

end Segment

namespace Value

/-- The child of a container at a step. -/
def child? (v : Value) : Segment → Option Value
  | .key name => v.object?.bind (Fields.get? name)
  | .index i => v.array?.bind (·[i]?)

/-- A container with a child put in at a step; an array is padded for it. -/
def put (child : Value) : Segment → Value → Value
  | .key name, .object fields => .object (Fields.insert name child fields)
  | .index i, .array items => .array ((pad items i).set i child)
  | _, v => v

variable {step other : Segment} {rest : List Segment} {v w child found value : Value}

theorem leadsInto_of_child? (h : v.child? step = some child) : step.leadsInto v = true := by
  cases step <;> cases v <;> first | rfl | cases h

/-! Putting in a child -/

@[simp] theorem leadsInto_put : step.leadsInto (put child step v) = step.leadsInto v := by
  cases step <;> cases v <;> rfl

theorem child?_put (h : step.leadsInto v = true) (child : Value) : (put child step v).child? step = some child := by
  cases step with
  | key name =>
    cases v with
    | object fields => exact Fields.get?_insert_self name child fields
    | _ => cases h
  | index i =>
    cases v with
    | array items => exact List.getElem?_set_self (lt_length_pad items i)
    | _ => cases h

/-- The other children of a container stay when one is put in. -/
theorem child?_put_of_ne (hne : step ≠ other) (h : v.child? other = some found) (child : Value) :
    (put child step v).child? other = some found := by
  cases step with
  | key name =>
    cases v with
    | object fields =>
      cases other with
      | key name' =>
        have hname : name ≠ name' := fun heq => hne (congrArg Segment.key heq)
        exact (Fields.get?_insert_of_ne hname child fields).trans h
      | index j => cases h
    | _ => exact h
  | index i =>
    cases v with
    | array items =>
      cases other with
      | key name => cases h
      | index j =>
        have hindex : i ≠ j := fun heq => hne (congrArg Segment.index heq)
        obtain ⟨hj, -⟩ := List.getElem?_eq_some_iff.1 h
        change ((pad items i).set i child)[j]? = some found
        rw [List.getElem?_set_ne hindex, pad, List.getElem?_append_left hj]
        exact h
    | _ => exact h

theorem pad_of_lt {items : List Value} {i : Nat} (h : i < items.length) : pad items i = items := by
  have hnone : i + 1 - items.length = 0 := by omega
  rw [pad, hnone, List.replicate_zero, List.append_nil]

theorem put_put (second : Value) : put second step (put child step v) = put second step v := by
  cases step with
  | key name =>
    cases v with
    | object fields => exact congrArg Value.object (Fields.insert_insert_self name child second fields)
    | _ => rfl
  | index i =>
    cases v with
    | array items =>
      have hlt : i < ((pad items i).set i child).length := by
        rw [List.length_set]
        exact lt_length_pad items i
      change Value.array ((pad ((pad items i).set i child) i).set i second) = .array ((pad items i).set i second)
      rw [pad_of_lt hlt, List.set_set]
    | _ => rfl

/-! Reading -/

theorem getAt_cons_of_child? (h : v.child? step = some child) :
    v.getAt (step :: rest) = (child.getAt rest).mapError (·.under step) := by
  cases step with
  | key name =>
    cases v with
    | object fields =>
      have hget : Fields.get? name fields = some child := h
      rw [getAt, hget]
    | _ => cases h
  | index i =>
    cases v with
    | array items =>
      have hget : items[i]? = some child := h
      rw [getAt, hget]
    | _ => cases h

theorem getAt_cons_of_mismatch (h : step.leadsInto v = false) :
    v.getAt (step :: rest) = .error (step.mismatch []) := by
  cases step <;> cases v <;> first | rfl | cases h

/-- Without a child, reading ends in a container of the right kind: nothing is found under a last key, and a key on
the way and an index are missing. -/
theorem getAt_cons_of_absent (rest : List Segment) (hkind : step.leadsInto v = true) (h : v.child? step = none) :
    (rest = [] ∧ v.getAt (step :: rest) = .ok none) ∨ v.getAt (step :: rest) = .error (.missingKey [step]) ∨
      ∃ i size, v.getAt (step :: rest) = .error (.indexOutOfBounds [] i size) := by
  cases step with
  | key name =>
    cases v with
    | object fields =>
      have hget : Fields.get? name fields = none := h
      rw [getAt, hget]
      cases rest with
      | nil => exact .inl ⟨rfl, rfl⟩
      | cons next later => exact .inr (.inl rfl)
    | _ => cases hkind
  | index i =>
    cases v with
    | array items =>
      have hget : items[i]? = none := h
      rw [getAt, hget]
      exact .inr (.inr ⟨i, items.length, rfl⟩)
    | _ => cases hkind

theorem getAt_cons_eq_some_iff : v.getAt (step :: rest) = .ok (some found) ↔
    ∃ child, v.child? step = some child ∧ child.getAt rest = .ok (some found) := by
  constructor
  · intro h
    cases hkind : step.leadsInto v with
    | false =>
      rw [getAt_cons_of_mismatch hkind] at h
      cases h
    | true =>
      cases hchild : v.child? step with
      | some child =>
        rw [getAt_cons_of_child? hchild] at h
        exact ⟨child, rfl, mapError_eq_ok_iff.1 h⟩
      | none =>
        rcases getAt_cons_of_absent rest hkind hchild with ⟨-, hget⟩ | hget | ⟨i, size, hget⟩ <;>
          rw [hget] at h <;> cases h
  · rintro ⟨child, hchild, hrest⟩
    rw [getAt_cons_of_child? hchild]
    exact mapError_eq_ok_iff.2 hrest

/-! Writing -/

theorem setAt_cons_of_leadsInto (h : step.leadsInto v = true) : setAt value (step :: rest) v =
    ((setAt value rest ((v.child? step).getD (fresh rest))).mapError (·.under step)).map (put · step v) := by
  cases step <;> cases v <;> first | rfl | cases h

theorem setAt_cons_of_mismatch (h : step.leadsInto v = false) :
    setAt value (step :: rest) v = .error (step.collision [] v) := by
  cases step <;> cases v <;> first | rfl | cases h

theorem setAt_cons_eq_ok_iff : setAt value (step :: rest) v = .ok w ↔ step.leadsInto v = true ∧
    ∃ child, setAt value rest ((v.child? step).getD (fresh rest)) = .ok child ∧ w = put child step v := by
  cases hkind : step.leadsInto v with
  | false =>
    rw [setAt_cons_of_mismatch hkind]
    simp
  | true =>
    rw [setAt_cons_of_leadsInto hkind, map_eq_ok_iff]
    simp only [mapError_eq_ok_iff, eq_comm (a := w), true_and]

/-- The container that is made for some steps is one that they lead into. -/
theorem leadsInto_fresh (step : Segment) (rest : List Segment) : step.leadsInto (fresh (step :: rest)) = true := by
  cases step <;> rfl

theorem child?_fresh (way : List Segment) (step : Segment) : (fresh way).child? step = none := by
  cases way with
  | nil => cases step <;> rfl
  | cons first rest => cases first <;> cases step <;> rfl

end Value

end PolicyEngine
