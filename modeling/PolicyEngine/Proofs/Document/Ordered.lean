import PolicyEngine.Document.Json
import PolicyEngine.Proofs.Path.Steps

/-! Documents whose objects all have their keys in order. Reading gives such documents, and reading and writing
at a path keeps to them. -/
namespace PolicyEngine.Value

inductive Ordered : Value → Prop
  | scalar {v : Value} (h : v.isScalar = true) : Ordered v
  | array {items : List Value} (h : ∀ item ∈ items, Ordered item) : Ordered (.array items)
  | object {fields : List (String × Value)} (ascending : Fields.Ascending fields)
      (h : ∀ p ∈ fields, Ordered p.2) : Ordered (.object fields)

theorem Ordered.items {items : List Value} (h : (Value.array items).Ordered) :
    ∀ item ∈ items, item.Ordered := by
  cases h with
  | scalar hscalar => cases hscalar
  | array h => exact h

theorem Ordered.fields {fields : List (String × Value)} (h : (Value.object fields).Ordered) :
    Fields.Ascending fields ∧ ∀ p ∈ fields, p.2.Ordered := by
  cases h with
  | scalar hscalar => cases hscalar
  | object ascending h => exact ⟨ascending, h⟩

@[simp] theorem ordered_array_iff {items : List Value} :
    (Value.array items).Ordered ↔ ∀ item ∈ items, item.Ordered := ⟨Ordered.items, .array⟩

@[simp] theorem ordered_object_iff {fields : List (String × Value)} :
    (Value.object fields).Ordered ↔ Fields.Ascending fields ∧ ∀ p ∈ fields, p.2.Ordered :=
  ⟨Ordered.fields, fun h => .object h.1 h.2⟩

/-! Reading -/

mutual

theorem ordered_of_ofNode? : ∀ (depth : Nat) (n : Json.Node) (v : Value), ofNode? depth n = some v → v.Ordered
  | _, .null, v, h => by
    cases h
    exact .scalar rfl
  | _, .bool b, v, h => by
    cases h
    exact .scalar rfl
  | _, .number text, v, h => by
    rw [ofNode?] at h
    obtain ⟨x, -, rfl⟩ := Option.map_eq_some_iff.1 h
    exact .scalar rfl
  | _, .string pieces, v, h => by
    rw [ofNode?] at h
    obtain ⟨s, -, rfl⟩ := Option.map_eq_some_iff.1 h
    exact .scalar rfl
  | 0, .array items, v, h => by
    rw [ofNode?] at h
    cases h
  | depth + 1, .array items, v, h => by
    rw [ofNode?] at h
    obtain ⟨values, hvalues, rfl⟩ := Option.map_eq_some_iff.1 h
    exact .array (ordered_of_ofItems? depth items values hvalues)
  | 0, .object members, v, h => by
    rw [ofNode?] at h
    cases h
  | depth + 1, .object members, v, h => by
    rw [ofNode?] at h
    obtain ⟨pairs, hpairs, rfl⟩ := Option.map_eq_some_iff.1 h
    refine .object (Fields.ascending_ofPairs pairs) fun p hp => ?_
    exact ordered_of_ofMembers? depth members pairs hpairs p (Fields.mem_of_mem_ofPairs hp)

theorem ordered_of_ofItems? : ∀ (depth : Nat) (items : List Json.Node) (values : List Value),
    ofItems? depth items = some values → ∀ v ∈ values, v.Ordered
  | _, [], values, h => by
    cases h
    simp
  | depth, item :: rest, values, h => by
    rw [ofItems?] at h
    split at h
    · cases h
    · next v hv =>
      obtain ⟨others, hothers, rfl⟩ := Option.map_eq_some_iff.1 h
      intro w hw
      rcases List.mem_cons.1 hw with rfl | hw
      · exact ordered_of_ofNode? depth item w hv
      · exact ordered_of_ofItems? depth rest others hothers w hw

theorem ordered_of_ofMembers? : ∀ (depth : Nat) (members : List (List Json.Piece × Json.Node))
    (pairs : List (String × Value)), ofMembers? depth members = some pairs → ∀ p ∈ pairs, p.2.Ordered
  | _, [], pairs, h => by
    cases h
    simp
  | depth, (key, value) :: rest, pairs, h => by
    rw [ofMembers?] at h
    split at h
    · next k v hk hv =>
      obtain ⟨others, hothers, rfl⟩ := Option.map_eq_some_iff.1 h
      intro p hp
      rcases List.mem_cons.1 hp with rfl | hp
      · exact ordered_of_ofNode? depth value v hv
      · exact ordered_of_ofMembers? depth rest others hothers p hp
    · cases h

end

/-! Access -/

theorem Ordered.child? {v child : Value} (h : v.Ordered) {step : Segment} (hchild : v.child? step = some child) :
    child.Ordered := by
  cases step with
  | key name =>
    cases v with
    | object fields => exact h.fields.2 _ (Fields.mem_of_get? hchild)
    | _ => cases hchild
  | index i =>
    cases v with
    | array items => exact h.items _ (List.mem_of_getElem? hchild)
    | _ => cases hchild

theorem Ordered.getAt {v w : Value} (h : v.Ordered) {segments : List Segment}
    (hget : v.getAt segments = .ok (some w)) : w.Ordered := by
  induction segments generalizing v with
  | nil =>
    rw [getAt_nil] at hget
    cases hget
    exact h
  | cons step rest ih =>
    obtain ⟨child, hchild, hrest⟩ := getAt_cons_eq_some_iff.1 hget
    exact ih (h.child? hchild) hrest

theorem ordered_empty : (object []).Ordered := .object List.Pairwise.nil (by simp)

theorem ordered_fresh (segments : List Segment) : (fresh segments).Ordered := by
  unfold fresh
  split
  · exact .array (by simp)
  · exact ordered_empty

theorem Ordered.start {v : Value} (h : v.Ordered) (step : Segment) (rest : List Segment) :
    ((v.child? step).getD (fresh rest)).Ordered := by
  cases hchild : v.child? step with
  | none => exact ordered_fresh rest
  | some child => exact h.child? hchild

theorem Ordered.put {v child : Value} (h : v.Ordered) (hchild : child.Ordered) (step : Segment) :
    (Value.put child step v).Ordered := by
  cases step with
  | key name =>
    cases v with
    | object fields =>
      obtain ⟨ascending, hfields⟩ := h.fields
      refine .object (ascending.insert name child) fun p hp => ?_
      rcases Fields.mem_of_mem_insert hp with rfl | hp
      · exact hchild
      · exact hfields p hp
    | _ => exact h
  | index i =>
    cases v with
    | array items =>
      refine .array fun item hitem => ?_
      rcases List.mem_or_eq_of_mem_set hitem with hitem | rfl
      · rcases List.mem_append.1 hitem with hitem | hitem
        · exact h.items item hitem
        · rw [List.eq_of_mem_replicate hitem]
          exact ordered_empty
      · exact hchild
    | _ => exact h

theorem Ordered.setAt {value v w : Value} (hvalue : value.Ordered) (h : v.Ordered) {segments : List Segment}
    (hset : setAt value segments v = .ok w) : w.Ordered := by
  induction segments generalizing v w with
  | nil =>
    rw [setAt_nil] at hset
    cases hset
    exact hvalue
  | cons step rest ih =>
    obtain ⟨-, child, hchild, rfl⟩ := setAt_cons_eq_ok_iff.1 hset
    exact h.put (ih (h.start step rest) hchild) step

/-- A child that is there already is put where it is. -/
theorem Ordered.put_eq_self {v child : Value} (h : v.Ordered) {step : Segment} (hchild : v.child? step = some child) :
    Value.put child step v = v := by
  cases step with
  | key name =>
    cases v with
    | object fields => exact congrArg Value.object (Fields.insert_eq_self h.fields.1 hchild)
    | _ => cases hchild
  | index i =>
    cases v with
    | array items =>
      have hget : items[i]? = some child := hchild
      obtain ⟨hlt, rfl⟩ := List.getElem?_eq_some_iff.1 hget
      change Value.array ((pad items i).set i items[i]) = .array items
      rw [pad_of_lt hlt, List.set_getElem_self]
    | _ => cases hchild

end PolicyEngine.Value
