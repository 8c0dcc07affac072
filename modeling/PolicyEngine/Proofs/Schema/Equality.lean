import PolicyEngine.Proofs.Document.Equality
import PolicyEngine.Proofs.Schema.Decision

/-! Equal documents pass the same schemas, well formed or not. Each keyword is settled by a lemma of its own; the
parts follow by induction on the document. -/
namespace PolicyEngine.Schema
open Value (eq_or_parts_of_beq beqItems beqFields beqItems_cons beqFields_cons)

/-! Keywords -/

theorem hasType?_congr {v w : Value} (h : v.beq w = true) (type : String) : hasType? v type = hasType? w type := by
  have hkind := Value.kind_eq_of_beq h
  unfold hasType?
  rw [hkind]
  rcases eq_or_parts_of_beq h with rfl | ⟨x, y, rfl, rfl, hxy⟩ | ⟨xs, ys, rfl, rfl, -⟩ | ⟨xs, ys, rfl, rfl, -⟩
  · rfl
  · rcases Number.eq_or_isZero_of_beq hxy with rfl | ⟨hx, hy⟩
    · rfl
    · dsimp only
      rw [Number.toInt?_of_isZero hx, Number.toInt?_of_isZero hy]
  · rfl
  · rfl

theorem typeViolations_congr {v w : Value} (h : v.beq w = true) (type : Value) :
    typeViolations type v = [] ↔ typeViolations type w = [] := by
  cases type with
  | string name =>
    rw [typeViolations, typeViolations, hasType?_congr h name]
    cases hasType? w name with
    | none => simp
    | some b => cases b <;> simp
  | array items =>
    rw [typeViolations, typeViolations]
    cases texts? items with
    | none => simp
    | some names => simp [hasType?_congr h]
  | _ => simp [typeViolations]

theorem enumViolations_congr {v w : Value} (h : v.beq w = true) (allowed : Value) :
    enumViolations allowed v = [] ↔ enumViolations allowed w = [] := by
  cases allowed with
  | array options =>
    have hequal : ∀ option : Value, (option == v) = (option == w) := fun option =>
      Value.beq_congr_right option v w h
    rw [enumViolations_eq_nil_iff, enumViolations_eq_nil_iff]
    simp only [hequal]
  | _ => simp [enumViolations]

theorem isBroken_congr {x y : Float} (h : (x == y) = true) (bound : Bound) (limit : Float) :
    bound.isBroken x limit = bound.isBroken y limit := by
  cases bound with
  | least => simp only [Bound.isBroken, Number.lt_iff_order, Number.order_congr_left h]
  | greatest => simp only [Bound.isBroken, Number.lt_iff_order, Number.order_congr_right h]

theorem boundViolations_congr {v w : Value} (h : v.beq w = true) (bound : Bound) (limit : Value) :
    boundViolations bound limit v = [] ↔ boundViolations bound limit w = [] := by
  cases limit with
  | number limit =>
    rw [boundViolations_eq_nil_iff, boundViolations_eq_nil_iff]
    rcases eq_or_parts_of_beq h with rfl | ⟨x, y, rfl, rfl, hxy⟩ | ⟨xs, ys, rfl, rfl, -⟩ | ⟨xs, ys, rfl, rfl, -⟩
    · rfl
    · simp [isBroken_congr hxy]
    · simp
    · simp
  | _ => simp [boundViolations]

theorem patternViolations_congr (patterns : PatternTable) {v w : Value} (h : v.beq w = true) (pattern : Value) :
    patternViolations patterns pattern v = [] ↔ patternViolations patterns pattern w = [] := by
  rcases eq_or_parts_of_beq h with rfl | ⟨x, y, rfl, rfl, -⟩ | ⟨xs, ys, rfl, rfl, -⟩ | ⟨xs, ys, rfl, rfl, -⟩
  · rfl
  all_goals cases pattern <;> simp [patternViolations]

theorem formatViolations_congr {v w : Value} (h : v.beq w = true) (format : Value) :
    formatViolations format v = [] ↔ formatViolations format w = [] := by
  rcases eq_or_parts_of_beq h with rfl | ⟨x, y, rfl, rfl, -⟩ | ⟨xs, ys, rfl, rfl, -⟩ | ⟨xs, ys, rfl, rfl, -⟩
  · rfl
  all_goals cases format <;> simp [formatViolations]

theorem ofKeyword_congr (keywords : Keywords) (k : Keyword) {f g : Value → List Violation}
    (h : ∀ raw, f raw = [] ↔ g raw = []) : ofKeyword keywords k f = [] ↔ ofKeyword keywords k g = [] := by
  simp only [ofKeyword_eq_nil_iff, h]

theorem valueViolations_congr (patterns : PatternTable) (keywords : Keywords) {v w : Value}
    (h : v.beq w = true) :
    valueViolations patterns keywords v = [] ↔ valueViolations patterns keywords w = [] := by
  simp only [valueViolations, List.append_eq_nil_iff]
  refine and_congr (and_congr (and_congr (and_congr ?_ ?_) ?_) ?_) ?_
  · exact ofKeyword_congr keywords .enum (enumViolations_congr h)
  · exact ofKeyword_congr keywords .minimum (boundViolations_congr h .least)
  · exact ofKeyword_congr keywords .maximum (boundViolations_congr h .greatest)
  · exact ofKeyword_congr keywords .pattern (patternViolations_congr patterns h)
  · exact ofKeyword_congr keywords .format (formatViolations_congr h)

theorem requiredViolations_congr (keywords : Keywords) {xs ys : List (String × Value)}
    (h : beqFields xs ys = true) : requiredViolations keywords xs = requiredViolations keywords ys := by
  unfold requiredViolations
  simp only [Value.contains_eq_of_beqFields h]

/-! Documents -/

theorem partViolations_congr {patterns : PatternTable} {v w : Value}
    (h : ∀ schema, violations patterns schema v = [] ↔ violations patterns schema w = []) (rule : PartRule) :
    partViolations patterns rule v = [] ↔ partViolations patterns rule w = [] := by
  cases rule with
  | check step sub => simp [partViolations, h sub]
  | refuse cause => rfl
  | permit => rfl

mutual

theorem violations_congr (patterns : PatternTable) : ∀ (v w : Value), v.beq w = true →
    ∀ schema, violations patterns schema v = [] ↔ violations patterns schema w = []
  | v, w, h, schema => by
    cases schema with
    | object keywords =>
      rcases eq_or_parts_of_beq h with rfl | ⟨x, y, rfl, rfl, -⟩ | ⟨xs, ys, rfl, rfl, hparts⟩ |
        ⟨xs, ys, rfl, rfl, hparts⟩
      · rfl
      · simp only [violations, List.append_nil, List.append_eq_nil_iff]
        exact and_congr (ofKeyword_congr keywords .type (typeViolations_congr h))
          (valueViolations_congr patterns keywords h)
      · simp only [violations, List.append_eq_nil_iff]
        refine and_congr (and_congr (ofKeyword_congr keywords .type (typeViolations_congr h)) ?_)
          (valueViolations_congr patterns keywords h)
        split
        · simp only [List.append_eq_nil_iff, Value.length_eq_of_beqItems hparts,
            itemViolations_congr patterns keywords 0 xs ys hparts]
        · rfl
      · simp only [violations, List.append_eq_nil_iff]
        refine and_congr (and_congr (ofKeyword_congr keywords .type (typeViolations_congr h)) ?_)
          (valueViolations_congr patterns keywords h)
        split
        · simp only [List.append_eq_nil_iff, requiredViolations_congr keywords hparts,
            fieldViolations_congr patterns keywords xs ys hparts]
        · rfl
    | bool b => cases b <;> simp
    | _ => simp [violations]

theorem itemViolations_congr (patterns : PatternTable) (keywords : Keywords) (i : Nat) : ∀ (xs ys : List Value),
    beqItems xs ys = true → (itemViolations patterns keywords i xs = [] ↔ itemViolations patterns keywords i ys = [])
  | [], [], _ => Iff.rfl
  | [], y :: ys, h => by cases h
  | x :: xs, [], h => by cases h
  | x :: xs, y :: ys, h => by
    obtain ⟨hfirst, hrest⟩ := beqItems_cons.1 h
    rw [itemViolations, itemViolations, List.append_eq_nil_iff, List.append_eq_nil_iff]
    exact and_congr (partViolations_congr (violations_congr patterns x y hfirst) (itemRule keywords i))
      (itemViolations_congr patterns keywords (i + 1) xs ys hrest)

theorem fieldViolations_congr (patterns : PatternTable) (keywords : Keywords) : ∀ (xs ys : List (String × Value)),
    beqFields xs ys = true → (fieldViolations patterns keywords xs = [] ↔ fieldViolations patterns keywords ys = [])
  | [], [], _ => Iff.rfl
  | [], y :: ys, h => by cases h
  | x :: xs, [], h => by cases h
  | (j, x) :: xs, (k, y) :: ys, h => by
    obtain ⟨rfl, hfirst, hrest⟩ := beqFields_cons.1 h
    rw [fieldViolations, fieldViolations, List.append_eq_nil_iff, List.append_eq_nil_iff]
    exact and_congr (partViolations_congr (violations_congr patterns x y hfirst) (propertyRule keywords j))
      (fieldViolations_congr patterns keywords xs ys hrest)

end

/-- A schema accepts both of two equal documents or neither. -/
theorem validate_congr (s : Schema) {v w : Value} (h : v.beq w = true) : s.validate v = [] ↔ s.validate w = [] :=
  violations_congr s.patterns v w h s.root

end PolicyEngine.Schema
