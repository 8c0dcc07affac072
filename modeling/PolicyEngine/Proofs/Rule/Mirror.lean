import PolicyEngine.Proofs.Document.Equality
import PolicyEngine.Rule.Evaluation

/-! Comparisons read from their other side. An ordering and its mirror image decide alike, equality has no sides, and a
null check is the comparison with a literal null, whichever side the null is on. -/
namespace PolicyEngine

namespace CompareOp

/-- The operator that says of two sides what this one says of them the other way round. -/
def mirror : CompareOp → CompareOp
  | gt => lt
  | ge => le
  | lt => gt
  | le => ge
  | op => op

/-- The operator of a comparison with null that asks what a null check asks. -/
def ofNullCheck (negated : Bool) : CompareOp := if negated then ne else eq

/-- Two comparisons both hold, both do not hold, or both fail because of values that do not serve as numbers. -/
inductive Alike : Except RuleError Bool → Except RuleError Bool → Prop
  | decided (holds : Bool) : Alike (.ok holds) (.ok holds)
  | failed (fault other : CoercionFault) : Alike (.error (.coercion fault)) (.error (.coercion other))

end CompareOp

/-- Two outcomes with the same verdict, pass or error; their traces may differ. -/
def Outcome.Agrees (o o' : Outcome) : Prop := o.passed = o'.passed ∧ o.error? = o'.error?

theorem Outcome.agrees_of_verdict_eq {o o' : Outcome} (h : o.verdict = o'.verdict) : o.Agrees o' := by
  unfold Agrees passed error?
  rw [h]
  exact ⟨rfl, rfl⟩

/-! Orderings -/

theorem Value.compareOrdered_mirror (op : CompareOp) (a b : Value) :
    CompareOp.Alike (a.compareOrdered op b) (b.compareOrdered op.mirror a) := by
  unfold compareOrdered
  cases a.toNumber? with
  | none => cases b.toNumber? <;> exact .failed _ _
  | some x =>
    cases b.toNumber? with
    | none => exact .failed _ _
    | some y =>
      -- With numbers on both sides, `x > y` says nothing but `y < x`.
      cases op with
      | gt | ge | lt | le => exact .decided _
      | eq | ne | memberOf | notMemberOf => exact .failed _ _

/-! Null checks -/

/-- What a null check finds is what equality with null finds. -/
theorem Value.beq_null (v : Value) : (v == .null) = v.isNull := by cases v <;> rfl

namespace CompareOp

variable (negated : Bool) (v w : Value)

theorem decide_ofNullCheck : (ofNullCheck negated).decide v w [] = .ok ((v == w) != negated) := by
  cases negated with
  | false =>
    rw [Bool.bne_false]
    rfl
  | true =>
    rw [Bool.bne_true]
    rfl

theorem decide_null : (ofNullCheck negated).decide v .null [] = .ok (v.isNull != negated) := by
  rw [decide_ofNullCheck, Value.beq_null]

theorem decide_null_left : (ofNullCheck negated).decide .null v [] = .ok (v.isNull != negated) := by
  have hcomm : (Value.null == v) = (v == .null) := Value.beq_comm .null v
  rw [decide_ofNullCheck, hcomm, Value.beq_null]

end CompareOp

/-- A path as an operand is the value that it leads to, or null where that is absent. -/
theorem Operand.evaluate_path (path : Path) (doc : Value) :
    (∃ fault trace, doc.get path = .error fault ∧ (Operand.path path).evaluate doc = .error ⟨.access fault, trace⟩) ∨
      ∃ found trace, doc.get path = .ok found ∧ (Operand.path path).evaluate doc = .ok ⟨found.getD .null, trace⟩ := by
  rw [evaluate]
  cases doc.get path with
  | error fault => exact .inl ⟨fault, _, rfl, rfl⟩
  | ok found =>
    cases found with
    | none => exact .inr ⟨none, _, rfl, rfl⟩
    | some v => exact .inr ⟨some v, _, rfl, rfl⟩

theorem Operand.evaluate_literal (v doc : Value) :
    (Operand.literal v).evaluate doc = .ok ⟨v, literalDetails v⟩ := by rw [evaluate]

namespace Rule

variable (path : Path) (negated : Bool) (doc : Value)

theorem verdict_compare_null : (evaluateCompare (.path path) (.ofNullCheck negated) (.literal .null) doc).verdict =
    (evaluateNullCheck path negated doc).verdict := by
  rcases Operand.evaluate_path path doc with ⟨fault, trace, hget, hpath⟩ | ⟨found, trace, hget, hpath⟩
  · simp only [evaluateCompare, evaluateNullCheck, hget, hpath, Failure.outcome]
  · simp only [evaluateCompare, evaluateNullCheck, hget, hpath, Operand.evaluate_literal,
      Operand.listItems, CompareOp.decide_null]

theorem verdict_compare_null_left : (evaluateCompare (.literal .null) (.ofNullCheck negated) (.path path) doc).verdict =
    (evaluateNullCheck path negated doc).verdict := by
  rcases Operand.evaluate_path path doc with ⟨fault, trace, hget, hpath⟩ | ⟨found, trace, hget, hpath⟩
  · simp only [evaluateCompare, evaluateNullCheck, hget, hpath, Operand.evaluate_literal, Failure.outcome]
  · simp only [evaluateCompare, evaluateNullCheck, hget, hpath, Operand.evaluate_literal,
      Operand.listItems, CompareOp.decide_null_left]

/-- Orderings are mirrored, equality has no sides, and a null check agrees with the comparison with null from either
side, for a path that is absent or cannot be followed too. -/
theorem comparisons_mirror :
    (∀ (op : CompareOp) (a b : Value), CompareOp.Alike (a.compareOrdered op b) (b.compareOrdered op.mirror a)) ∧
      (∀ a b : Value, (a == b) = (b == a)) ∧
      ∀ (path : Path) (negated : Bool) (doc : Value),
        ((nullCheck path negated).evaluate doc).1.Agrees
            ((compare (.path path) (.ofNullCheck negated) (.literal .null)).evaluate doc).1 ∧
          ((nullCheck path negated).evaluate doc).1.Agrees
            ((compare (.literal .null) (.ofNullCheck negated) (.path path)).evaluate doc).1 := by
  refine ⟨Value.compareOrdered_mirror, Value.beq_comm, fun path negated doc => ⟨?_, ?_⟩⟩
  · exact Outcome.agrees_of_verdict_eq (verdict_compare_null path negated doc).symm
  · exact Outcome.agrees_of_verdict_eq (verdict_compare_null_left path negated doc).symm

end Rule

end PolicyEngine
