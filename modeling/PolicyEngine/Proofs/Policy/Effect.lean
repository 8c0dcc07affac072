import PolicyEngine.Proofs.Path.InPlace
import PolicyEngine.Proofs.Policy.Invariant

/-! What a rule does to the document. As long as the conditions of `IF` rules only judge, a rule that does not pass
does nothing, and one that passes makes at most one assignment; run in place, with assignments that may stop half way,
it comes to the same. -/
namespace PolicyEngine

/-- What may come of a rule: the document as it was, or a pass and one of the assignments made. -/
inductive Effect (assignments : List (Path × Operand)) (doc : Value) : Outcome × Value → Prop
  | unchanged (o : Outcome) : Effect assignments doc (o, doc)
  | assigned {o : Outcome} {after : Value} {target : Path} {value : Operand} {found : Found} (passed : o.passed = true)
      (mem : (target, value) ∈ assignments) (evaluated : Rule.setValue value doc = .ok found)
      (set : doc.set target found.value = .ok after) : Effect assignments doc (o, after)

namespace Effect

variable {first later : List (Path × Operand)} {doc after : Value} {o : Outcome}

theorem mono {answer : Outcome × Value} (h : Effect first doc answer) (hsub : first ⊆ later) :
    Effect later doc answer := by
  cases h with
  | unchanged o => exact unchanged o
  | assigned passed mem evaluated set => exact assigned passed (hsub mem) evaluated set

theorem eq_of_not_passed (h : Effect first doc (o, after)) (hfailed : o.passed = false) : after = doc := by
  cases h with
  | unchanged => rfl
  | assigned passed =>
    rw [hfailed] at passed
    cases passed

/-- Another outcome for the same document, one that passes if the first did. -/
theorem outcome {other : Outcome} (h : Effect first doc (o, after)) (hpassed : o.passed = true → other.passed = true) :
    Effect first doc (other, after) := by
  cases h with
  | unchanged => exact unchanged other
  | assigned passed mem evaluated set => exact assigned (hpassed passed) mem evaluated set

end Effect

namespace Rule
open Value (ordered_object_iff)

/-- Whether no `SET` stands inside the condition of an `IF`. -/
def judgesPurely : Rule → Bool
  | .or left right => left.judgesPurely && right.judgesPurely
  | .conditional condition action => condition.assignments.isEmpty && action.judgesPurely
  | .set .. | .nullCheck .. | .compare .. => true

theorem judgesPurely_of_assignments_eq_nil {rule : Rule} (h : rule.assignments = []) : rule.judgesPurely = true := by
  induction rule with
  | or left right ihl ihr =>
    obtain ⟨hleft, hright⟩ := List.append_eq_nil_iff.1 h
    rw [judgesPurely, ihl hleft, ihr hright]
    rfl
  | conditional condition action _ iha =>
    obtain ⟨hcondition, haction⟩ := List.append_eq_nil_iff.1 h
    rw [judgesPurely, hcondition, iha haction]
    rfl
  | _ => rfl

theorem document_of_assignments_eq_nil {rule : Rule} (h : rule.assignments = []) (doc : Value) :
    (rule.evaluate doc).2 = doc := by
  refine Keeps.evaluate (P := (· = doc)) ?_ rfl
  rw [h]
  exact fun a ha => absurd ha List.not_mem_nil

/-! One rule form after the other -/

theorem effect_evaluateSet (target : Path) (value : Operand) (doc : Value) :
    Effect [(target, value)] doc (evaluateSet target value doc) := by
  unfold evaluateSet
  split
  · exact .unchanged _
  · next found hfound =>
    split
    · next after hset => exact .assigned rfl List.mem_cons_self hfound hset
    · exact .unchanged _

theorem alternativeOutcome_passed (right : Rule) (l r : Outcome) :
    (alternativeOutcome right l r).passed = r.passed := by
  unfold alternativeOutcome Outcome.passed
  cases r.verdict <;> rfl

theorem actionOutcome_passed (action : Rule) (c a : Outcome) : (actionOutcome action c a).passed = a.passed := by
  unfold actionOutcome Outcome.passed
  cases a.verdict <;> rfl

theorem effect_afterLeft {left right : Rule} {runRight : Value → Outcome × Value} {doc mid : Value} {l : Outcome}
    {first later : List (Path × Operand)} (hleft : Effect first doc (l, mid))
    (hright : Effect later doc (runRight doc)) :
    Effect (first ++ later) doc (afterLeft left right runRight l mid) := by
  have hleft := hleft.mono (List.subset_append_left first later)
  have hright := hright.mono (List.subset_append_right first later)
  unfold afterLeft
  split
  · next e hverdict => exact hleft.outcome (by simp [Outcome.passed, hverdict])
  · exact hleft.outcome fun _ => rfl
  · next hverdict =>
    -- The left side did not pass, so the right side starts on the document that the rule started on.
    cases hleft.eq_of_not_passed (by simp [Outcome.passed, hverdict])
    exact hright.outcome (alternativeOutcome_passed right l _).trans

theorem effect_afterCondition {condition action : Rule} {runAction : Value → Outcome × Value} {doc : Value}
    {c : Outcome} {assignments : List (Path × Operand)} (haction : Effect assignments doc (runAction doc)) :
    Effect assignments doc (afterCondition condition action runAction c doc) := by
  unfold afterCondition
  split
  · exact .unchanged _
  · exact .unchanged _
  · exact haction.outcome (actionOutcome_passed action c _).trans

theorem effect_evaluate {rule : Rule} (hpure : rule.judgesPurely = true) (doc : Value) :
    Effect rule.assignments doc (rule.evaluate doc) := by
  induction rule with
  | or left right ihl ihr =>
    obtain ⟨hleft, hright⟩ := Bool.and_eq_true_iff.1 hpure
    exact effect_afterLeft (ihl hleft) (ihr hright)
  | set target value => exact effect_evaluateSet target value doc
  | conditional condition action _ iha =>
    obtain ⟨hcondition, haction⟩ := Bool.and_eq_true_iff.1 hpure
    have hsame := document_of_assignments_eq_nil (List.isEmpty_iff.1 hcondition) doc
    rw [evaluate]
    dsimp only
    rw [hsame]
    exact effect_afterCondition ((iha haction).mono (List.subset_append_right _ _))
  | nullCheck path negated => exact .unchanged _
  | compare left op right => exact .unchanged _

/-! Rules run in place -/

/-- The document that an assignment leaves in place, whether it comes to its end or not. -/
def assigned (target : Path) (value : Operand) (doc : Value) : Value :=
  match setValue value doc with
  | .error _ => doc
  | .ok found => (doc.assign target found.value).1

/-- A rule run in place: what an assignment that fails has made on its way stays in the document. -/
def perform : Rule → Value → Outcome × Value
  | .or left right, doc =>
    let (l, after) := left.perform doc
    afterLeft left right right.perform l after
  | .set target value, doc => ((evaluateSet target value doc).1, assigned target value doc)
  | .conditional condition action, doc =>
    let (c, after) := condition.perform doc
    afterCondition condition action action.perform c after
  | .nullCheck path negated, doc => (evaluateNullCheck path negated doc, doc)
  | .compare left op right, doc => (evaluateCompare left op right doc, doc)

theorem assigned_eq {doc : Value} (h : doc.Ordered) (target : Path) (value : Operand) :
    assigned target value doc = (evaluateSet target value doc).2 := by
  unfold assigned evaluateSet
  cases setValue value doc with
  | error f => rfl
  | ok found =>
    dsimp only
    rw [h.assign_eq]
    cases doc.set target found.value <;> rfl

theorem afterLeft_congr {left right : Rule} {run run' : Value → Outcome × Value} {l : Outcome} {doc : Value}
    (h : l.verdict = .ok false → run doc = run' doc) :
    afterLeft left right run l doc = afterLeft left right run' l doc := by
  unfold afterLeft
  split
  · rfl
  · rfl
  · next hverdict => rw [h hverdict]

theorem perform_eq {rule : Rule} (hpure : rule.judgesPurely = true) {doc : Value} (h : doc.Ordered) :
    rule.perform doc = rule.evaluate doc := by
  induction rule with
  | or left right ihl ihr =>
    obtain ⟨hleft, hright⟩ := Bool.and_eq_true_iff.1 hpure
    rw [perform, evaluate, ihl hleft]
    refine afterLeft_congr fun hverdict => ?_
    have hsame := (effect_evaluate hleft doc).eq_of_not_passed (by simp [Outcome.passed, hverdict])
    rw [hsame, ihr hright]
  | set target value => exact Prod.ext rfl (assigned_eq h target value)
  | conditional condition action ihc iha =>
    obtain ⟨hcondition, haction⟩ := Bool.and_eq_true_iff.1 hpure
    have hnone := List.isEmpty_iff.1 hcondition
    have hsame := document_of_assignments_eq_nil hnone doc
    rw [perform, evaluate, ihc (judgesPurely_of_assignments_eq_nil hnone)]
    dsimp only
    rw [hsame]
    unfold afterCondition
    rw [iha haction]
  | nullCheck path negated => rfl
  | compare left op right => rfl

/-- A rule that does not pass leaves the document as it was; one that passes leaves it too, or makes one of its
assignments and nothing else. Run in place on a document with its keys in order, it does the same. -/
theorem perform_at_most_one_assignment {rule : Rule} (hpure : rule.judgesPurely = true) (doc : Value) :
    (doc.Ordered → rule.perform doc = rule.evaluate doc) ∧
    ((rule.evaluate doc).1.passed = false → (rule.evaluate doc).2 = doc) ∧
    ((rule.evaluate doc).1.passed = true → (rule.evaluate doc).2 = doc ∨
      ∃ target value found, (target, value) ∈ rule.assignments ∧ setValue value doc = .ok found ∧
        doc.set target found.value = .ok (rule.evaluate doc).2) := by
  have heffect := effect_evaluate hpure doc
  refine ⟨perform_eq hpure, heffect.eq_of_not_passed, fun _ => ?_⟩
  generalize rule.evaluate doc = answer at heffect
  cases heffect with
  | unchanged o => exact .inl rfl
  | assigned passed mem evaluated set => exact .inr ⟨_, _, _, mem, evaluated, set⟩

/-- The second alternative of a rule: an item is written where there is a list, and not where a number stands. -/
theorem perform_second_alternative :
    let rule := Rule.or (.compare (.path ⟨"a", []⟩) .eq (.literal .null))
      (.conditional (.nullCheck ⟨"b", []⟩ true) (.set ⟨"b", [.index 1]⟩ (.path ⟨"a", []⟩)))
    let listed := Value.object [("a", .bool true), ("b", .array [])]
    let scalar := Value.object [("a", .bool true), ("b", .string "x")]
    rule.judgesPurely = true ∧ scalar.Ordered ∧
      (rule.evaluate listed).1.passed = true ∧ ((rule.evaluate listed).2 = listed ∨
        ∃ target value found, (target, value) ∈ rule.assignments ∧ setValue value listed = .ok found ∧
          listed.set target found.value = .ok (rule.evaluate listed).2) ∧
      (rule.evaluate scalar).1.passed = false ∧ (rule.evaluate scalar).2 = scalar ∧
      rule.perform scalar = rule.evaluate scalar := by
  intro rule listed scalar
  have hpure : rule.judgesPurely = true := rfl
  have hbool : (Value.bool true).Ordered := .scalar rfl
  have hstring : (Value.string "x").Ordered := .scalar rfl
  have hscalar : scalar.Ordered := ordered_object_iff.2 ⟨by decide, by simp [hbool, hstring]⟩
  have hpassed : (rule.evaluate listed).1.passed = true := by decide +kernel
  have hfailed : (rule.evaluate scalar).1.passed = false := by decide +kernel
  obtain ⟨-, -, hwritten⟩ := perform_at_most_one_assignment hpure listed
  obtain ⟨hperform, hkept, -⟩ := perform_at_most_one_assignment hpure scalar
  exact ⟨hpure, hscalar, hpassed, hwritten hpassed, hfailed, hkept hfailed, hperform hscalar⟩

end Rule

end PolicyEngine
