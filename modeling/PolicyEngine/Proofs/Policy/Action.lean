import PolicyEngine.Proofs.Policy.Halting

/-! Action rules that neither fail nor hold. A `SET` holds wherever it does not fail. An `IF` whose condition
holds gives the verdict of its action, so it does not hold where it comes down to a condition that does not; the
policy goes on and records it with the status of rules that do hold. -/
namespace PolicyEngine

/-- An outcome without an error and without a pass is a verdict of its own. -/
theorem Outcome.error?_or_passed_iff (o : Outcome) :
    (∃ e, o.error? = some e) ∨ o.passed = true ↔ o.verdict ≠ .ok false := by
  unfold Outcome.error? Outcome.passed
  cases o.verdict with
  | error e => simp
  | ok b => cases b <;> simp

namespace Rule

/-- The rule whose verdict a rule gives, with the document on which it is evaluated: for an `IF` whose condition
holds, that of its action. There is none where a condition fails or does not hold. -/
def decisive : Rule → Value → Option (Rule × Value)
  | .conditional condition action, doc =>
    match (condition.evaluate doc).1.verdict with
    | .ok true => action.decisive (condition.evaluate doc).2
    | _ => none
  | rule, doc => some (rule, doc)

/-- A rule misses if it comes down to a condition that does not hold. -/
def Misses (rule : Rule) (doc : Value) : Prop :=
  ∃ judge mid, rule.decisive doc = some (judge, mid) ∧ judge.isAction = false ∧
    (judge.evaluate mid).1.verdict = .ok false

theorem misses_of_decisive {rule : Rule} {doc : Value} (h : rule.decisive doc = some (rule, doc)) :
    rule.Misses doc ↔ rule.isAction = false ∧ (rule.evaluate doc).1.verdict = .ok false := by
  constructor
  · rintro ⟨judge, mid, heq, haction, hfalse⟩
    rw [h] at heq
    cases heq
    exact ⟨haction, hfalse⟩
  · rintro ⟨haction, hfalse⟩
    exact ⟨rule, doc, h, haction, hfalse⟩

theorem evaluateSet_verdict_ne (target : Path) (value : Operand) (doc : Value) :
    (evaluateSet target value doc).1.verdict ≠ .ok false := by
  unfold evaluateSet
  split
  · simp [Failure.outcome]
  · split <;> simp

theorem verdict_conditional (condition action : Rule) (doc : Value) :
    ((conditional condition action).evaluate doc).1.verdict =
      match (condition.evaluate doc).1.verdict with
      | .error e => .error e
      | .ok false => .ok true
      | .ok true => (action.evaluate (condition.evaluate doc).2).1.verdict := by
  rw [evaluate]
  dsimp only
  unfold afterCondition
  split <;> simp_all only [actionOutcome]
  split <;> simp_all only

/-- By induction on the rule; only an `IF` passes the question on. -/
theorem verdict_eq_false_iff (rule : Rule) (doc : Value) :
    (rule.evaluate doc).1.verdict = .ok false ↔ rule.Misses doc := by
  induction rule generalizing doc with
  | or left right =>
    rw [misses_of_decisive rfl]
    simp [isAction]
  | set target value =>
    rw [misses_of_decisive rfl, evaluate]
    simp [evaluateSet_verdict_ne]
  | conditional condition action _ ih =>
    rw [verdict_conditional]
    unfold Misses decisive
    cases (condition.evaluate doc).1.verdict with
    | error e => simp
    | ok b =>
      cases b with
      | false => simp
      | true => exact ih _
  | nullCheck path negated =>
    rw [misses_of_decisive rfl]
    simp [isAction]
  | compare left op right =>
    rw [misses_of_decisive rfl]
    simp [isAction]

/-- Whether a rule is a `SET`, at the end of any number of `IF` rules. -/
def endsInSet : Rule → Bool
  | .set .. => true
  | .conditional _ action => action.endsInSet
  | _ => false

theorem not_misses_of_endsInSet {rule : Rule} (h : rule.endsInSet = true) (doc : Value) : ¬ rule.Misses doc := by
  induction rule generalizing doc with
  | set target value =>
    rw [misses_of_decisive rfl]
    simp
  | conditional condition action _ ih =>
    rintro ⟨judge, mid, heq, hjudge⟩
    rw [decisive] at heq
    split at heq
    · exact ih h _ ⟨judge, mid, heq, hjudge⟩
    · cases heq
  | _ => cases h

theorem error?_or_passed_iff (rule : Rule) (doc : Value) :
    (∃ e, (rule.evaluate doc).1.error? = some e) ∨ (rule.evaluate doc).1.passed = true ↔ ¬ rule.Misses doc := by
  rw [Outcome.error?_or_passed_iff, ne_eq, verdict_eq_false_iff]

end Rule

/-! Records -/

theorem RuleRecord.status_ok_of_fault? {r : RuleRecord} (h : r.fault? = none) : r.status = .ok := by
  unfold RuleRecord.fault? at h
  unfold RuleRecord.status
  split at h
  · cases h
  · split at h
    · simp_all
    · cases h

/-- The status is that of a rule that holds, or of an action rule that gives the verdict `false`. -/
theorem RuleRecord.of_status_ok {r : RuleRecord} (h : r.status = .ok) :
    r.outcome.passed = true ∨ r.rule.isAction = true ∧ r.outcome.verdict = .ok false := by
  unfold RuleRecord.status at h
  unfold Outcome.passed
  split at h
  · cases h
  · next b hverdict => cases b <;> simp_all

namespace Policy

/-- Every record of a run is that of its rule on some document. -/
theorem exists_record_of_mem_run {rules : List PolicyRule} {doc : Value} {record : RuleRecord}
    (h : record ∈ (run rules doc).1) : ∃ mid, record = record.rule.record mid := by
  induction rules generalizing doc with
  | nil => cases h
  | cons r rest ih =>
    by_cases hhalts : r.Halts doc
    · obtain ⟨fault, hfault⟩ := hhalts.exists_fault
      rw [run_cons_of_halts hfault, List.mem_singleton] at h
      exact ⟨doc, h ▸ rfl⟩
    · rw [run_cons_of_goes hhalts] at h
      rcases List.mem_cons.1 h with rfl | h
      · exact ⟨doc, rfl⟩
      · exact ih h

theorem status_ok_of_run {rules : List PolicyRule} {doc : Value} (h : (run rules doc).2.1 = none) :
    ∀ record ∈ (run rules doc).1, record.status = .ok := by
  induction rules generalizing doc with
  | nil => simp
  | cons r rest ih =>
    by_cases hhalts : r.Halts doc
    · obtain ⟨fault, hfault⟩ := hhalts.exists_fault
      rw [run_cons_of_halts hfault] at h
      cases h
    · rw [run_cons_of_goes hhalts] at h ⊢
      intro record hrecord
      rcases List.mem_cons.1 hrecord with rfl | hrecord
      · exact RuleRecord.status_ok_of_fault? (PolicyRule.fault?_record_eq_none hhalts)
      · exact ih h record hrecord

/-- An action rule holds where it does not fail if it ends in a `SET`, and in general if it does not come down to a
condition that does not hold. Records of such misses are the only ones that have the status of rules that hold
without holding; all records of a policy that passes have this status. -/
theorem action_holds_unless_misses (p : Policy) (doc : Value) :
    (∀ rule : Rule, rule.endsInSet = true → ∀ d,
      (∃ e, (rule.evaluate d).1.error? = some e) ∨ (rule.evaluate d).1.passed = true) ∧
    (∀ rule : Rule, rule.isAction = true → ∀ d,
      ((∃ e, (rule.evaluate d).1.error? = some e) ∨ (rule.evaluate d).1.passed = true ↔ ¬ rule.Misses d)) ∧
    (∀ record ∈ (p.execute doc).1.records, record.status = .ok → record.outcome.passed = true ∨
      ∃ rule mid, record.rule.parsed = .ok rule ∧ rule.isAction = true ∧ rule.Misses mid ∧
        record.outcome = (rule.evaluate mid).1) ∧
    ((p.execute doc).1.passed = true → ∀ record ∈ (p.execute doc).1.records, record.status = .ok) := by
  refine ⟨?ended, ?action, ?status, ?passed⟩
  case ended =>
    intro rule h d
    exact (rule.error?_or_passed_iff d).2 (Rule.not_misses_of_endsInSet h d)
  case action =>
    intro rule _ d
    exact rule.error?_or_passed_iff d
  case status =>
    intro record hrecord hstatus
    rcases RuleRecord.of_status_ok hstatus with hpassed | ⟨haction, hfalse⟩
    · exact .inl hpassed
    · right
      obtain ⟨mid, hmid⟩ := exists_record_of_mem_run hrecord
      cases hparsed : record.rule.parsed with
      | error e => simp [PolicyRule.isAction, hparsed] at haction
      | ok rule =>
        have houtcome : record.outcome = (rule.evaluate mid).1 := by
          rw [hmid]
          simp only [PolicyRule.record, PolicyRule.evaluate, hparsed]
        refine ⟨rule, mid, rfl, ?_, ?_, houtcome⟩
        · simpa only [PolicyRule.isAction, hparsed] using haction
        · rw [houtcome] at hfalse
          exact (rule.verdict_eq_false_iff mid).1 hfalse
  case passed =>
    intro h
    exact status_ok_of_run (Option.isNone_iff_eq_none.1 h)

/-- An `IF` whose action is a comparison does not hold, and yet has no error, its record the status of rules that
hold and its policy a pass. -/
theorem misses_comparison_as_action :
    let rule := PolicyRule.ofText "IF $.a == 1 THEN $.a == 2"
    let doc := Value.object [("a", .number 1)]
    let result := ((Policy.mk "p" [rule]).execute doc).1
    rule.isAction = true ∧ (rule.evaluate doc).1.error?.isNone = true ∧ (rule.evaluate doc).1.passed = false ∧
      result.records.map (fun r => (r.status, r.outcome.passed)) = [(.ok, false)] ∧ result.passed = true := by
  decide +kernel

end Policy

end PolicyEngine
