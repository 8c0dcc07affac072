import PolicyEngine.Policy.Basic
import PolicyEngine.Proofs.Outcomes

/-! Where a policy halts. A run records the rules up to the first one that fails or does not hold, that one
included, and leaves the document that they leave when nothing halts them; what stands behind it has no effect. -/
namespace PolicyEngine

/-- A rule halts its policy on a document if it fails there, or if it judges the document and does not hold. -/
def PolicyRule.Halts (r : PolicyRule) (doc : Value) : Prop :=
  (∃ e, (r.evaluate doc).1.verdict = .error e) ∨ (r.evaluate doc).1.verdict = .ok false ∧ r.isAction = false

/-- What is recorded of a rule on a document. -/
def PolicyRule.record (r : PolicyRule) (doc : Value) : RuleRecord := ⟨r, (r.evaluate doc).1⟩

namespace Policy

/-- The document after all of some rules, none of them halting the others. -/
def documentAfter (rules : List PolicyRule) (doc : Value) : Value := rules.foldl (fun d r => (r.evaluate d).2) doc

/-- The records of all of some rules, each evaluated on the document that the ones before it left. -/
def recordsOf : List PolicyRule → Value → List RuleRecord
  | [], _ => []
  | r :: rest, doc => r.record doc :: recordsOf rest (r.evaluate doc).2

@[simp] theorem documentAfter_nil (doc : Value) : documentAfter [] doc = doc := rfl

@[simp] theorem documentAfter_cons (rule : PolicyRule) (rest : List PolicyRule) (doc : Value) :
    documentAfter (rule :: rest) doc = documentAfter rest (rule.evaluate doc).2 := rfl

@[simp] theorem recordsOf_nil (doc : Value) : recordsOf [] doc = [] := rfl

@[simp] theorem recordsOf_cons (rule : PolicyRule) (rest : List PolicyRule) (doc : Value) :
    recordsOf (rule :: rest) doc = rule.record doc :: recordsOf rest (rule.evaluate doc).2 := rfl

end Policy

/-! One rule -/

namespace PolicyRule

theorem halts_iff (r : PolicyRule) (doc : Value) : r.Halts doc ↔ (r.record doc).fault?.isSome = true := by
  unfold Halts record RuleRecord.fault?
  cases (r.evaluate doc).1.verdict with
  | error e => simp
  | ok b => cases b <;> cases r.isAction <;> simp

instance (r : PolicyRule) (doc : Value) : Decidable (r.Halts doc) := decidable_of_iff _ (halts_iff r doc).symm

theorem Halts.exists_fault {r : PolicyRule} {doc : Value} (h : r.Halts doc) :
    ∃ fault, (r.record doc).fault? = some fault :=
  Option.isSome_iff_exists.1 ((halts_iff r doc).1 h)

theorem fault?_record_eq_none {r : PolicyRule} {doc : Value} (h : ¬ r.Halts doc) :
    (r.record doc).fault? = none := by
  rwa [halts_iff, Bool.not_eq_true, Option.isSome_eq_false_iff, Option.isNone_iff_eq_none] at h

end PolicyRule

namespace Policy

variable {rules first rest : List PolicyRule} {rule : PolicyRule} {doc : Value} {k : Nat}

theorem run_cons_of_halts {fault : PolicyFault} (h : (rule.record doc).fault? = some fault) :
    run (rule :: rest) doc = ([rule.record doc], some fault, (rule.evaluate doc).2) := by
  unfold PolicyRule.record at h ⊢
  simp only [run, h]

theorem run_cons_of_goes (h : ¬ rule.Halts doc) :
    run (rule :: rest) doc =
      (rule.record doc :: (run rest (rule.evaluate doc).2).1, (run rest (rule.evaluate doc).2).2) := by
  have hfault := PolicyRule.fault?_record_eq_none h
  unfold PolicyRule.record at hfault ⊢
  simp only [run, hfault]

end Policy

end PolicyEngine
