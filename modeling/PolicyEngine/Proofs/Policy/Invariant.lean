import PolicyEngine.Proofs.Document.Ordered
import PolicyEngine.Proofs.Policy.Footprint
import PolicyEngine.Proofs.Rule.Canonical

/-! What every assignment keeps of a document, every run keeps. Rules change a document by the assignments in them
and by nothing else, so this is shown once for any property of documents. -/
namespace PolicyEngine

/-! Assignments -/

/-- The targets and values of all `SET` rules in a rule. -/
def Rule.assignments : Rule → List (Path × Operand)
  | .or left right => left.assignments ++ right.assignments
  | .set target value => [(target, value)]
  | .conditional condition action => condition.assignments ++ action.assignments
  | .nullCheck .. | .compare .. => []

/-- A text that is no rule assigns nothing. -/
def PolicyRule.assignments (r : PolicyRule) : List (Path × Operand) :=
  match r.parsed with
  | .ok rule => rule.assignments
  | .error _ => []

/-- Whatever is true of a document stays true when any of the assignments is made. -/
def Keeps (assignments : List (Path × Operand)) (P : Value → Prop) : Prop :=
  ∀ a ∈ assignments, ∀ doc, P doc → P (Rule.evaluateSet a.1 a.2 doc).2

namespace Keeps

variable {P : Value → Prop} {first later assignments : List (Path × Operand)}

theorem left (h : Keeps (first ++ later) P) : Keeps first P :=
  fun a ha => h a (List.mem_append_left _ ha)

theorem right (h : Keeps (first ++ later) P) : Keeps later P :=
  fun a ha => h a (List.mem_append_right _ ha)

theorem afterLeft {left right : Rule} {runRight : Value → Outcome × Value} {doc : Value} (l : Outcome)
    (hright : ∀ doc, P doc → P (runRight doc).2) (h : P doc) : P (Rule.afterLeft left right runRight l doc).2 := by
  unfold Rule.afterLeft
  split
  · exact h
  · exact h
  · exact hright doc h

theorem afterCondition {condition action : Rule} {runAction : Value → Outcome × Value} {doc : Value} (c : Outcome)
    (haction : ∀ doc, P doc → P (runAction doc).2) (h : P doc) :
    P (Rule.afterCondition condition action runAction c doc).2 := by
  unfold Rule.afterCondition
  split
  · exact h
  · exact h
  · exact haction doc h

theorem evaluate {rule : Rule} (hkeeps : Keeps rule.assignments P) {doc : Value} (h : P doc) :
    P (rule.evaluate doc).2 := by
  induction rule generalizing doc with
  | or left right ihl ihr =>
    rw [Rule.evaluate]
    exact afterLeft _ (fun doc hdoc => ihr hkeeps.right hdoc) (ihl hkeeps.left h)
  | set target value => exact hkeeps (target, value) List.mem_cons_self doc h
  | conditional condition action ihc iha =>
    rw [Rule.evaluate]
    exact afterCondition _ (fun doc hdoc => iha hkeeps.right hdoc) (ihc hkeeps.left h)
  | nullCheck path negated => exact h
  | compare left op right => exact h

theorem evaluateRule {rule : PolicyRule} (hkeeps : Keeps rule.assignments P) {doc : Value} (h : P doc) :
    P (rule.evaluate doc).2 := by
  unfold PolicyRule.evaluate
  cases hparsed : rule.parsed with
  | error e => exact h
  | ok parsed =>
    rw [PolicyRule.assignments, hparsed] at hkeeps
    exact hkeeps.evaluate h

theorem run {rules : List PolicyRule} (hkeeps : Keeps (rules.flatMap PolicyRule.assignments) P) {doc : Value}
    (h : P doc) : P (Policy.run rules doc).2.2 := by
  induction rules generalizing doc with
  | nil => exact h
  | cons rule rest ih =>
    rw [List.flatMap_cons] at hkeeps
    have hafter := hkeeps.left.evaluateRule h
    rw [Policy.run]
    dsimp only
    split
    · exact hafter
    · exact ih hkeeps.right hafter

theorem executeName {r : Registry} {name : String}
    (hkeeps : Keeps ((r.rulesOf name).flatMap PolicyRule.assignments) P) {doc : Value} (h : P doc) :
    P (r.executeName name doc).2 := by
  unfold Registry.executeName
  cases hget : r.get? name with
  | none => exact h
  | some policy =>
    have hrules : r.rulesOf name = policy.rules := by rw [Registry.rulesOf, hget]; rfl
    rw [hrules] at hkeeps
    exact hkeeps.run h

theorem execute {r : Registry} {names : List String}
    (hkeeps : ∀ name ∈ names, Keeps ((r.rulesOf name).flatMap PolicyRule.assignments) P) {doc : Value} (h : P doc) :
    P (r.execute names doc).2 := by
  induction names generalizing doc with
  | nil => exact h
  | cons name rest ih =>
    rw [Registry.execute]
    exact ih (fun other hother => hkeeps other (List.mem_cons_of_mem _ hother))
      ((hkeeps name List.mem_cons_self).executeName h)

end Keeps

/-! Order of keys -/

theorem Operand.IsCanonical.ordered_evaluate {operand : Operand} (hcanonical : operand.IsCanonical) {doc : Value}
    (h : doc.Ordered) {found : Found} (hfound : operand.evaluate doc = .ok found) : found.value.Ordered := by
  cases hcanonical with
  | path plain =>
    rw [Operand.evaluate] at hfound
    split at hfound
    · next v hget =>
      cases hfound
      exact h.getAt hget
    · cases hfound
      exact .scalar rfl
    · cases hfound
  | literal scalar _ =>
    cases hfound
    exact .scalar scalar
  | call call term =>
    obtain ⟨x, hx⟩ : ∃ x, found.value = .number x := by
      cases operand with
      | exp term =>
        rw [Operand.evaluate] at hfound
        obtain ⟨inner, -, hfound⟩ := bind_eq_ok_iff.1 hfound
        obtain ⟨x, -, hfound⟩ := bind_eq_ok_iff.1 hfound
        cases hfound
        exact ⟨x, rfl⟩
      | arith left op right =>
        rw [Operand.evaluate] at hfound
        obtain ⟨l, -, hfound⟩ := bind_eq_ok_iff.1 hfound
        obtain ⟨x, -, hfound⟩ := bind_eq_ok_iff.1 hfound
        obtain ⟨r, -, hfound⟩ := bind_eq_ok_iff.1 hfound
        obtain ⟨y, -, hfound⟩ := bind_eq_ok_iff.1 hfound
        rw [Operand.arithmetic] at hfound
        split at hfound
        · cases hfound
        · cases hfound
          exact ⟨op.apply x y, rfl⟩
      | aggregate op p =>
        rw [Operand.evaluate] at hfound
        split at hfound
        · next x _ =>
          cases hfound
          exact ⟨x, rfl⟩
        · cases hfound
      | _ => cases call
    rw [hx]
    exact .scalar rfl

theorem Rule.IsCanonical.of_assignments {rule : Rule} (h : rule.IsCanonical) :
    ∀ a ∈ rule.assignments, a.2.IsCanonical := by
  induction h with
  | or _ _ _ ihl ihr => exact List.forall_mem_append.2 ⟨ihl, ihr⟩
  | set _ hvalue =>
    intro a ha
    cases List.mem_singleton.1 ha
    exact hvalue
  | conditional _ _ _ _ _ ihc iha => exact List.forall_mem_append.2 ⟨ihc, iha⟩
  | nullCheck _ | compare _ _ _ _ _ | membership _ _ => simp [Rule.assignments]

theorem PolicyRule.isCanonical_of_mem_assignments {rule : PolicyRule} {a : Path × Operand}
    (ha : a ∈ rule.assignments) : a.2.IsCanonical := by
  unfold PolicyRule.assignments at ha
  split at ha
  · next parsed hparsed =>
    rw [rule.parsed_eq] at hparsed
    exact (Rule.isCanonical_of_parse hparsed).of_assignments a ha
  · cases ha

theorem ordered_evaluateSet {target : Path} {value : Operand} (hvalue : value.IsCanonical) {doc : Value}
    (h : doc.Ordered) : (Rule.evaluateSet target value doc).2.Ordered := by
  unfold Rule.evaluateSet
  split
  · exact h
  · next found hfound =>
    have hordered : found.value.Ordered := by
      unfold Rule.setValue at hfound
      split at hfound
      · cases hfound
        cases hvalue with
        | literal scalar _ => exact .scalar scalar
        | call call _ => cases call
      · exact hvalue.ordered_evaluate h hfound
    split
    · next after hset => exact hordered.setAt h hset
    · exact h

/-- The policies keep the objects of a document in order. -/
theorem Registry.ordered_execute (r : Registry) (names : List String) {doc : Value} (h : doc.Ordered) :
    (r.execute names doc).2.Ordered := by
  refine Keeps.execute (fun name _ => ?_) h
  rintro ⟨target, value⟩ ha doc hdoc
  obtain ⟨rule, -, hmem⟩ := List.mem_flatMap.1 ha
  exact ordered_evaluateSet (PolicyRule.isCanonical_of_mem_assignments hmem) hdoc

end PolicyEngine
