import PolicyEngine.Policy.Registry
import PolicyEngine.Proofs.Fields

/-! Footprints: the root keys that rules and policies read and write. What a run does is fixed by the
entries under these keys, and it adds entries under written keys only. -/
namespace PolicyEngine

/-- The root keys whose values an operand depends on. -/
def Operand.readRoots : Operand → List String
  | .path p => [p.root]
  | .literal _ => []
  | .exp term => term.readRoots
  | .arith left _ right => left.readRoots ++ right.readRoots
  | .aggregate _ p => [p.root]
  | .list _ => []

namespace Rule

def readRoots : Rule → List String
  | .or left right => left.readRoots ++ right.readRoots
  | .set _ value => value.readRoots
  | .conditional condition action => condition.readRoots ++ action.readRoots
  | .nullCheck path _ => [path.root]
  | .compare left _ right => left.readRoots ++ right.readRoots

/-- The root keys of the targets of all `SET` rules in a rule. -/
def writeRoots : Rule → List String
  | .or left right => left.writeRoots ++ right.writeRoots
  | .set target _ => [target.root]
  | .conditional condition action => condition.writeRoots ++ action.writeRoots
  | .nullCheck .. | .compare .. => []

end Rule

namespace PolicyRule

/-- A text that is no rule reads nothing. -/
def readRoots (r : PolicyRule) : List String :=
  match r.parsed with
  | .ok rule => rule.readRoots
  | .error _ => []

def writeRoots (r : PolicyRule) : List String :=
  match r.parsed with
  | .ok rule => rule.writeRoots
  | .error _ => []

end PolicyRule

namespace Registry

/-- The rules that run under a name, none if it is not defined. -/
def rulesOf (r : Registry) (name : String) : List PolicyRule := ((r.get? name).map Policy.rules).getD []

def readRoots (r : Registry) (name : String) : List String := (r.rulesOf name).flatMap PolicyRule.readRoots

def writeRoots (r : Registry) (name : String) : List String := (r.rulesOf name).flatMap PolicyRule.writeRoots

end Registry

open Fields (Agree merge)

/-- On objects that agree at the read and the written keys, `f` answers alike and adds the same entries,
all under written keys. -/
def Confined {α : Type} (reads writes : List String) (f : Value → α × Value) : Prop :=
  ∀ fields, ∃ answer added, (∀ p ∈ added, p.1 ∈ writes) ∧
    ∀ others, Agree (reads ++ writes) fields others →
      f (.object others) = (answer, .object (merge others added))

namespace Confined

variable {α β : Type} {reads writes : List String} {f : Value → α × Value} {g : α → Value → β × Value}

theorem mono {reads' writes' : List String} (h : Confined reads writes f) (hr : reads ⊆ reads')
    (hw : writes ⊆ writes') : Confined reads' writes' f := by
  intro fields
  obtain ⟨answer, added, hadded, hf⟩ := h fields
  refine ⟨answer, added, fun p hp => hw (hadded p hp), fun others hagree => hf others ?_⟩
  exact hagree.mono (List.append_subset.2
    ⟨List.subset_append_of_subset_left _ hr, List.subset_append_of_subset_right _ hw⟩)

/-- What only looks at the document is confined by the keys that it looks at. -/
theorem ofAnswer {answer : Value → α}
    (h : ∀ fields others, Agree reads fields others → answer (.object fields) = answer (.object others)) :
    Confined reads writes fun doc => (answer doc, doc) := by
  intro fields
  refine ⟨answer (.object fields), [], by simp, fun others hagree => ?_⟩
  have hreads : Agree reads fields others := hagree.mono (List.subset_append_left _ _)
  rw [h fields others hreads]
  rfl

theorem const (a : α) : Confined reads writes fun doc => (a, doc) := by
  intro fields
  exact ⟨a, [], by simp, fun _ _ => rfl⟩

theorem bind (hf : Confined reads writes f) (hg : ∀ a, Confined reads writes (g a)) :
    Confined reads writes fun doc => g (f doc).1 (f doc).2 := by
  intro fields
  obtain ⟨a, first, hfirst, hf⟩ := hf fields
  obtain ⟨b, later, hlater, hg⟩ := hg a (merge fields first)
  refine ⟨b, first ++ later, ?_, fun others hagree => ?_⟩
  · intro p hp
    exact (List.mem_append.1 hp).elim (hfirst p) (hlater p)
  · simp only [hf others hagree, hg _ (hagree.merge first), Fields.merge_append]

theorem map (h : α → β) (hf : Confined reads writes f) :
    Confined reads writes fun doc => (h (f doc).1, (f doc).2) :=
  hf.bind fun a => const (h a)

end Confined

/-! Operands -/

theorem Value.get_agree {p : Path} {fields others : List (String × Value)}
    (h : Agree [p.root] fields others) : (Value.object fields).get p = (Value.object others).get p := by
  simp only [Value.get, Path.segments, Value.getAt, h p.root List.mem_cons_self]

theorem AggregateOp.evaluate_agree {op : AggregateOp} {p : Path} {fields others : List (String × Value)}
    (h : Agree [p.root] fields others) :
    op.evaluate (.object fields) p = op.evaluate (.object others) p := by
  simp only [AggregateOp.evaluate, Value.get_agree h]

theorem Operand.evaluate_agree {operand : Operand} {fields others : List (String × Value)}
    (h : Agree operand.readRoots fields others) :
    operand.evaluate (.object fields) = operand.evaluate (.object others) := by
  induction operand with
  | path p => simp only [Operand.evaluate, Value.get_agree h]
  | literal v => rfl
  | exp term ih => simp only [Operand.evaluate, ih h]
  | arith left op right ihl ihr =>
    have hl := ihl (h.mono (List.subset_append_left _ _))
    have hr := ihr (h.mono (List.subset_append_right _ _))
    simp only [Operand.evaluate, hl, hr]
  | aggregate op p => simp only [Operand.evaluate, AggregateOp.evaluate_agree h]
  | list items => rfl

/-! Rules -/

namespace Rule

theorem evaluateCompare_confined (left : Operand) (op : CompareOp) (right : Operand) :
    Confined (left.readRoots ++ right.readRoots) [] fun doc => (evaluateCompare left op right doc, doc) := by
  refine Confined.ofAnswer fun fields others h => ?_
  have hl := Operand.evaluate_agree (h.mono (List.subset_append_left _ _))
  have hr := Operand.evaluate_agree (h.mono (List.subset_append_right _ _))
  simp only [evaluateCompare, hl, hr]

theorem evaluateNullCheck_confined (path : Path) (negated : Bool) :
    Confined [path.root] [] fun doc => (evaluateNullCheck path negated doc, doc) := by
  refine Confined.ofAnswer fun fields others h => ?_
  simp only [evaluateNullCheck, Value.get_agree h]

/-- Writing under a root key looks at nothing but the entry of that key, and replaces it. -/
theorem set_confined (p : Path) (value : Value) (fields : List (String × Value)) :
    (∃ child, ∀ others, Agree [p.root] fields others →
      (Value.object others).set p value = .ok (.object (Fields.insert p.root child others))) ∨
    ∃ fault, ∀ others, Agree [p.root] fields others → (Value.object others).set p value = .error fault := by
  cases hset : Value.setAt value p.rest ((Fields.get? p.root fields).getD (Value.fresh p.rest)) with
  | ok child =>
    refine .inl ⟨child, fun others h => ?_⟩
    simp only [Value.set, Path.segments, Value.setAt, ← h p.root List.mem_cons_self, hset]
    rfl
  | error fault =>
    refine .inr ⟨fault.under (.key p.root), fun others h => ?_⟩
    simp only [Value.set, Path.segments, Value.setAt, ← h p.root List.mem_cons_self, hset]
    rfl

theorem setValue_agree {value : Operand} {fields others : List (String × Value)}
    (h : Agree value.readRoots fields others) :
    setValue value (.object fields) = setValue value (.object others) := by
  cases value with
  | literal v => rfl
  | _ => exact Operand.evaluate_agree h

theorem evaluateSet_confined (target : Path) (value : Operand) :
    Confined value.readRoots [target.root] (evaluateSet target value) := by
  intro fields
  have hvalue : ∀ others, Agree (value.readRoots ++ [target.root]) fields others →
      setValue value (.object others) = setValue value (.object fields) :=
    fun others h => (setValue_agree (h.mono (List.subset_append_left _ _))).symm
  have hself : Agree [target.root] fields fields := fun _ _ => rfl
  cases hv : setValue value (.object fields) with
  | error f =>
    refine ⟨(evaluateSet target value (.object fields)).1, [], by simp, fun others h => ?_⟩
    simp only [evaluateSet, hvalue others h, hv, Fields.merge_nil]
  | ok found =>
    rcases set_confined target found.value fields with ⟨child, hset⟩ | ⟨fault, hset⟩
    · refine ⟨(evaluateSet target value (.object fields)).1, [(target.root, child)], by simp,
        fun others h => ?_⟩
      have hothers := hset others (h.mono (List.subset_append_right _ _))
      simp only [evaluateSet, hvalue others h, hv, hothers, hset fields hself, Fields.merge_cons,
        Fields.merge_nil]
    · refine ⟨(evaluateSet target value (.object fields)).1, [], by simp, fun others h => ?_⟩
      have hothers := hset others (h.mono (List.subset_append_right _ _))
      simp only [evaluateSet, hvalue others h, hv, hothers, hset fields hself, Fields.merge_nil]

theorem afterLeft_confined {reads writes : List String} {runRight : Value → Outcome × Value}
    (left right : Rule) (hright : Confined reads writes runRight) (l : Outcome) :
    Confined reads writes fun doc => afterLeft left right runRight l doc := by
  cases hv : l.verdict with
  | error e =>
    simp only [afterLeft, hv]
    exact Confined.const _
  | ok b =>
    cases b with
    | true =>
      simp only [afterLeft, hv]
      exact Confined.const _
    | false =>
      simp only [afterLeft, hv]
      exact hright.map (alternativeOutcome right l)

theorem afterCondition_confined {reads writes : List String} {runAction : Value → Outcome × Value}
    (condition action : Rule) (haction : Confined reads writes runAction) (c : Outcome) :
    Confined reads writes fun doc => afterCondition condition action runAction c doc := by
  cases hv : c.verdict with
  | error e =>
    simp only [afterCondition, hv]
    exact Confined.const _
  | ok b =>
    cases b with
    | true =>
      simp only [afterCondition, hv]
      exact haction.map (actionOutcome action c)
    | false =>
      simp only [afterCondition, hv]
      exact Confined.const _

/-- The induction follows the rule; the two forms that run rules in turn are confined by the keys of
both parts. -/
theorem evaluate_confined (rule : Rule) : Confined rule.readRoots rule.writeRoots rule.evaluate := by
  induction rule with
  | set target value => exact evaluateSet_confined target value
  | nullCheck path negated => exact evaluateNullCheck_confined path negated
  | compare left op right => exact evaluateCompare_confined left op right
  | or left right ihl ihr =>
    have hl := ihl.mono (List.subset_append_left _ right.readRoots)
      (List.subset_append_left _ right.writeRoots)
    have hr := ihr.mono (List.subset_append_right left.readRoots _)
      (List.subset_append_right left.writeRoots _)
    exact hl.bind fun l => afterLeft_confined left right hr l
  | conditional condition action ihc iha =>
    have hc := ihc.mono (List.subset_append_left _ action.readRoots)
      (List.subset_append_left _ action.writeRoots)
    have ha := iha.mono (List.subset_append_right condition.readRoots _)
      (List.subset_append_right condition.writeRoots _)
    exact hc.bind fun c => afterCondition_confined condition action ha c

end Rule

/-! Policies -/

theorem PolicyRule.evaluate_confined (r : PolicyRule) : Confined r.readRoots r.writeRoots r.evaluate := by
  cases hp : r.parsed with
  | error e =>
    have he : r.evaluate = fun doc => (Rule.invalid e, doc) := by funext doc; simp only [evaluate, hp]
    rw [he]
    exact Confined.const _
  | ok rule =>
    have he : r.evaluate = rule.evaluate := by funext doc; simp only [evaluate, hp]
    simp only [he, readRoots, writeRoots, hp]
    exact rule.evaluate_confined

namespace Policy

/-- A run as a document with an answer: the records and what stopped it. -/
def runAnswer (rules : List PolicyRule) (doc : Value) : (List RuleRecord × Option PolicyFault) × Value :=
  (((run rules doc).1, (run rules doc).2.1), (run rules doc).2.2)

theorem runAnswer_of_fault {rule : PolicyRule} {rest : List PolicyRule} {doc after : Value} {o : Outcome}
    {fault : PolicyFault} (hrule : rule.evaluate doc = (o, after))
    (hfault : (RuleRecord.mk rule o).fault? = some fault) :
    runAnswer (rule :: rest) doc = (([⟨rule, o⟩], some fault), after) := by
  simp only [runAnswer, run, hrule, hfault]

theorem runAnswer_of_noFault {rule : PolicyRule} {rest : List PolicyRule} {doc after : Value} {o : Outcome}
    (hrule : rule.evaluate doc = (o, after)) (hfault : (RuleRecord.mk rule o).fault? = none) :
    runAnswer (rule :: rest) doc =
      ((⟨rule, o⟩ :: (runAnswer rest after).1.1, (runAnswer rest after).1.2), (runAnswer rest after).2) := by
  simp only [runAnswer, run, hrule, hfault]

/-- Whether the run goes on after its first rule is settled by the outcome of that rule, which is the
same on objects that agree at the footprint. -/
theorem run_confined (rules : List PolicyRule) :
    Confined (rules.flatMap PolicyRule.readRoots) (rules.flatMap PolicyRule.writeRoots)
      (runAnswer rules) := by
  induction rules with
  | nil => exact Confined.const ([], none)
  | cons rule rest ih =>
    intro fields
    have hrule := rule.evaluate_confined.mono
      (List.subset_append_left _ (rest.flatMap PolicyRule.readRoots))
      (List.subset_append_left _ (rest.flatMap PolicyRule.writeRoots))
    have hrest := ih.mono (List.subset_append_right rule.readRoots _)
      (List.subset_append_right rule.writeRoots _)
    rw [List.flatMap_cons, List.flatMap_cons]
    obtain ⟨o, first, hfirst, hrun⟩ := hrule fields
    cases hfault : (RuleRecord.mk rule o).fault? with
    | some fault =>
      exact ⟨_, first, hfirst, fun others h => runAnswer_of_fault (hrun others h) hfault⟩
    | none =>
      obtain ⟨answer, later, hlater, hrest⟩ := hrest (merge fields first)
      refine ⟨(⟨rule, o⟩ :: answer.1, answer.2), first ++ later, ?_, fun others h => ?_⟩
      · intro p hp
        exact (List.mem_append.1 hp).elim (hfirst p) (hlater p)
      · rw [runAnswer_of_noFault (hrun others h) hfault, hrest _ (h.merge first), Fields.merge_append]

end Policy

theorem Registry.executeName_confined (r : Registry) (name : String) :
    Confined (r.readRoots name) (r.writeRoots name) (r.executeName name) := by
  cases hget : r.get? name with
  | none =>
    have he : r.executeName name = fun doc => (⟨name, some (.notDefined name), []⟩, doc) := by
      funext doc
      simp only [executeName, hget]
    rw [he]
    exact Confined.const _
  | some policy =>
    have he : r.executeName name = fun doc =>
        (⟨policy.name, (Policy.runAnswer policy.rules doc).1.2, (Policy.runAnswer policy.rules doc).1.1⟩,
          (Policy.runAnswer policy.rules doc).2) := by
      funext doc
      simp only [executeName, hget, Policy.execute, Policy.runAnswer]
    have hrules : r.rulesOf name = policy.rules := by
      simp only [rulesOf, hget, Option.map_some, Option.getD_some]
    rw [he, readRoots, writeRoots, hrules]
    exact (Policy.run_confined policy.rules).map fun answer => PolicyResult.mk policy.name answer.2 answer.1

end PolicyEngine
