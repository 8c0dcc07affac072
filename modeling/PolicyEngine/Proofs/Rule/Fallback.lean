import PolicyEngine.Proofs.Rule.Canonical
import PolicyEngine.Rule.Evaluation

/-! Evaluation with its fallback branches left open. Some operands and operators have no use in some places, and the
evaluator answers them there all the same. Here these answers are parameters; with those of the evaluator they give
the evaluator back, and a rule that parsing can end in gives the same whatever they are. -/
namespace PolicyEngine

/-- Answers for what stands in a place where it has no use. -/
structure Fallback where
  /-- The value of a list that is not on the right side of an `IN` or `NOT IN`. -/
  list : List String → Except Failure Found
  /-- The texts that a right side of `IN` or `NOT IN` offers if it is no list. -/
  items : Operand → List String
  /-- The comparison of two numbers by an operator that does not order them. -/
  ordering : CompareOp → Float → Float → Except RuleError Bool

namespace Fallback

/-- The answers of the evaluator. -/
def standard : Fallback where
  list items := .ok ⟨.array (items.map .string), s!"list [{Operand.listText items}]"⟩
  items _ := []
  ordering op _ _ := .error (.coercion (.notAnOrdering op))

def itemsOf (f : Fallback) : Operand → List String
  | .list items => items
  | operand => f.items operand

def compareOrdered (f : Fallback) (a : Value) (op : CompareOp) (b : Value) : Except RuleError Bool :=
  match a.toNumber?, b.toNumber? with
  | some x, some y =>
    match op with
    | .gt => .ok (x > y)
    | .ge => .ok (x ≥ y)
    | .lt => .ok (x < y)
    | .le => .ok (x ≤ y)
    | op => f.ordering op x y
  | _, _ => .error (.coercion (.operands a b))

def decide (f : Fallback) (op : CompareOp) (left right : Value) (operand : Operand) : Except RuleError Bool :=
  match op with
  | .eq => .ok (left == right)
  | .ne => .ok (left != right)
  | .memberOf => .ok (left.isMember (f.itemsOf operand))
  | .notMemberOf => .ok (!left.isMember (f.itemsOf operand))
  | op => f.compareOrdered left op right

end Fallback

namespace Operand

def evaluateWith (f : Fallback) (doc : Value) : Operand → Except Failure Found
  | .list items => f.list items
  | .exp term => do
    let x ← termNumber term (← evaluateWith f doc term)
    return ⟨.number x, s!"EXP({Number.fixed 6 x})"⟩
  | .arith left op right => do
    let x ← termNumber left (← evaluateWith f doc left)
    let y ← termNumber right (← evaluateWith f doc right)
    arithmetic left op right x y
  | operand => operand.evaluate doc

/-- The right side of a comparison: a list has its use beside `IN` and `NOT IN`. -/
def rightWith (f : Fallback) (doc : Value) (op : CompareOp) : Operand → Except Failure Found
  | .list items =>
    if op = .memberOf ∨ op = .notMemberOf then (Operand.list items).evaluate doc else f.list items
  | operand => operand.evaluateWith f doc

end Operand

namespace Rule

/-- A comparison of what its operands come to. -/
def comparison (left : Operand) (op : CompareOp) (right : Operand) (leftFound rightFound : Except Failure Found)
    (judge : Value → Value → Except RuleError Bool) : Outcome :=
  match leftFound with
  | .error e => e.outcome fun trace => s!"error evaluating left operand '{left.render}': {trace}"
  | .ok l =>
    match rightFound with
    | .error e => e.outcome fun trace => s!"error evaluating right operand '{right.render}': {trace}"
    | .ok r =>
      match judge l.value r.value with
      | .ok b => ⟨.ok b, s!"{l.details} {op.symbol} {r.details} -> {boolText b}"⟩
      | .error e => ⟨.error e, s!"{l.details} {op.symbol} {r.details} -> ERROR: {e.message}"⟩

theorem evaluateCompare_eq (left : Operand) (op : CompareOp) (right : Operand) (doc : Value) :
    evaluateCompare left op right doc = comparison left op right (left.evaluate doc) (right.evaluate doc)
      fun l r => op.decide l r right.listItems := rfl

def evaluateCompareWith (f : Fallback) (left : Operand) (op : CompareOp) (right : Operand) (doc : Value) : Outcome :=
  comparison left op right (left.evaluateWith f doc) (right.rightWith f doc op) fun l r => f.decide op l r right

/-- A `SET` of what its value comes to. -/
def assignment (target : Path) (found : Except Failure Found) (doc : Value) : Outcome × Value :=
  match found with
  | .error e => (e.outcome fun trace => s!"error evaluating value for SET {target.render}: {trace}", doc)
  | .ok found =>
    match doc.set target found.value with
    | .ok after =>
      (⟨.ok true, s!"SET {target.render} = {found.value.display} (details: {found.details})"⟩, after)
    | .error fault =>
      (⟨.error (.access fault),
        s!"failed to SET {target.render}: {fault.message}. Evaluation details: {found.details}"⟩, doc)

theorem evaluateSet_eq (target : Path) (value : Operand) (doc : Value) :
    evaluateSet target value doc = assignment target (setValue value doc) doc := rfl

def setValueWith (f : Fallback) (value : Operand) (doc : Value) : Except Failure Found :=
  match value with
  | .literal v => .ok ⟨v, s!"literal = {v.display}"⟩
  | operand => operand.evaluateWith f doc

def evaluateSetWith (f : Fallback) (target : Path) (value : Operand) (doc : Value) : Outcome × Value :=
  assignment target (setValueWith f value doc) doc

def evaluateWith (f : Fallback) : Rule → Value → Outcome × Value
  | .or left right, doc =>
    let (l, after) := left.evaluateWith f doc
    afterLeft left right (right.evaluateWith f) l after
  | .set target value, doc => evaluateSetWith f target value doc
  | .conditional condition action, doc =>
    let (c, after) := condition.evaluateWith f doc
    afterCondition condition action (action.evaluateWith f) c after
  | .nullCheck path negated, doc => (evaluateNullCheck path negated doc, doc)
  | .compare left op right, doc => (evaluateCompareWith f left op right doc, doc)

end Rule

/-! The evaluator is the one with its own answers -/

theorem Fallback.compareOrdered_standard (a : Value) (op : CompareOp) (b : Value) :
    Fallback.standard.compareOrdered a op b = a.compareOrdered op b := by
  unfold compareOrdered Value.compareOrdered
  cases a.toNumber? with
  | none => rfl
  | some x =>
    cases b.toNumber? with
    | none => rfl
    | some y => cases op <;> rfl

theorem Fallback.decide_standard (op : CompareOp) (left right : Value) (operand : Operand) :
    Fallback.standard.decide op left right operand = op.decide left right operand.listItems := by
  have hitems : Fallback.standard.itemsOf operand = operand.listItems := by cases operand <;> rfl
  cases op <;> simp only [Fallback.decide, CompareOp.decide, hitems, compareOrdered_standard]

theorem Operand.evaluateWith_standard (operand : Operand) (doc : Value) :
    operand.evaluateWith .standard doc = operand.evaluate doc := by
  induction operand with
  | exp term ih => rw [evaluateWith, evaluate, ih]
  | arith left op right ihLeft ihRight => rw [evaluateWith, evaluate, ihLeft, ihRight]
  | _ => rfl

theorem Operand.rightWith_standard (operand : Operand) (op : CompareOp) (doc : Value) :
    operand.rightWith .standard doc op = operand.evaluate doc := by
  cases operand with
  | list items => exact ite_self _
  | _ => exact evaluateWith_standard _ doc

namespace Rule

theorem evaluateCompareWith_standard (left : Operand) (op : CompareOp) (right : Operand) (doc : Value) :
    evaluateCompareWith .standard left op right doc = evaluateCompare left op right doc := by
  simp only [evaluateCompareWith, evaluateCompare_eq, Operand.evaluateWith_standard, Operand.rightWith_standard,
    Fallback.decide_standard]

theorem setValueWith_standard (value : Operand) (doc : Value) :
    setValueWith .standard value doc = setValue value doc := by
  cases value with
  | literal v => rfl
  | _ => exact Operand.evaluateWith_standard _ doc

/-- The evaluator with its own answers. -/
theorem evaluateWith_standard (rule : Rule) : rule.evaluateWith .standard = rule.evaluate := by
  induction rule with
  | or left right ihLeft ihRight =>
    funext doc
    rw [evaluateWith, evaluate, ihLeft, ihRight]
  | set target value =>
    funext doc
    rw [evaluateWith, evaluate, evaluateSetWith, evaluateSet_eq, setValueWith_standard]
  | conditional condition action ihCondition ihAction =>
    funext doc
    rw [evaluateWith, evaluate, ihCondition, ihAction]
  | nullCheck p negated => rfl
  | compare left op right =>
    funext doc
    rw [evaluateWith, evaluate, evaluateCompareWith_standard]

end Rule

/-! What parsing ends in is evaluated without them -/

variable (f : Fallback)

theorem Fallback.compareOrdered_eq {op : CompareOp} (h : op = .gt ∨ op = .ge ∨ op = .lt ∨ op = .le) (a b : Value) :
    f.compareOrdered a op b = a.compareOrdered op b := by
  unfold compareOrdered Value.compareOrdered
  cases a.toNumber? with
  | none => rfl
  | some x =>
    cases b.toNumber? with
    | none => rfl
    | some y => rcases h with rfl | rfl | rfl | rfl <;> rfl

/-- A list is looked into where there is one, and only four operators are left for ordering. -/
theorem Fallback.decide_eq {op : CompareOp} {operand : Operand}
    (h : op = .memberOf ∨ op = .notMemberOf → ∃ items, operand = .list items) (left right : Value) :
    f.decide op left right operand = op.decide left right operand.listItems := by
  cases op with
  | eq | ne => rfl
  | memberOf =>
    obtain ⟨items, rfl⟩ := h (.inl rfl)
    rfl
  | notMemberOf =>
    obtain ⟨items, rfl⟩ := h (.inr rfl)
    rfl
  | gt | ge | lt | le =>
    simp only [decide, CompareOp.decide]
    exact f.compareOrdered_eq (by decide) left right

namespace Operand

variable {operand : Operand}

theorem IsTerm.evaluateWith (h : operand.IsTerm) (doc : Value) :
    operand.evaluateWith f doc = operand.evaluate doc := by
  induction h with
  | exp _ ih => rw [Operand.evaluateWith, evaluate, ih]
  | arith _ _ ihLeft ihRight => rw [Operand.evaluateWith, evaluate, ihLeft, ihRight]
  | _ => rfl

theorem IsCanonical.evaluateWith (h : operand.IsCanonical) (doc : Value) :
    operand.evaluateWith f doc = operand.evaluate doc := by
  cases h with
  | call _ term => exact term.evaluateWith f doc
  | _ => rfl

theorem IsCanonical.rightWith (h : operand.IsCanonical) (op : CompareOp) (doc : Value) :
    operand.rightWith f doc op = operand.evaluate doc := by
  rw [← h.evaluateWith f doc]
  cases h with
  | call _ term => cases term <;> rfl
  | _ => rfl

end Operand

namespace Rule

variable {rule : Rule}

theorem evaluateCompareWith_eq {left right : Operand} {op : CompareOp} {doc : Value}
    (hleft : left.evaluateWith f doc = left.evaluate doc) (hright : right.rightWith f doc op = right.evaluate doc)
    (hlist : op = .memberOf ∨ op = .notMemberOf → ∃ items, right = .list items) :
    evaluateCompareWith f left op right doc = evaluateCompare left op right doc := by
  simp only [evaluateCompareWith, evaluateCompare_eq, hleft, hright, f.decide_eq hlist]

theorem IsCanonical.evaluateWith (h : rule.IsCanonical) : rule.evaluateWith f = rule.evaluate := by
  induction h with
  | or _ _ _ ihLeft ihRight =>
    funext doc
    rw [Rule.evaluateWith, evaluate, ihLeft, ihRight]
  | @set target value _ hvalue =>
    funext doc
    have hset : setValueWith f value doc = setValue value doc := by
      cases value with
      | literal v => rfl
      | _ => exact hvalue.evaluateWith f doc
    rw [Rule.evaluateWith, evaluate, evaluateSetWith, evaluateSet_eq, hset]
  | conditional _ _ _ _ _ ihCondition ihAction =>
    funext doc
    rw [Rule.evaluateWith, evaluate, ihCondition, ihAction]
  | nullCheck => rfl
  | compare member notMember _ hleft hright =>
    funext doc
    refine congrArg (·, doc) (evaluateCompareWith_eq f (hleft.evaluateWith f doc) (hright.rightWith f _ doc) ?_)
    rintro (hop | hop)
    · exact absurd hop member
    · exact absurd hop notMember
  | membership hop hleft =>
    funext doc
    exact congrArg (·, doc) (evaluateCompareWith_eq f (hleft.evaluateWith f doc) (if_pos hop) fun _ => ⟨_, rfl⟩)

end Rule

end PolicyEngine
