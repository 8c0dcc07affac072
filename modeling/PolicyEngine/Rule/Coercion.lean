import PolicyEngine.Rule.Error
import PolicyEngine.Text.Basic

/-! Values as numbers, and the comparisons of rules. Equality crosses no kinds; ordering and
arithmetic take numbers and numeric texts. -/
namespace PolicyEngine.Value

/-- The number that a value stands for: itself, or a text that spells a finite one between blanks. -/
def toNumber? : Value → Option Float
  | .number x => some x
  | .string s => Number.ofText? (Text.trim s)
  | _ => none

/-- The ordering comparisons. -/
def compareOrdered (a : Value) (op : CompareOp) (b : Value) : Except RuleError Bool :=
  match a.toNumber?, b.toNumber? with
  | some x, some y =>
    match op with
    | .gt => .ok (x > y)
    | .ge => .ok (x ≥ y)
    | .lt => .ok (x < y)
    | .le => .ok (x ≤ y)
    | op => .error (.coercion (.notAnOrdering op))
  | _, _ => .error (.coercion (.operands a b))

/-- Membership in a list of texts; only a text can be a member. -/
def isMember (v : Value) (items : List String) : Bool :=
  match v with
  | .string s => items.contains s
  | _ => false

/-- The number of an operand that the error names. -/
def requireNumber (what : String) (v : Value) : Except RuleError Float :=
  match v.toNumber? with
  | some x => .ok x
  | none => .error (.coercion (.named what v))

end PolicyEngine.Value
