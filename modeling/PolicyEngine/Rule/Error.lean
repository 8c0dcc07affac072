import PolicyEngine.Rule.Basic
import PolicyEngine.Rule.Token
import PolicyEngine.Path.Access

/-! Why a rule fails on a document. -/
namespace PolicyEngine

/-- Why values do not serve as numbers. -/
inductive CoercionFault where
  | operands (left right : Value)
  | notAnOrdering (op : CompareOp)
  | named (what : String) (value : Value)
  | item (path : Path) (value : Value)

namespace CoercionFault

def message : CoercionFault → String
  | operands left right =>
    s!"non-numeric operands: left {left.display} ({left.kind}), right {right.display} ({right.kind})"
  | notAnOrdering op => s!"'{op.symbol}' is not an ordering operator"
  | named what value => s!"{what} (value: {value.display}, type: {value.kind}) is not a number"
  | item path value => s!"invalid number in array '{path.render}': {value.display}"

end CoercionFault

inductive RuleError where
  | parse (error : ParseError)
  | access (fault : AccessFault)
  | coercion (fault : CoercionFault)
  | divisionByZero (left : Operand) (right : Operand)
  | notASequence (path : Path)

namespace RuleError

def message : RuleError → String
  | parse error => error.message
  | access fault => fault.message
  | coercion fault => s!"coercion error: {fault.message}"
  | divisionByZero left right => s!"division by zero in '{left.renderArith .div right}'"
  | notASequence path => s!"'{path.render}' is not an array"

end RuleError

end PolicyEngine
