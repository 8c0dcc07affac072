import PolicyEngine.Document.Text
import PolicyEngine.Path.Basic

/-! Rules over a document, and the canonical text in which traces show them. -/
namespace PolicyEngine

inductive CompareOp where
  | eq
  | ne
  | gt
  | ge
  | lt
  | le
  | memberOf
  | notMemberOf
  deriving Repr, DecidableEq

inductive ArithOp where
  | add
  | sub
  | mul
  | div
  deriving Repr, DecidableEq

inductive AggregateOp where
  | sum
  | count
  | max
  | min
  | average
  deriving Repr, DecidableEq

inductive Operand where
  | path (path : Path)
  | literal (value : Value)
  /-- An `EXP` of one term. -/
  | exp (term : Operand)
  /-- An `EXP` of two terms and the operator between them. -/
  | arith (left : Operand) (op : ArithOp) (right : Operand)
  | aggregate (op : AggregateOp) (path : Path)
  | list (items : List String)

inductive Rule where
  | or (left right : Rule)
  | set (target : Path) (value : Operand)
  | conditional (condition action : Rule)
  | nullCheck (path : Path) (negated : Bool)
  | compare (left : Operand) (op : CompareOp) (right : Operand)

namespace CompareOp

def symbol : CompareOp → String
  | eq => "=="
  | ne => "!="
  | gt => ">"
  | ge => ">="
  | lt => "<"
  | le => "<="
  | memberOf => "IN"
  | notMemberOf => "NOT IN"

end CompareOp

namespace ArithOp

def symbol : ArithOp → String
  | add => "+"
  | sub => "-"
  | mul => "*"
  | div => "/"

def apply : ArithOp → Float → Float → Float
  | add, x, y => x + y
  | sub, x, y => x - y
  | mul, x, y => x * y
  | div, x, y => x / y

end ArithOp

namespace AggregateOp

def name : AggregateOp → String
  | sum => "SUM"
  | count => "COUNT"
  | max => "MAX"
  | min => "MIN"
  | average => "AVERAGE"

def all : List AggregateOp := [sum, count, max, min, average]

def ofName? (text : String) : Option AggregateOp := all.find? fun op => op.name = text

@[simp] theorem ofName?_name (op : AggregateOp) : ofName? op.name = some op := by cases op <;> decide

end AggregateOp

namespace Operand

/-- A text in single quotes, with backslashes before its backslashes and single quotes. -/
def quoteText (s : String) : String :=
  String.ofList ('\'' :: s.toList.flatMap (fun c => if c = '\\' ∨ c = '\'' then ['\\', c] else [c]) ++ ['\''])

def listText (items : List String) : String := ", ".intercalate items

def render : Operand → String
  | .path p => p.render
  | .literal (.string s) => quoteText s
  | .literal v => v.display
  | .exp term => s!"EXP({term.render})"
  | .arith left op right => s!"EXP({left.render} {op.symbol} {right.render})"
  | .aggregate op p => s!"{op.name}({p.render})"
  | .list items => "[" ++ listText items ++ "]"

/-- Two terms and their operator, without the `EXP` around them. -/
def renderArith (left : Operand) (op : ArithOp) (right : Operand) : String :=
  s!"{left.render} {op.symbol} {right.render}"

instance : ToString Operand := ⟨render⟩

/-- Equality of operands, numbers being compared as numbers. -/
def beq : Operand → Operand → Bool
  | .path p, .path q => p == q
  | .literal v, .literal w => v == w
  | .exp s, .exp t => beq s t
  | .arith a op b, .arith c op' d => beq a c && op == op' && beq b d
  | .aggregate op p, .aggregate op' q => op == op' && p == q
  | .list xs, .list ys => xs == ys
  | _, _ => false

instance : BEq Operand := ⟨beq⟩

end Operand

namespace Rule

/-- Whether a rule acts on the document instead of judging it. -/
def isAction : Rule → Bool
  | .set .. | .conditional .. => true
  | _ => false

def nullSymbol (negated : Bool) : String := if negated then "!=" else "=="

def render : Rule → String
  | .or left right => s!"{left.render} OR {right.render}"
  | .set target value => s!"SET {target.render} = {value.render}"
  | .conditional condition action => s!"IF {condition.render} THEN {action.render}"
  | .nullCheck path negated => s!"{path.render} {nullSymbol negated} null"
  | .compare left op right => s!"{left.render} {op.symbol} {right.render}"

instance : ToString Rule := ⟨render⟩

/-- Equality of rules, numbers being compared as numbers. -/
def beq : Rule → Rule → Bool
  | .or a b, .or c d => beq a c && beq b d
  | .set p v, .set q w => p == q && v == w
  | .conditional a b, .conditional c d => beq a c && beq b d
  | .nullCheck p m, .nullCheck q n => p == q && m == n
  | .compare a op b, .compare c op' d => a == c && op == op' && b == d
  | _, _ => false

instance : BEq Rule := ⟨beq⟩

@[simp] theorem isAction_set (p : Path) (v : Operand) : (set p v).isAction = true := rfl
@[simp] theorem isAction_conditional (c a : Rule) : (conditional c a).isAction = true := rfl

end Rule

end PolicyEngine
