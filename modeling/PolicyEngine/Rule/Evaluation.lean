import PolicyEngine.Rule.Aggregate
import PolicyEngine.Rule.Parser

/-! Rules run on a document. A run gives a verdict, a trace that says how it came about, and the
document after it; only `SET` changes the document. -/
namespace PolicyEngine

/-- The verdict on a rule and its trace. -/
structure Outcome where
  verdict : Except RuleError Bool
  details : String

namespace Outcome

/-- Whether the rule was found to hold; an error is no pass. -/
def passed (o : Outcome) : Bool :=
  match o.verdict with
  | .ok b => b
  | .error _ => false

def error? (o : Outcome) : Option RuleError :=
  match o.verdict with
  | .ok _ => none
  | .error e => some e

end Outcome

/-- An error with the trace up to it. -/
structure Failure where
  error : RuleError
  details : String

namespace Failure

def ofError (error : RuleError) : Failure := ⟨error, error.message⟩

/-- The outcome of a rule that fails, its trace put into a sentence. -/
def outcome (f : Failure) (sentence : String → String) : Outcome := ⟨.error f.error, sentence f.details⟩

end Failure

/-- A value and how it was found. -/
structure Found where
  value : Value
  details : String

namespace Operand

def literalDetails : Value → String
  | .number x => s!"literal {Number.fixed 6 x}"
  | .string s => s!"literal string '{s}'"
  | v => s!"literal {v.display}"

/-- The number of a term inside `EXP`. -/
def termNumber (term : Operand) (found : Found) : Except Failure Float :=
  (found.value.requireNumber s!"operand '{term.render}'").mapError Failure.ofError

/-- The result of an `EXP` of two terms and its trace. -/
def arithmetic (left : Operand) (op : ArithOp) (right : Operand) (x y : Float) : Except Failure Found :=
  if op = .div ∧ y == 0.0 then
    .error ⟨.divisionByZero left right,
      s!"{Number.fixed 2 x} / {Number.fixed 2 y} -> ERROR: division by zero"⟩
  else
    let result := op.apply x y
    .ok ⟨.number result,
      s!"EXP({Number.fixed 2 x} {op.symbol} {Number.fixed 2 y} = {Number.fixed 2 result})"⟩

/-- The value of an operand in a document. -/
def evaluate (doc : Value) : Operand → Except Failure Found
  | .path p =>
    match doc.get p with
    | .ok (some v) => .ok ⟨v, s!"path {p.render} = {v.display}"⟩
    | .ok none => .ok ⟨.null, s!"path {p.render} = null (absent)"⟩
    | .error fault => .error ⟨.access fault, s!"failed to resolve {p.render}: {fault.message}"⟩
  | .literal v => .ok ⟨v, literalDetails v⟩
  | .exp term => do
    let x ← termNumber term (← evaluate doc term)
    return ⟨.number x, s!"EXP({Number.fixed 6 x})"⟩
  | .arith left op right => do
    let x ← termNumber left (← evaluate doc left)
    let y ← termNumber right (← evaluate doc right)
    arithmetic left op right x y
  | .aggregate op p =>
    match op.evaluate doc p with
    | .ok x => .ok ⟨.number x, s!"{op.name}({p.render}) = {Number.display x}"⟩
    | .error e => .error ⟨e, s!"{op.name}({p.render}) failed: {e.message}"⟩
  | .list items => .ok ⟨.array (items.map .string), s!"list [{listText items}]"⟩

/-- The texts of a list operand; other operands have none. -/
def listItems : Operand → List String
  | .list items => items
  | _ => []

end Operand

namespace CompareOp

/-- Decides a comparison between the values of its operands. -/
def decide (op : CompareOp) (left right : Value) (items : List String) : Except RuleError Bool :=
  match op with
  | .eq => .ok (left == right)
  | .ne => .ok (left != right)
  | .memberOf => .ok (left.isMember items)
  | .notMemberOf => .ok (!left.isMember items)
  | op => left.compareOrdered op right

end CompareOp

namespace Rule

def boolText (b : Bool) : String := if b then "true" else "false"

def evaluateCompare (left : Operand) (op : CompareOp) (right : Operand) (doc : Value) : Outcome :=
  match left.evaluate doc with
  | .error f => f.outcome fun trace => s!"error evaluating left operand '{left.render}': {trace}"
  | .ok l =>
    match right.evaluate doc with
    | .error f => f.outcome fun trace => s!"error evaluating right operand '{right.render}': {trace}"
    | .ok r =>
      match op.decide l.value r.value right.listItems with
      | .ok b => ⟨.ok b, s!"{l.details} {op.symbol} {r.details} -> {boolText b}"⟩
      | .error e => ⟨.error e, s!"{l.details} {op.symbol} {r.details} -> ERROR: {e.message}"⟩

/-- An absent value and an explicit null are the same to a null check. -/
def evaluateNullCheck (path : Path) (negated : Bool) (doc : Value) : Outcome :=
  match doc.get path with
  | .error fault =>
    ⟨.error (.access fault), s!"error resolving '{path.render}' in null check: {fault.message}"⟩
  | .ok found =>
    let value := found.getD .null
    let result := value.isNull != negated
    ⟨.ok result, s!"{path.render} ({value.display}) {nullSymbol negated} null -> {boolText result}"⟩

/-- The value that a `SET` writes and its trace. -/
def setValue (value : Operand) (doc : Value) : Except Failure Found :=
  match value with
  | .literal v => .ok ⟨v, s!"literal = {v.display}"⟩
  | operand => operand.evaluate doc

def evaluateSet (target : Path) (value : Operand) (doc : Value) : Outcome × Value :=
  match setValue value doc with
  | .error f => (f.outcome fun trace => s!"error evaluating value for SET {target.render}: {trace}", doc)
  | .ok found =>
    match doc.set target found.value with
    | .ok after =>
      (⟨.ok true, s!"SET {target.render} = {found.value.display} (details: {found.details})"⟩, after)
    | .error fault =>
      (⟨.error (.access fault),
        s!"failed to SET {target.render}: {fault.message}. Evaluation details: {found.details}"⟩, doc)

/-- The outcome of an `OR` whose right side was run. -/
def alternativeOutcome (right : Rule) (l r : Outcome) : Outcome :=
  match r.verdict with
  | .error e => ⟨.error e, s!"OR right side error ('{right.render}'): {r.details}"⟩
  | .ok b => ⟨.ok b, s!"({l.details}) OR ({r.details}) -> {boolText b}"⟩

/-- An `OR` after its left side: the right side is run only if the left side neither fails nor holds. -/
def afterLeft (left right : Rule) (runRight : Value → Outcome × Value) (l : Outcome) (doc : Value) :
    Outcome × Value :=
  match l.verdict with
  | .error e => (⟨.error e, s!"OR left side error ('{left.render}'): {l.details}"⟩, doc)
  | .ok true => (⟨.ok true, s!"({l.details}) OR ('{right.render}' not evaluated) -> true"⟩, doc)
  | .ok false =>
    let (r, after) := runRight doc
    (alternativeOutcome right l r, after)

/-- The outcome of an `IF` whose action was run. -/
def actionOutcome (action : Rule) (c a : Outcome) : Outcome :=
  match a.verdict with
  | .error e => ⟨.error e, s!"IF ({c.details}) -> true, THEN action error ('{action.render}'): {a.details}"⟩
  | .ok b => ⟨.ok b, s!"IF ({c.details}) -> true, THEN ({a.details}) -> {boolText b}"⟩

/-- An `IF` after its condition: the action is run only if the condition holds. -/
def afterCondition (condition action : Rule) (runAction : Value → Outcome × Value) (c : Outcome)
    (doc : Value) : Outcome × Value :=
  match c.verdict with
  | .error e => (⟨.error e, s!"IF condition error ('{condition.render}'): {c.details}"⟩, doc)
  | .ok false => (⟨.ok true, s!"IF ({c.details}) -> false, action skipped: {action.render}"⟩, doc)
  | .ok true =>
    let (a, after) := runAction doc
    (actionOutcome action c a, after)

/-- The outcome of a rule on a document, and the document after it. -/
def evaluate : Rule → Value → Outcome × Value
  | .or left right, doc =>
    let (l, after) := left.evaluate doc
    afterLeft left right right.evaluate l after
  | .set target value, doc => evaluateSet target value doc
  | .conditional condition action, doc =>
    let (c, after) := condition.evaluate doc
    afterCondition condition action action.evaluate c after
  | .nullCheck path negated, doc => (evaluateNullCheck path negated doc, doc)
  | .compare left op right, doc => (evaluateCompare left op right doc, doc)

/-- The outcome of a text that is no rule. -/
def invalid (e : ParseError) : Outcome := ⟨.error (.parse e), s!"invalid rule: {e.message}"⟩

/-- A rule text between blanks, parsed and run. -/
def evaluateText (text : String) (doc : Value) : Outcome × Value :=
  match parse (Text.trim text) with
  | .ok rule => rule.evaluate doc
  | .error e => (invalid e, doc)

end Rule

end PolicyEngine
