import PolicyEngine.Rule.Evaluation

/-! Policies: named lists of rules that run in order on one document. A run stops after the first
rule that fails, or that judges the document and does not hold; the document keeps what was written
up to there. -/
namespace PolicyEngine

/-- A rule as written, with its parse. -/
structure PolicyRule where
  text : String
  parsed : Except ParseError Rule
  parsed_eq : parsed = Rule.parse (Text.trim text)

structure Policy where
  name : String
  rules : List PolicyRule

/-- A rule that was run. -/
structure RuleRecord where
  rule : PolicyRule
  outcome : Outcome

inductive RuleStatus where
  | ok
  | conditionFailed
  | executionError
  deriving Repr, DecidableEq

/-- Why a policy did not pass. -/
inductive PolicyFault where
  | notDefined (name : String)
  | ruleFailed (rule : String) (error : RuleError) (details : String)
  | conditionNotMet (rule : String) (details : String)

structure PolicyResult where
  name : String
  fault : Option PolicyFault
  records : List RuleRecord

namespace PolicyRule

def ofText (text : String) : PolicyRule := ⟨text, Rule.parse (Text.trim text), rfl⟩

def isAction (r : PolicyRule) : Bool :=
  match r.parsed with
  | .ok rule => rule.isAction
  | .error _ => false

/-- A text that is no rule fails whenever it is run. -/
def evaluate (r : PolicyRule) (doc : Value) : Outcome × Value :=
  match r.parsed with
  | .ok rule => rule.evaluate doc
  | .error e => (Rule.invalid e, doc)

end PolicyRule

namespace RuleStatus

def text : RuleStatus → String
  | ok => "OK"
  | conditionFailed => "CONDITION_FAILED"
  | executionError => "EXECUTION_ERROR"

end RuleStatus

namespace RuleRecord

def status (r : RuleRecord) : RuleStatus :=
  match r.outcome.verdict with
  | .error _ => .executionError
  | .ok b => if b || r.rule.isAction then .ok else .conditionFailed

/-- The trace, with the error that ended it. -/
def details (r : RuleRecord) : String :=
  match r.outcome.verdict with
  | .error e => s!"{r.outcome.details} (Error: {e.message})"
  | .ok _ => r.outcome.details

/-- Why the policy stops after this rule, if it does. -/
def fault? (r : RuleRecord) : Option PolicyFault :=
  match r.outcome.verdict with
  | .error e => some (.ruleFailed r.rule.text e r.outcome.details)
  | .ok b => if b || r.rule.isAction then none else some (.conditionNotMet r.rule.text r.outcome.details)

end RuleRecord

namespace PolicyFault

def message : PolicyFault → String
  | notDefined name => s!"policy '{name}' is not defined"
  | ruleFailed rule error details => s!"error executing rule '{rule}': {error.message}. Details: {details}"
  | conditionNotMet rule details => s!"rule condition not met: '{rule}'. Details: {details}"

end PolicyFault

namespace PolicyResult

def passed (r : PolicyResult) : Bool := r.fault.isNone

end PolicyResult

namespace Policy

def ofTexts (name : String) (texts : List String) : Policy := ⟨name, texts.map .ofText⟩

/-- Runs rules in order: the records, what stopped the run, and the document after it. -/
def run : List PolicyRule → Value → List RuleRecord × Option PolicyFault × Value
  | [], doc => ([], none, doc)
  | rule :: rest, doc =>
    let (outcome, after) := rule.evaluate doc
    let record : RuleRecord := ⟨rule, outcome⟩
    match record.fault? with
    | some fault => ([record], some fault, after)
    | none =>
      let (records, fault, final) := run rest after
      (record :: records, fault, final)

def execute (p : Policy) (doc : Value) : PolicyResult × Value :=
  let (records, fault, after) := run p.rules doc
  (⟨p.name, fault, records⟩, after)

@[simp] theorem run_nil (doc : Value) : run [] doc = ([], none, doc) := rfl

end Policy

end PolicyEngine
