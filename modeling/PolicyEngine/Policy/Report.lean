import PolicyEngine.Policy.Registry
import PolicyEngine.Document.Json

/-! What is told about a batch of policies: a report over several lines, and its JSON form. -/
namespace PolicyEngine

namespace RuleRecord

def reportLine (r : RuleRecord) : String :=
  s!"\n    - Rule: '{r.rule.text}', Status: {r.status.text}, Details: {r.details}"

def toJson (r : RuleRecord) : Json :=
  .object [("rule", .string r.rule.text), ("executed", .bool true), ("passed", .bool r.outcome.passed),
    ("status", .string r.status.text), ("details", .string r.details),
    ("error", .ofText? (r.outcome.error?.map RuleError.message))]

end RuleRecord

namespace PolicyResult

def verdictText (r : PolicyResult) : String := if r.passed then "PASSED" else "FAILED"

def faultText (r : PolicyResult) : String :=
  match r.fault with
  | some fault => s!" Error: {fault.message}."
  | none => ""

def report (r : PolicyResult) : String :=
  s!"\n  Policy '{r.name}': {r.verdictText}." ++ r.faultText ++ "\n  Rule details:" ++
    String.join (r.records.map RuleRecord.reportLine)

def toJson (r : PolicyResult) : Json :=
  .object [("policyName", .string r.name), ("passed", .bool r.passed),
    ("error", .ofText? (r.fault.map PolicyFault.message)),
    ("ruleResults", .array (r.records.map RuleRecord.toJson))]

end PolicyResult

/-- The report on a batch, every policy and every rule that was run. -/
def failureReport (results : List PolicyResult) : String :=
  "Policy execution failed:" ++ String.join (results.map PolicyResult.report)

end PolicyEngine
