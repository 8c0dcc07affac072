import PolicyEngine.Engine.Request
import PolicyEngine.Policy.Report
import PolicyEngine.Schema.Validation

/-! The way of a request: its data must fit the request schema, pass its policies, and fit the
response schema as the policies left it. A missing schema fits everything. -/
namespace PolicyEngine

structure Engine where
  policies : Registry
  requestSchema : Option Schema
  responseSchema : Option Schema

/-- Why a request is not answered. -/
inductive ProcessFault where
  | malformed
  | dataNotObject (data : Value)
  | requestRejected (violations : List Violation)
  | policiesFailed (results : List PolicyResult)
  | responseRejected (violations : List Violation)

structure Response where
  id : String
  data : Value

namespace ProcessFault

def kind : ProcessFault → String
  | malformed | dataNotObject _ => "malformed_request"
  | requestRejected _ => "request_validation"
  | policiesFailed _ => "policy_failure"
  | responseRejected _ => "response_validation"

def message : ProcessFault → String
  | malformed => "failed to deserialize request: not a request"
  | dataNotObject data => s!"failed to deserialize request: 'data' must be an object, found {data.kind}"
  | requestRejected violations => "request data schema validation failed: " ++ Violation.renderAll violations
  | policiesFailed results => failureReport results
  | responseRejected violations => "response data schema validation failed: " ++ Violation.renderAll violations

/-- The fault as JSON: with the violations of a schema, or the results of all policies. -/
def toJson (f : ProcessFault) : Json :=
  let more : List (String × Json) := match f with
    | malformed | dataNotObject _ => []
    | requestRejected vs | responseRejected vs => [("violations", .array (vs.map Violation.toJson))]
    | policiesFailed results => [("results", .array (results.map PolicyResult.toJson))]
  .object ([("error", .string f.message), ("kind", .string f.kind)] ++ more)

end ProcessFault

namespace Response

def status : String := "success"

/-- The answer as it is sent, with the time at which it was made. -/
def toJson (r : Response) (timestamp : String) : Json :=
  .object [("id", .string r.id), ("timestamp", .string timestamp), ("status", .string status),
    ("processedData", r.data.toJson)]

end Response

namespace Engine

def ofRegistry (policies : Registry) : Engine := ⟨policies, none, none⟩

/-- The violations of a schema that may be missing. -/
def violations (schema : Option Schema) (data : Value) : List Violation :=
  (schema.map (·.validate data)).getD []

/-- Runs the policies on data that passed the request schema. -/
def answer (e : Engine) (r : Request) : Except ProcessFault Response :=
  let (results, data) := e.policies.execute r.policies r.data
  if !Registry.allPassed results then .error (.policiesFailed results)
  else
    let found := violations e.responseSchema data
    if found.isEmpty then .ok ⟨r.id ++ "-response", data⟩ else .error (.responseRejected found)

def process (e : Engine) (r : Request) : Except ProcessFault Response :=
  match r.data with
  | .object _ =>
    let found := violations e.requestSchema r.data
    if found.isEmpty then e.answer r else .error (.requestRejected found)
  | data => .error (.dataNotObject data)

def processText (e : Engine) (text : String) : Except ProcessFault Response :=
  match Request.ofText? text with
  | some r => e.process r
  | none => .error .malformed

def processBytes (e : Engine) (bytes : List UInt8) : Except ProcessFault Response :=
  match Request.ofBytes? bytes with
  | some r => e.process r
  | none => .error .malformed

@[simp] theorem violations_none (data : Value) : violations none data = [] := rfl

end Engine

end PolicyEngine
