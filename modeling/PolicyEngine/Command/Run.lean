import PolicyEngine.Command.Setup
import PolicyEngine.Rule.Evaluation

/-! Commands at work: what each prints and the status it ends with. The status does not depend on the
format of the output, nor on whether it is kept quiet. -/
namespace PolicyEngine

/-- What a finished command leaves: its status and the lines on both channels. -/
structure Transcript where
  status : Nat
  out : List String
  err : List String
  deriving Repr, DecidableEq

namespace Transcript

/-- Lines as written, each with its end. -/
def textOf (lines : List String) : String := String.join (lines.map (· ++ "\n"))

def outText (t : Transcript) : String := textOf t.out

def errText (t : Transcript) : String := textOf t.err

end Transcript

namespace Invocation

/-- Lines that are left out when quiet. -/
def unlessQuiet (inv : Invocation) (lines : List String) : List String := if inv.quiet then [] else lines

/-- Ends with an error, in the format asked for. -/
def failed (inv : Invocation) (message : String) : Transcript :=
  let line := match inv.output with
    | .text => message
    | .json => Json.compact (.object [("error", .string message)])
  ⟨1, [], inv.unlessQuiet [line]⟩

/-- Ends a command whose setup did not succeed. -/
def finish (inv : Invocation) (work : α → Transcript) (setup : Setup α) : Reads Transcript := do
  match ← setup.run with
  | .ok a => return work a
  | .error fault => return inv.failed fault.message

def processed (inv : Invocation) (now : String) (answer : Except ProcessFault Response) : Transcript :=
  match answer with
  | .ok response => ⟨0, [(response.toJson now).pretty], []⟩
  | .error fault =>
    match inv.output with
    | .text => inv.failed fault.message
    | .json => ⟨1, [], inv.unlessQuiet [fault.toJson.sorted.pretty]⟩

def checkedJson (rule : String) (outcome : Outcome) (doc : Value) : Json :=
  .object [("rule", .string rule), ("passed", .bool outcome.passed), ("details", .string outcome.details),
    ("error", .ofText? (outcome.error?.map RuleError.message)), ("document", doc.toJson)]

def checkedLines (outcome : Outcome) (doc : Value) : List String :=
  ["details: " ++ outcome.details] ++ (outcome.error?.map fun e => "error: " ++ e.message).toList ++ [doc.pretty]

def checked (inv : Invocation) (rule : String) (doc : Value) : Transcript :=
  let (outcome, after) := Rule.evaluateText rule doc
  let out := match inv.output with
    | .text => (if outcome.passed then "passed" else "failed") :: inv.unlessQuiet (checkedLines outcome after)
    | .json => [(checkedJson rule outcome after).sorted.pretty]
  ⟨if outcome.passed then 0 else 1, out, []⟩

def rejectedJson (violations : List Violation) : Json :=
  .object [("valid", .bool false), ("errors", .array (violations.map Violation.toJson))]

def validated (inv : Invocation) (violations : List Violation) : Transcript :=
  match violations, inv.output with
  | [], .text => ⟨0, inv.unlessQuiet ["valid"], []⟩
  | [], .json => ⟨0, inv.unlessQuiet [Json.compact (.object [("valid", .bool true)])], []⟩
  | vs, .text => ⟨1, [], inv.unlessQuiet ("invalid" :: vs.map fun v => "  - " ++ v.render)⟩
  | vs, .json => ⟨1, [], [(rejectedJson vs).sorted.pretty]⟩

/-- The setup of the service: its settings with the options put in. -/
def serverSettings (tcpPort timeoutMs : Option Nat) (engine : EngineOptions) : Setup ServerSettings := do
  let (settings, _) ← Setup.engineFor engine
  if timeoutMs = some 0 then throw .noTimeoutOption
  let server := settings.server
  return ⟨tcpPort.getD server.tcpPort, timeoutMs.getD server.requestTimeoutMs, server.maxBodyBytes⟩

/-- Runs a command at the time `now`. There is no service here: `serve` ends once it is set up. -/
def run (inv : Invocation) (now : String) : Reads Transcript :=
  match inv.command with
  | .process request options =>
    inv.finish (inv.processed now) do
      let (_, engine) ← Setup.engineFor options
      let body ← Setup.need (.unreadableFile request) (.bytes request)
      return engine.processBytes body
  | .check rule none => pure (inv.checked rule (.object []))
  | .check rule (some file) => inv.finish (inv.checked rule) (Setup.document file)
  | .validate file schemaFile =>
    inv.finish inv.validated do
      let schema ← Setup.schema schemaFile
      return schema.validate (← Setup.document file)
  | .serve tcpPort timeoutMs options =>
    inv.finish (fun _ => ⟨0, [], []⟩) (serverSettings tcpPort timeoutMs options)

end Invocation

namespace CommandLine

def versionLine : String := "praxis 0.1.0"

def helpLines : List String :=
  ["Praxis policy engine", "", "Usage: praxis [OPTIONS] <COMMAND>", "", "Commands:",
    "  process   Process a request envelope and print the response",
    "  check     Evaluate a single rule against a document",
    "  validate  Validate a JSON document against a schema",
    "  serve     Start the HTTP service", "", "Options:",
    "      --output <OUTPUT>  Output format (text or json)",
    "      --quiet            Suppress non-essential output",
    "  -h, --help             Print help",
    "  -V, --version          Print version"]

def stopped : ArgumentStop → Transcript
  | .help => ⟨0, helpLines, []⟩
  | .version => ⟨0, [versionLine], []⟩
  | .misuse => ⟨2, [], ["error: invalid arguments", "", "For more information, try '--help'."]⟩

/-- Runs the program with the arguments after its name. -/
def run (args : List String) (now : String) : Reads Transcript :=
  match Invocation.ofArguments args with
  | .ok inv => inv.run now
  | .error stop => pure (stopped stop)

end CommandLine

end PolicyEngine
