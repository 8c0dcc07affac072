import PolicyEngine.Command.Arguments
import PolicyEngine.Number.Decimal

/-! Command lines: what a list of arguments asks for. The options on output may stand before or after
the name of the command; behind it they count more. -/
namespace PolicyEngine

inductive OutputFormat where
  | text
  | json
  deriving Repr, DecidableEq

/-- Sources of an engine. They come before what a configuration says. -/
structure EngineOptions where
  policies : List String
  requestSchema : Option String
  responseSchema : Option String
  config : Option String
  deriving Repr, DecidableEq

inductive Command where
  | process (request : String) (engine : EngineOptions)
  | check (rule : String) (data : Option String)
  | validate (document schema : String)
  | serve (tcpPort timeoutMs : Option Nat) (engine : EngineOptions)
  deriving Repr, DecidableEq

structure Invocation where
  output : OutputFormat
  quiet : Bool
  command : Command
  deriving Repr, DecidableEq

namespace OutputFormat

def ofText? (text : String) : Option OutputFormat :=
  if text = "text" then some .text
  else if text = "json" then some .json
  else none

end OutputFormat

namespace Invocation

def anyText (_ : String) : Bool := true

def isFileName (text : String) : Bool := !text.isEmpty

def tcpPortBound : Nat := Nat.pow 2 16

def durationBound : Nat := Nat.pow 2 64

def tcpPort? (text : String) : Option Nat := Number.naturalBelow? tcpPortBound text.toList

def duration? (text : String) : Option Nat := Number.naturalBelow? durationBound text.toList

def fileOption (name : String) : OptionSpec := ⟨name, true, false, isFileName⟩

def outputOptions : List OptionSpec :=
  [⟨"output", true, false, fun text => (OutputFormat.ofText? text).isSome⟩, ⟨"quiet", false, false, anyText⟩]

def engineOptions : List OptionSpec :=
  [⟨"policies", true, true, isFileName⟩, fileOption "request-schema", fileOption "response-schema",
    fileOption "config"]

def serveOptions : List OptionSpec :=
  [⟨"port", true, false, fun text => (tcpPort? text).isSome⟩,
    ⟨"timeout-ms", true, false, fun text => (duration? text).isSome⟩]

def commandSpec (options : List OptionSpec) (places : List (String → Bool)) : ArgumentSpec :=
  ⟨outputOptions ++ options, places, fun _ => false, false⟩

/-- The arguments that each command takes. -/
def commands : List (String × ArgumentSpec) :=
  [("process", commandSpec engineOptions [isFileName]),
    ("check", commandSpec [fileOption "data"] [anyText]),
    ("validate", commandSpec [fileOption "schema"] [isFileName]),
    ("serve", commandSpec (serveOptions ++ engineOptions) [])]

def helpName : String := "help"

def isCommandName (text : String) : Bool := text = helpName || commands.any fun c => c.1 = text

/-- The arguments before the name of a command. -/
def rootSpec : ArgumentSpec := ⟨outputOptions, [], isCommandName, true⟩

def engineOf (a : Arguments) : EngineOptions :=
  ⟨a.values "policies", a.value? "request-schema", a.value? "response-schema", a.value? "config"⟩

/-- The command with its arguments, unless a required one is missing. -/
def command? (name : String) (a : Arguments) : Option Command :=
  if name = "process" then (a.place? 0).map (.process · (engineOf a))
  else if name = "check" then (a.place? 0).map (.check · (a.value? "data"))
  else if name = "validate" then do return .validate (← a.place? 0) (← a.value? "schema")
  else if name = "serve" then
    some (.serve ((a.value? "port").bind tcpPort?) ((a.value? "timeout-ms").bind duration?) (engineOf a))
  else none

/-- The format that was asked for, the one behind the command's name first. -/
def outputOf (root own : Arguments) : OutputFormat :=
  (((own.value? "output").or (root.value? "output")).bind OutputFormat.ofText?).getD .text

/-- What is asked after `help`: commands by name, each followed by nothing. -/
def helpStop : List String → ArgumentStop
  | [] => .help
  | [name] => if isCommandName name then .help else .misuse
  | _ => .misuse

def ofCommand (root : Arguments) (name : String) (rest : List String) : Except ArgumentStop Invocation :=
  if name = helpName then .error (helpStop rest)
  else match commands.find? fun c => c.1 = name with
    | none => .error .misuse
    | some (_, spec) =>
      match Arguments.read spec false .empty rest with
      | .error stop => .error stop
      | .ok (own, _) =>
        match command? name own with
        | some command => .ok ⟨outputOf root own, root.has "quiet" || own.has "quiet", command⟩
        | none => .error .misuse

/-- Reads the arguments after the program's name. -/
def ofArguments (args : List String) : Except ArgumentStop Invocation :=
  match Arguments.read rootSpec false .empty args with
  | .error stop => .error stop
  | .ok (_, []) => .error .misuse
  | .ok (root, name :: rest) => ofCommand root name rest

end Invocation

end PolicyEngine
