import PolicyEngine.Command.Invocation
import PolicyEngine.Command.Settings
import PolicyEngine.Engine.Basic
import PolicyEngine.Policy.Source

/-! Setting up: from options, a configuration and the files they name to an engine. -/
namespace PolicyEngine

/-- Why a command does not come to its work. -/
inductive SetupFault where
  | unreadableConfig (file : String) (fault : FileFault)
  | malformedConfig (file : String)
  | noTimeout (file : String)
  | unreadablePolicies (file : String) (fault : FileFault)
  | invalidPolicies (file : String) (fault : SourceFault)
  | unreadableSchema (file : String) (fault : FileFault)
  | invalidSchema (file : String) (fault : SchemaFault)
  | unreadableFile (file : String) (fault : FileFault)
  | malformedDocument (file : String)
  | noTimeoutOption

namespace SetupFault

def message : SetupFault → String
  | unreadableConfig file fault => s!"could not read '{file}': {fault.message}"
  | malformedConfig file => s!"could not parse '{file}': not a configuration"
  | noTimeout file => s!"invalid '{file}': request_timeout_ms must be positive"
  | unreadablePolicies file fault => s!"could not read policies '{file}': {fault.message}"
  | invalidPolicies file fault => s!"could not load '{file}': {fault.message}"
  | unreadableSchema file fault => s!"could not read schema '{file}': {fault.message}"
  | invalidSchema file fault => s!"invalid schema '{file}': {fault.message}"
  | unreadableFile file fault => s!"error reading file '{file}': {fault.message}"
  | malformedDocument file => s!"error parsing JSON in '{file}': not a JSON document"
  | noTimeoutOption => "error: --timeout-ms must be positive"

end SetupFault

/-- Steps that ask for files and may fail. -/
abbrev Setup (α : Type) := ExceptT SetupFault Reads α

namespace Setup

/-- Goes on only with a file that could be read. -/
def need (fault : FileFault → SetupFault) (content : Reads (Except FileFault α)) : Setup α :=
  ExceptT.mk do
    match ← content with
    | .ok a => return .ok a
    | .error e => return .error (fault e)

def settingsOf (file text : String) : Except SetupFault Settings :=
  match Settings.ofText? text with
  | none => .error (.malformedConfig file)
  | some settings =>
    if settings.server.requestTimeoutMs = 0 then .error (.noTimeout file)
    else .ok (settings.within (FileName.parent file))

/-- The settings of a configuration file, or the usual ones where none is named. -/
def settings (options : EngineOptions) : Setup Settings :=
  match options.config with
  | none => pure .usual
  | some file => do
    let text ← need (.unreadableConfig file) (.text file)
    liftExcept (settingsOf file text)
where
  liftExcept {α : Type} (x : Except SetupFault α) : Setup α := ExceptT.mk (pure x)

/-- What the options name goes before what the settings name. -/
def override (options : EngineOptions) (s : EngineSettings) : EngineSettings :=
  ⟨options.requestSchema.or s.requestSchema, options.responseSchema.or s.responseSchema,
    if options.policies.isEmpty then s.policies else options.policies⟩

def schemaOf (file text : String) : Except SetupFault Schema :=
  (Schema.ofJson text).mapError (.invalidSchema file)

def schema (file : String) : Setup Schema := do
  let text ← need (.unreadableSchema file) (.text file)
  ExceptT.mk (pure (schemaOf file text))

def schema? : Option String → Setup (Option Schema)
  | none => pure none
  | some file => some <$> schema file

/-- A policy source is JSON if its name says so, and YAML otherwise. -/
def policiesOf (file text : String) : Except SetupFault Registry :=
  (if FileName.extension? file = some "json" then Registry.ofJson text else Registry.ofYaml text).mapError
    (.invalidPolicies file)

def policies (file : String) : Setup Registry := do
  let text ← need (.unreadablePolicies file) (.text file)
  ExceptT.mk (pure (policiesOf file text))

/-- The policies of several sources, a later one replacing what an earlier one defined. -/
def registry (known : Registry) : List String → Setup Registry
  | [] => pure known
  | file :: rest => do
    let loaded ← policies file
    registry (known.merge loaded) rest

def engine (s : EngineSettings) : Setup Engine := do
  let policies ← registry .empty s.policies
  let request ← schema? s.requestSchema
  let response ← schema? s.responseSchema
  return ⟨policies, request, response⟩

/-- The engine that the options of a command ask for, with the settings it was made from. -/
def engineFor (options : EngineOptions) : Setup (Settings × Engine) := do
  let found ← settings options
  let engine ← engine (override options found.engine)
  return (found, engine)

def documentOf (file text : String) : Except SetupFault Value :=
  match Value.ofJson? text with
  | some doc => .ok doc
  | none => .error (.malformedDocument file)

def document (file : String) : Setup Value := do
  let text ← need (.unreadableFile file) (.text file)
  ExceptT.mk (pure (documentOf file text))

end Setup

end PolicyEngine
