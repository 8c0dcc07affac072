import PolicyEngine.Command.Files
import PolicyEngine.Toml.Parser

/-! Settings: what a configuration file says about the engine and the service. Names that are not
known are passed over, and file names are seen from the file's own directory. -/
namespace PolicyEngine

structure EngineSettings where
  requestSchema : Option String
  responseSchema : Option String
  policies : List String
  deriving Repr, DecidableEq

structure ServerSettings where
  tcpPort : Nat
  requestTimeoutMs : Nat
  maxBodyBytes : Nat
  deriving Repr, DecidableEq

structure Settings where
  engine : EngineSettings
  server : ServerSettings
  deriving Repr, DecidableEq

namespace EngineSettings

def empty : EngineSettings := ⟨none, none, []⟩

def mapFiles (f : String → String) (s : EngineSettings) : EngineSettings :=
  ⟨s.requestSchema.map f, s.responseSchema.map f, s.policies.map f⟩

end EngineSettings

def ServerSettings.usual : ServerSettings := ⟨8080, 5000, 10 * 1024 * 1024⟩

namespace Settings

def usual : Settings := ⟨.empty, .usual⟩

def tcpPortBound : Nat := Nat.pow 2 16

/-- The parts of a record, given by name or all in order. -/
def parts? (names : List String) (required : Nat) : Toml → Option Toml.Entries
  | .table _ entries => some entries
  | .array items => if items.length < required then none else some (names.zip items)
  | _ => none

/-- A part that stands for `missing` where it is not given. -/
def part? (entries : Toml.Entries) (name : String) (missing : α) (read : Toml → Option α) : Option α :=
  match Fields.get? name entries with
  | some t => read t
  | none => some missing

def natural? (t : Toml) : Option Nat := t.integer?.bind fun i => if 0 ≤ i then some i.toNat else none

def fileNames? : Toml → Option (List String)
  | .array items => items.mapM Toml.string?
  | _ => none

def engine? (t : Toml) : Option EngineSettings := do
  let entries ← parts? ["request_schema", "response_schema", "policies"] 2 t
  return ⟨← part? entries "request_schema" none (·.string?.map some),
    ← part? entries "response_schema" none (·.string?.map some),
    ← part? entries "policies" [] fileNames?⟩

def server? (t : Toml) : Option ServerSettings := do
  let entries ← parts? ["port", "request_timeout_ms", "max_body_bytes"] 0 t
  let usual := ServerSettings.usual
  return ⟨← part? entries "port" usual.tcpPort fun t => (natural? t).filter (· < tcpPortBound),
    ← part? entries "request_timeout_ms" usual.requestTimeoutMs natural?,
    ← part? entries "max_body_bytes" usual.maxBodyBytes natural?⟩

def ofText? (text : String) : Option Settings := do
  let entries ← Toml.ofText? text
  return ⟨← part? entries "engine" .empty engine?, ← part? entries "server" .usual server?⟩

/-- The settings with their file names seen from a directory. -/
def within (directory : String) (s : Settings) : Settings :=
  { s with engine := s.engine.mapFiles (FileName.within directory) }

end Settings

end PolicyEngine
