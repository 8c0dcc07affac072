import PolicyEngine.Policy.Registry
import PolicyEngine.Json.Node
import PolicyEngine.Yaml.Listing

/-! Policy sources: names with lists of rule texts, as a JSON object or as a YAML document. A name that
comes up again replaces what it had. -/
namespace PolicyEngine

/-- Why a text is no policy source. -/
inductive SourceFault where
  | notJson
  | notYaml
  deriving Repr, DecidableEq

namespace SourceFault

def message : SourceFault → String
  | notJson => "invalid policy JSON: not an object of lists of rules"
  | notYaml => "invalid policy YAML: no names with lists of rules"

end SourceFault

namespace Registry

def memberOf? (member : List Json.Piece × Json.Node) : Option (String × List String) := do
  return (← Json.Piece.text? member.1, ← member.2.texts?)

def ofNode? : Json.Node → Option Registry
  | .object members => (members.mapM memberOf?).map ofSource
  | _ => none

def ofJson (text : String) : Except SourceFault Registry :=
  match (Json.Node.ofText? text).bind ofNode? with
  | some registry => .ok registry
  | none => .error .notJson

def ofYaml (text : String) : Except SourceFault Registry :=
  match Yaml.listing? text with
  | some entries => .ok (ofSource entries)
  | none => .error .notYaml

end Registry

end PolicyEngine
