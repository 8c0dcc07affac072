import PolicyEngine.Schema.Violation
import PolicyEngine.Document.Json

/-! Schemas: documents that say which documents are wanted. A schema is kept as a document, with
its patterns compiled. -/
namespace PolicyEngine

/-- Compiled patterns by their source texts. -/
abbrev PatternTable := List (String × Except PatternFault Pattern)

namespace PatternTable

/-- Compiles a source unless the table has it. -/
def add (table : PatternTable) (source : String) : PatternTable :=
  if Fields.contains source table then table
  else Fields.insert source (Pattern.compile source) table

def ofSources (sources : List String) : PatternTable := sources.foldl add []

/-- The compiled pattern of a source, from the table if it is there. -/
def compiled (table : PatternTable) (source : String) : Except PatternFault Pattern :=
  (Fields.get? source table).getD (Pattern.compile source)

end PatternTable

namespace Schema

mutual

/-- The texts under the key `pattern` of any object in a document, itself included. -/
def patternSources : Value → List String
  | .array items => itemSources items
  | .object fields =>
    match Fields.get? Keyword.pattern.name fields with
    | some (.string source) => source :: fieldSources fields
    | _ => fieldSources fields
  | _ => []

def itemSources : List Value → List String
  | [] => []
  | item :: rest => patternSources item ++ itemSources rest

def fieldSources : List (String × Value) → List String
  | [] => []
  | (_, value) :: rest => patternSources value ++ fieldSources rest

end

end Schema

structure Schema where
  root : Value
  patterns : PatternTable
  patterns_eq : patterns = .ofSources (Schema.patternSources root)

/-- Why a text or a document is no schema. -/
inductive SchemaFault where
  | notJson
  | invalidRoot (root : Value)

namespace SchemaFault

def message : SchemaFault → String
  | notJson => "invalid schema JSON: not a JSON document"
  | invalidRoot root => s!"schema root must be an object or boolean, found {root.kind}"

end SchemaFault

namespace Schema

def load (root : Value) : Schema := ⟨root, .ofSources (patternSources root), rfl⟩

/-- A schema is an object or a boolean. -/
def ofValue (root : Value) : Except SchemaFault Schema :=
  match root with
  | .object _ | .bool _ => .ok (load root)
  | _ => .error (.invalidRoot root)

def ofJson (text : String) : Except SchemaFault Schema :=
  match Value.ofJson? text with
  | some root => ofValue root
  | none => .error .notJson

end Schema

end PolicyEngine
