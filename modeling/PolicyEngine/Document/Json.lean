import PolicyEngine.Document.Basic
import PolicyEngine.Json.Basic
import PolicyEngine.Json.Node

/-! Documents and JSON: reading a document from a text, and moving it to and from the JSON tree in
which texts are written. -/
namespace PolicyEngine.Value

/-- How many containers of a text may be open at once. -/
def maxDepth : Nat := 127

mutual

/-- The document that a parsed text holds, with at most `depth` containers inside each other. No
document where a number overflows or a text has half a surrogate pair. -/
def ofNode? (depth : Nat) : Json.Node → Option Value
  | .null => some .null
  | .bool b => some (.bool b)
  | .number text => text.toNumber?.map .number
  | .string pieces => (Json.Piece.text? pieces).map .string
  | .array items =>
    match depth with
    | 0 => none
    | depth + 1 => (ofItems? depth items).map .array
  | .object members =>
    match depth with
    | 0 => none
    | depth + 1 => (ofMembers? depth members).map fun pairs => .object (Fields.ofPairs pairs)

def ofItems? (depth : Nat) : List Json.Node → Option (List Value)
  | [] => some []
  | item :: rest =>
    match ofNode? depth item with
    | none => none
    | some v => (ofItems? depth rest).map (v :: ·)

def ofMembers? (depth : Nat) : List (List Json.Piece × Json.Node) → Option (List (String × Value))
  | [] => some []
  | (key, value) :: rest =>
    match Json.Piece.text? key, ofNode? depth value with
    | some k, some v => (ofMembers? depth rest).map ((k, v) :: ·)
    | _, _ => none

end

/-- Reads a JSON text. -/
def ofJson? (text : String) : Option Value := (Json.Node.ofText? text).bind (ofNode? maxDepth)

mutual

/-- The JSON tree of a document. Numbers that JSON cannot spell become `null`. -/
def toJson : Value → Json
  | .null => .null
  | .bool b => .bool b
  | .number x =>
    match Number.jsonInt? x with
    | some i => .integer i
    | none => if x.isFinite then .real x else .null
  | .string s => .string s
  | .array items => .array (toItems items)
  | .object fields => .object (toMembers fields)

def toItems : List Value → List Json
  | [] => []
  | item :: rest => toJson item :: toItems rest

def toMembers : List (String × Value) → List (String × Json)
  | [] => []
  | (key, value) :: rest => (key, toJson value) :: toMembers rest

end

mutual

/-- The document of a JSON tree. -/
def ofTree : Json → Value
  | .null => .null
  | .bool b => .bool b
  | .integer i => .number (Number.ofFraction (i < 0) i.natAbs 1)
  | .real x => .number x
  | .string s => .string s
  | .array items => .array (ofTreeItems items)
  | .object members => .object (Fields.ofPairs (ofTreeMembers members))

def ofTreeItems : List Json → List Value
  | [] => []
  | item :: rest => ofTree item :: ofTreeItems rest

def ofTreeMembers : List (String × Json) → List (String × Value)
  | [] => []
  | (key, value) :: rest => (key, ofTree value) :: ofTreeMembers rest

end

/-- The JSON text over several lines. -/
def pretty (v : Value) : String := v.toJson.pretty

end PolicyEngine.Value
