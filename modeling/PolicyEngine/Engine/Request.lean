import PolicyEngine.Document.Json
import PolicyEngine.Text.Utf8

/-! Requests: a document with the names of the policies to run on it, in an envelope. The envelope is a
JSON object or the array of its fields in order. -/
namespace PolicyEngine

structure RequestContext where
  userId : Option String
  source : Option String
  deriving Repr, DecidableEq

structure Request where
  id : String
  timestamp : Option String
  context : Option RequestContext
  data : Value
  policies : List String

namespace Request
open Json (Node Piece)

/-- A part that may be `null`. -/
def nullable (read : Node → Option α) : Node → Option (Option α)
  | .null => some none
  | n => (read n).map some

/-- The values of the members with one of the given names; other members are passed over. No
name may come up twice, and every key must be a text. -/
def fields? (names : List String) : List (List Piece × Node) → Option (List (String × Node))
  | [] => some []
  | (key, value) :: rest => do
    let name ← Piece.text? key
    let others ← fields? names rest
    if !names.contains name then some others
    else if Fields.contains name others then none
    else some ((name, value) :: others)

/-- Gives each item of a record in array form its name. There may be fewer items than names. -/
def positional? (names : List String) (items : List Node) : Option (List (String × Node)) :=
  if names.length < items.length then none else some (names.zip items)

/-- The named parts of a record in either form. -/
def record? (names : List String) : Node → Option (List (String × Node))
  | .object members => fields? names members
  | .array items => positional? names items
  | _ => none

/-- The part with a name, read, or what stands for it where it is missing. -/
def part? (parts : List (String × Node)) (name : String) (missing : Option α) (read : Node → Option α) :
    Option α :=
  match Fields.get? name parts with
  | some n => read n
  | none => missing

def contextFields : List String := ["userId", "source"]

def context? (n : Node) : Option RequestContext := do
  let parts ← record? contextFields n
  return ⟨← part? parts "userId" (some none) (nullable Node.text?),
    ← part? parts "source" (some none) (nullable Node.text?)⟩

def envelopeFields : List String := ["id", "timestamp", "context", "data", "policies"]

/-- How many containers of the data may be open at once, the envelope being one more. -/
def maxDataDepth : Nat := Value.maxDepth - 1

def ofNode? (n : Node) : Option Request := do
  let parts ← record? envelopeFields n
  return ⟨← part? parts "id" (some "") Node.text?,
    ← part? parts "timestamp" (some none) (nullable Node.text?),
    ← part? parts "context" (some none) (nullable context?),
    ← part? parts "data" none (Value.ofNode? maxDataDepth),
    ← part? parts "policies" none Node.texts?⟩

def ofText? (text : String) : Option Request := (Node.ofText? text).bind ofNode?

/-- What stands for a byte that belongs to no character: half of a surrogate pair, which only a text
that nobody reads may hold. The letter keeps it from being part of another escape or of a pair. -/
def undecodable : List Char := ['x', '\\', 'u', 'd', 'c', '0', '0']

/-- Reads a request from bytes. Outside of texts that are passed over they must be UTF-8. -/
def ofBytes? (bytes : List UInt8) : Option Request :=
  let chars := (Text.Utf8.decode bytes).flatMap fun
    | .inr c => [c]
    | .inl _ => undecodable
  (Node.ofChars? chars).bind ofNode?

end Request

end PolicyEngine
