import PolicyEngine.Document.Basic
import PolicyEngine.Json.Basic
import PolicyEngine.Number.Decimal

/-! Documents as text. The JSON text writes whole numbers below `2 ^ 53` as integers; the display
form leaves out the quotes of a text and spells numbers without exponents. A bare literal is read as
`null`, as a number, as a boolean, and otherwise as itself without quote characters around it. -/
namespace PolicyEngine.Value

def numberChars (x : Float) : List Char :=
  match Number.jsonInt? x with
  | some i => Number.intChars i
  | none => Json.realChars x

mutual

/-- The compact JSON text. -/
def jsonChars : Value → List Char
  | .null => Json.nullChars
  | .bool b => Json.boolChars b
  | .number x => numberChars x
  | .string s => Json.quoteChars s
  | .array items => '[' :: jsonItems items ++ [']']
  | .object fields => '{' :: jsonFields fields ++ ['}']

def jsonItems : List Value → List Char
  | [] => []
  | [item] => jsonChars item
  | item :: rest => jsonChars item ++ ',' :: jsonItems rest

def jsonFields : List (String × Value) → List Char
  | [] => []
  | [(key, value)] => Json.quoteChars key ++ ':' :: jsonChars value
  | (key, value) :: rest => Json.quoteChars key ++ ':' :: jsonChars value ++ ',' :: jsonFields rest

end

def json (v : Value) : String := String.ofList v.jsonChars

/-- The form in which messages show a value. -/
def display : Value → String
  | .null => "null"
  | .bool b => if b then "true" else "false"
  | .number x => Number.display x
  | .string s => s
  | v => v.json

instance : ToString Value := ⟨display⟩

/-! Literals -/

/-- The spellings of booleans in rule text. -/
def boolOfText? (text : String) : Option Bool :=
  if text ∈ ["1", "t", "T", "true", "TRUE", "True"] then some true
  else if text ∈ ["0", "f", "F", "false", "FALSE", "False"] then some false
  else none

def isQuote (c : Char) : Bool := c = '"' || c = '\''

/-- The text without the quote characters at its ends, matched or not. -/
def stripQuotes (text : String) : String :=
  String.ofList ((text.toList.dropWhile isQuote).reverse.dropWhile isQuote).reverse

def ofLiteral (text : String) : Value :=
  if text = "null" then .null
  else match Number.ofText? text with
    | some x => .number x
    | none =>
      match boolOfText? text with
      | some b => .bool b
      | none => .string (stripQuotes text)

end PolicyEngine.Value
