import PolicyEngine.Number.Text
import PolicyEngine.Fields
import PolicyEngine.Text.Basic

/-! JSON texts to be written, compact or over several lines. Numbers are integers or reals; a real
that JSON cannot spell is written as `null`. -/
namespace PolicyEngine

inductive Json where
  | null
  | bool (b : Bool)
  | integer (i : Int)
  | real (x : Float)
  | string (s : String)
  | array (items : List Json)
  | object (members : List (String × Json))

namespace Json

/-- One character inside a quoted text. -/
def escapeChar (c : Char) : List Char :=
  if c = '"' then ['\\', '"']
  else if c = '\\' then ['\\', '\\']
  else if c.toNat = 8 then ['\\', 'b']
  else if c.toNat = 9 then ['\\', 't']
  else if c.toNat = 10 then ['\\', 'n']
  else if c.toNat = 12 then ['\\', 'f']
  else if c.toNat = 13 then ['\\', 'r']
  else if c.toNat < 0x20 then ['\\', 'u', '0', '0', Text.hexDigit (c.toNat / 16), Text.hexDigit (c.toNat % 16)]
  else [c]

def quoteChars (s : String) : List Char := '"' :: s.toList.flatMap escapeChar ++ ['"']

def nullChars : List Char := ['n', 'u', 'l', 'l']

def boolChars (b : Bool) : List Char :=
  if b then ['t', 'r', 'u', 'e'] else ['f', 'a', 'l', 's', 'e']

def realChars (x : Float) : List Char := (Number.jsonReal? x).getD nullChars

mutual

/-- The text without blanks. -/
def compactChars : Json → List Char
  | .null => nullChars
  | .bool b => boolChars b
  | .integer i => Number.intChars i
  | .real x => realChars x
  | .string s => quoteChars s
  | .array items => '[' :: itemChars items ++ [']']
  | .object members => '{' :: memberChars members ++ ['}']

def itemChars : List Json → List Char
  | [] => []
  | [item] => compactChars item
  | item :: rest => compactChars item ++ ',' :: itemChars rest

def memberChars : List (String × Json) → List Char
  | [] => []
  | [(key, value)] => quoteChars key ++ ':' :: compactChars value
  | (key, value) :: rest => quoteChars key ++ ':' :: compactChars value ++ ',' :: memberChars rest

end

def compact (j : Json) : String := String.ofList j.compactChars

def lineBreak (depth : Nat) : List Char := '\n' :: List.replicate (2 * depth) ' '

mutual

/-- The text with one item or member a line, two blanks a level. -/
def prettyChars (depth : Nat) : Json → List Char
  | .array [] => ['[', ']']
  | .array (item :: rest) =>
    '[' :: prettyItems (depth + 1) (item :: rest) ++ lineBreak depth ++ [']']
  | .object [] => ['{', '}']
  | .object (member :: rest) =>
    '{' :: prettyMembers (depth + 1) (member :: rest) ++ lineBreak depth ++ ['}']
  | j => compactChars j

def prettyItems (depth : Nat) : List Json → List Char
  | [] => []
  | [item] => lineBreak depth ++ prettyChars depth item
  | item :: rest => lineBreak depth ++ prettyChars depth item ++ ',' :: prettyItems depth rest

def prettyMembers (depth : Nat) : List (String × Json) → List Char
  | [] => []
  | [(key, value)] => lineBreak depth ++ quoteChars key ++ ':' :: ' ' :: prettyChars depth value
  | (key, value) :: rest =>
    lineBreak depth ++ quoteChars key ++ ':' :: ' ' :: prettyChars depth value ++
      ',' :: prettyMembers depth rest

end

def pretty (j : Json) : String := String.ofList (j.prettyChars 0)

mutual

/-- The same tree with the members of objects in ascending order. -/
def sorted : Json → Json
  | .array items => .array (sortedItems items)
  | .object members => .object (Fields.ofPairs (sortedMembers members))
  | j => j

def sortedItems : List Json → List Json
  | [] => []
  | item :: rest => sorted item :: sortedItems rest

def sortedMembers : List (String × Json) → List (String × Json)
  | [] => []
  | (key, value) :: rest => (key, sorted value) :: sortedMembers rest

end

/-- The JSON form of a text that may be missing. -/
def ofText? : Option String → Json
  | some s => .string s
  | none => .null

def ofNat (n : Nat) : Json := .integer n

end Json

end PolicyEngine
