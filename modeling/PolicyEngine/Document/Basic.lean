import PolicyEngine.Fields

/-! Documents: trees of dynamically typed values. The fields of an object are in ascending key
order; the order carries no meaning of its own. -/
namespace PolicyEngine

inductive Value where
  | null
  | bool (b : Bool)
  | number (x : Float)
  | string (s : String)
  | array (items : List Value)
  | object (fields : List (String × Value))

namespace Value

instance : Inhabited Value := ⟨.null⟩

/-- The name of a value's kind, as messages and schemas spell it. -/
def kind : Value → String
  | .null => "null"
  | .bool _ => "boolean"
  | .number _ => "number"
  | .string _ => "string"
  | .array _ => "array"
  | .object _ => "object"

def isNull : Value → Bool
  | .null => true
  | _ => false

/-- Anything but an array or an object. -/
def isScalar : Value → Bool
  | .array _ | .object _ => false
  | _ => true

def bool? : Value → Option Bool
  | .bool b => some b
  | _ => none

def number? : Value → Option Float
  | .number x => some x
  | _ => none

def string? : Value → Option String
  | .string s => some s
  | _ => none

def array? : Value → Option (List Value)
  | .array items => some items
  | _ => none

def object? : Value → Option (List (String × Value))
  | .object fields => some fields
  | _ => none

/-- The value under a key of an object. -/
def field? (v : Value) (key : String) : Option Value := v.object?.bind (Fields.get? key)

mutual

/-- Equality of documents. Numbers are compared as numbers: the zeros are equal, and NaN differs
from itself. -/
def beq : Value → Value → Bool
  | .null, .null => true
  | .bool a, .bool b => a == b
  | .number x, .number y => x == y
  | .string s, .string t => s == t
  | .array xs, .array ys => beqItems xs ys
  | .object xs, .object ys => beqFields xs ys
  | _, _ => false

def beqItems : List Value → List Value → Bool
  | [], [] => true
  | x :: xs, y :: ys => beq x y && beqItems xs ys
  | _, _ => false

def beqFields : List (String × Value) → List (String × Value) → Bool
  | [], [] => true
  | (j, x) :: xs, (k, y) :: ys => j == k && beq x y && beqFields xs ys
  | _, _ => false

end

instance : BEq Value := ⟨beq⟩

@[simp] theorem isScalar_array (items : List Value) : (array items).isScalar = false := rfl
@[simp] theorem isScalar_object (fields : List (String × Value)) : (object fields).isScalar = false := rfl

example : (Value.number 0.0 == Value.number (-0.0)) = true := by decide
example : (Value.array [.null] == Value.array []) = false := by decide

end Value

end PolicyEngine
