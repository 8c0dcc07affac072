import PolicyEngine.Path.Basic
import PolicyEngine.Document.Text

/-! Reading and writing a document at a path. Reading finds a value, finds that the last key is
absent, or fails; writing creates the containers it needs and never replaces a scalar by one. -/
namespace PolicyEngine

/-- Why a place in a document cannot be reached. The place is given from the root. -/
inductive AccessFault where
  | indexOutOfBounds (place : List Segment) (index size : Nat)
  | notAnObject (place : List Segment)
  | notAnArray (place : List Segment)
  | missingKey (place : List Segment)
  | scalarCollision (place : List Segment)
  deriving Repr, DecidableEq

namespace AccessFault

def message : AccessFault → String
  | indexOutOfBounds place index size =>
    s!"index {index} out of bounds for '{renderPlace place}' (length {size})"
  | notAnObject place => s!"'{renderPlace place}' is not an object"
  | notAnArray place => s!"'{renderPlace place}' is not an array"
  | missingKey place => s!"invalid path: '{renderPlace place}' does not exist"
  | scalarCollision place => s!"cannot descend into scalar value at '{renderPlace place}'"

/-- The same fault seen from one level further up. -/
def under (segment : Segment) : AccessFault → AccessFault
  | indexOutOfBounds place index size => indexOutOfBounds (segment :: place) index size
  | notAnObject place => notAnObject (segment :: place)
  | notAnArray place => notAnArray (segment :: place)
  | missingKey place => missingKey (segment :: place)
  | scalarCollision place => scalarCollision (segment :: place)

end AccessFault

namespace Value

/-- The value at the end of some segments, or nothing if only the last key is absent. -/
def getAt (v : Value) : List Segment → Except AccessFault (Option Value)
  | [] => .ok (some v)
  | .key name :: rest =>
    match v with
    | .object fields =>
      match Fields.get? name fields with
      | some child => (getAt child rest).mapError (·.under (.key name))
      | none => if rest.isEmpty then .ok none else .error (.missingKey [.key name])
    | _ => .error (.notAnObject [])
  | .index i :: rest =>
    match v with
    | .array items =>
      match items[i]? with
      | some child => (getAt child rest).mapError (·.under (.index i))
      | none => .error (.indexOutOfBounds [] i items.length)
    | _ => .error (.notAnArray [])

def get (doc : Value) (path : Path) : Except AccessFault (Option Value) := doc.getAt path.segments

/-- The empty container in which the next segment can be written. -/
def fresh : List Segment → Value
  | .index _ :: _ => .array []
  | _ => .object []

/-- The items with empty objects added until there is one at `i`. -/
def pad (items : List Value) (i : Nat) : List Value :=
  items ++ List.replicate (i + 1 - items.length) (.object [])

/-- The document with `value` at the end of some segments. -/
def setAt (value : Value) : List Segment → Value → Except AccessFault Value
  | [], _ => .ok value
  | .key name :: rest, v =>
    match v with
    | .object fields =>
      ((setAt value rest ((Fields.get? name fields).getD (fresh rest))).mapError
        (·.under (.key name))).map fun child => .object (Fields.insert name child fields)
    | .array _ => .error (.notAnObject [])
    | _ => .error (.scalarCollision [])
  | .index i :: rest, v =>
    match v with
    | .array items =>
      ((setAt value rest (items[i]?.getD (fresh rest))).mapError (·.under (.index i))).map
        fun child => .array ((pad items i).set i child)
    | .object _ => .error (.notAnArray [])
    | _ => .error (.scalarCollision [])

def set (doc : Value) (path : Path) (value : Value) : Except AccessFault Value :=
  setAt value path.segments doc

/-- Why a text names no value of a document. -/
inductive ResolveFault where
  | path (fault : PathFault)
  | access (fault : AccessFault)

/-- The value that an operand text stands for: a text that starts with `$.` is looked up, an absent
value being null, and any other text is a literal. -/
def resolve (doc : Value) (text : String) : Except ResolveFault Value :=
  match text.toList with
  | '$' :: '.' :: _ =>
    match Path.parse text with
    | .error fault => .error (.path fault)
    | .ok path =>
      match doc.get path with
      | .error fault => .error (.access fault)
      | .ok found => .ok (found.getD .null)
  | _ => .ok (ofLiteral text)

@[simp] theorem getAt_nil (v : Value) : v.getAt [] = .ok (some v) := by cases v <;> rfl

@[simp] theorem setAt_nil (value v : Value) : setAt value [] v = .ok value := rfl

theorem length_pad (items : List Value) (i : Nat) : (pad items i).length = max items.length (i + 1) := by
  simp only [pad, List.length_append, List.length_replicate]; omega

theorem lt_length_pad (items : List Value) (i : Nat) : i < (pad items i).length := by
  rw [length_pad]; omega

end Value

end PolicyEngine
