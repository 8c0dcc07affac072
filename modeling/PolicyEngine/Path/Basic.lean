import PolicyEngine.Number.Decimal
import PolicyEngine.Text.Basic

/-! Document paths: `$` followed by keys after points and indices in brackets. A path starts with
a key. -/
namespace PolicyEngine

inductive Segment where
  | key (name : String)
  | index (i : Nat)
  deriving Repr, DecidableEq

structure Path where
  root : String
  rest : List Segment
  deriving Repr, DecidableEq

/-- Why a text is not a path. Each cause carries the whole text. -/
inductive PathFault where
  | missingRoot (path : String)
  | emptySegment (path : String)
  | malformedBracket (path : String) (piece : String)
  | invalidIndex (path : String) (index : String)
  deriving Repr, DecidableEq

namespace Segment

def isIndex : Segment → Bool
  | .index _ => true
  | .key _ => false

def render : Segment → String
  | .key name => "." ++ name
  | .index i => "[" ++ toString i ++ "]"

end Segment

/-- The text of a place in a document; the root is `$`. -/
def renderPlace (place : List Segment) : String :=
  place.foldl (fun text segment => text ++ segment.render) "$"

namespace PathFault

def message : PathFault → String
  | missingRoot path => s!"path '{path}' must start with '$.'"
  | emptySegment path => s!"path '{path}' contains an empty segment"
  | malformedBracket path piece => s!"malformed bracket syntax in segment '{piece}' of path '{path}'"
  | invalidIndex path index => s!"invalid array index '{index}' in path '{path}'"

end PathFault

namespace Path

def segments (p : Path) : List Segment := .key p.root :: p.rest

/-- The text of the first segments. -/
def renderPrefix (p : Path) (count : Nat) : String := renderPlace (p.segments.take count)

def render (p : Path) : String := renderPlace p.segments

instance : ToString Path := ⟨render⟩

/-- Indices stay below this bound. -/
def indexBound : Nat := Nat.pow 2 64

/-- The index that a text between brackets spells, with an optional plus. -/
def indexOf? (text : List Char) : Option Nat := Number.naturalBelow? indexBound text

/-- What is wrong with a piece: its brackets, or the text of an index. -/
inductive PieceFault where
  | bracket
  | index (text : List Char)

/-- The bracketed indices that follow a name. -/
def indices (cs : List Char) : Except PieceFault (List Segment) :=
  match cs with
  | [] => .ok []
  | c :: rest =>
    let text := rest.takeWhile (· ≠ ']')
    if c ≠ '[' ∨ ']' ∉ rest ∨ '[' ∈ text then .error .bracket
    else match indexOf? text with
      | none => .error (.index text)
      | some i => (indices (rest.dropWhile (· ≠ ']')).tail).map (.index i :: ·)
termination_by cs.length
decreasing_by
  have := (rest.dropWhile_sublist (· ≠ ']')).length_le
  simp only [List.length_tail, List.length_cons]
  omega

/-- A name and the indices after it. -/
def piece (full : String) (cs : List Char) : Except PathFault (String × List Segment) :=
  if cs.isEmpty then .error (.emptySegment full)
  else
    let name := cs.takeWhile (· ≠ '[')
    if name.isEmpty || ']' ∈ name then .error (.malformedBracket full (String.ofList cs))
    else match indices (cs.dropWhile (· ≠ '[')) with
      | .ok segments => .ok (String.ofList name, segments)
      | .error .bracket => .error (.malformedBracket full (String.ofList cs))
      | .error (.index text) => .error (.invalidIndex full (String.ofList text))

/-- The segments of the pieces after the first. -/
def pieces (full : String) : List (List Char) → Except PathFault (List Segment)
  | [] => .ok []
  | cs :: others => do
    let (name, segments) ← piece full cs
    return .key name :: segments ++ (← pieces full others)

def parse (text : String) : Except PathFault Path :=
  match text.toList with
  | '$' :: '.' :: body => do
    let (first, others) := Text.split '.' body
    let (root, segments) ← piece text first
    return ⟨root, segments ++ (← pieces text others)⟩
  | _ => .error (.missingRoot text)

@[simp] theorem segments_ne_nil (p : Path) : p.segments ≠ [] := by simp [segments]

end Path

end PolicyEngine
