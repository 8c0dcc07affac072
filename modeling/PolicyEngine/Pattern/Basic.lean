import PolicyEngine.Pattern.CharSet

/-! Patterns over texts and the search for them. A search keeps the set of places that some match
has reached; a match may start anywhere. -/
namespace PolicyEngine

/-- Conditions on a place between two characters. -/
inductive Anchor where
  | textStart
  | textEnd
  | lineStart (crlf : Bool)
  | lineEnd (crlf : Bool)
  | wordBoundary (unicode : Bool)
  | notWordBoundary (unicode : Bool)
  | wordStart (unicode : Bool)
  | wordEnd (unicode : Bool)
  | wordStartHalf (unicode : Bool)
  | wordEndHalf (unicode : Bool)
  deriving Repr, DecidableEq

inductive Pattern where
  | empty
  | set (chars : CharSet)
  | anchor (anchor : Anchor)
  | concat (first second : Pattern)
  | alternate (left right : Pattern)
  /-- From `least` to `most` times, or any number from `least` on. -/
  | repeated (body : Pattern) (least : Nat) (most : Option Nat)

namespace Anchor

/-- Whether an anchor holds between two characters, either of which may be missing at an end. -/
def holds (before after : Option Char) : Anchor → Bool
  | textStart => before.isNone
  | textEnd => after.isNone
  | lineStart false => before.isNone || before = some '\n'
  | lineStart true => before.isNone || before = some '\n' || (before = some '\r' && after != some '\n')
  | lineEnd false => after.isNone || after = some '\n'
  | lineEnd true => after.isNone || after = some '\r' || (after = some '\n' && before != some '\r')
  | wordBoundary u => word u before != word u after
  | notWordBoundary u => word u before == word u after
  | wordStart u => !word u before && word u after
  | wordEnd u => word u before && !word u after
  | wordStartHalf u => !word u before
  | wordEndHalf u => !word u after
where
  word (unicode : Bool) (c : Option Char) : Bool := c.any (CharSet.wordChars unicode).mem

end Anchor

/-- For each place in a text, from before the first character to after the last, whether it is
reached. -/
abbrev Marks := List Bool

namespace Pattern

/-- The neighbours of each place in a text. -/
def contexts (before : Option Char) : List Char → List (Option Char × Option Char)
  | [] => [(before, none)]
  | c :: rest => (before, some c) :: contexts (some c) rest

/-- The places after a character of a set at a marked place. -/
def step (chars : CharSet) (text : List Char) (marks : Marks) : Marks :=
  false :: List.zipWith (fun marked c => marked && chars.mem c) marks text

def either (xs ys : Marks) : Marks := List.zipWith (· || ·) xs ys

/-- Applies `f` up to `count` times, stopping where it changes nothing. -/
def iterate (f : Marks → Marks) : Nat → Marks → Marks
  | 0, marks => marks
  | count + 1, marks =>
    let next := f marks
    if next = marks then marks else iterate f count next

/-- The places that a match from a marked place can end at. No more rounds of a repetition count
than there are places, since each of them passes a character or stays. -/
def reach (text : List Char) : Pattern → Marks → Marks
  | .empty, marks => marks
  | .set chars, marks => step chars text marks
  | .anchor a, marks =>
    List.zipWith (fun marked place => marked && a.holds place.1 place.2) marks (contexts none text)
  | .concat p q, marks => reach text q (reach text p marks)
  | .alternate p q, marks => either (reach text p marks) (reach text q marks)
  | .repeated p least most, marks =>
    let places := text.length + 1
    let entered := iterate (reach text p) (min least places) marks
    let extra := match most with
      | none => places
      | some m => min (m - least) places
    iterate (fun marks => either marks (reach text p marks)) extra entered

/-- Whether the pattern matches somewhere in the text. -/
def search (p : Pattern) (text : List Char) : Bool :=
  (reach text p (List.replicate (text.length + 1) true)).any id

def isMatch (p : Pattern) (text : String) : Bool := p.search text.toList

end Pattern

end PolicyEngine
