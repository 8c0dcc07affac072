import PolicyEngine.Text.Category
import PolicyEngine.Text.CaseFold
import PolicyEngine.Text.Basic
import PolicyEngine.Text.Letter

/-! Sets of characters in patterns. -/
namespace PolicyEngine

inductive CharSet where
  | ranges (ranges : Text.Ranges)
  | union (left right : CharSet)
  | inter (left right : CharSet)
  | diff (left right : CharSet)
  | compl (set : CharSet)
  /-- All characters that differ from a member only in case. -/
  | folded (set : CharSet)
  /-- All characters that differ from a member only in the case of an ASCII letter. -/
  | foldedAscii (set : CharSet)

namespace CharSet

/-- The code of an ASCII letter in the other case. -/
def otherCase (n : Nat) : Nat :=
  if 0x41 ≤ n && n ≤ 0x5a then n + 0x20 else if 0x61 ≤ n && n ≤ 0x7a then n - 0x20 else n

def has : CharSet → Nat → Bool
  | ranges rs, n => rs.has n
  | union a b, n => a.has n || b.has n
  | inter a b, n => a.has n && b.has n
  | diff a b, n => a.has n && !b.has n
  | compl a, n => !a.has n
  | folded a, n => (Text.foldClass n).any fun m => a.has m
  | foldedAscii a, n => a.has n || a.has (otherCase n)

def mem (s : CharSet) (c : Char) : Bool := s.has c.toNat

def nothing : CharSet := ranges []

def everything : CharSet := compl nothing

def single (c : Char) : CharSet := ranges [(c.toNat, c.toNat)]

def unionAll (sets : List CharSet) : CharSet := sets.foldl union nothing

def symmDiff (a b : CharSet) : CharSet := union (diff a b) (diff b a)

/-- How many ranges a set is built from, a bound on the size of an automaton for it. -/
def weight : CharSet → Nat
  | ranges rs => rs.length
  | union a b | inter a b | diff a b => a.weight + b.weight
  | compl a => a.weight + 1
  | folded a | foldedAscii a => 2 * a.weight

/-- Whether the set is built from ASCII ranges alone. -/
def isAscii : CharSet → Bool
  | ranges rs => rs.all fun r => r.2 < 0x80
  | union a b | inter a b => a.isAscii && b.isAscii
  | diff a _ => a.isAscii
  | compl _ => false
  | folded _ => false
  | foldedAscii a => a.isAscii

def complIf (negated : Bool) (s : CharSet) : CharSet := if negated then compl s else s

def foldedIf (ignoreCase unicode : Bool) (s : CharSet) : CharSet :=
  if !ignoreCase then s else if unicode then folded s else foldedAscii s

/-! Classes with a letter of their own -/

def digits (unicode : Bool) : CharSet :=
  ranges (if unicode then Text.Category.decimalNumber else [(0x30, 0x39)])

def blanks (unicode : Bool) : CharSet :=
  ranges (if unicode then Text.blankRanges else [(0x9, 0xd), (0x20, 0x20)])

/-- Letters, marks, decimal digits, connectors and joiners. -/
def wordChars (unicode : Bool) : CharSet :=
  if unicode then
    unionAll [ranges Text.letterRanges, ranges Text.Category.spacingMark,
      ranges Text.Category.nonspacingMark, ranges Text.Category.enclosingMark,
      ranges Text.Category.decimalNumber, ranges Text.Category.connectorPunctuation,
      ranges [(0x200c, 0x200d)]]
  else ranges [(0x30, 0x39), (0x41, 0x5a), (0x5f, 0x5f), (0x61, 0x7a)]

/-- The bracketed ASCII classes. -/
def asciiClasses : List (String × Text.Ranges) :=
  [("alnum", [(0x30, 0x39), (0x41, 0x5a), (0x61, 0x7a)]),
    ("alpha", [(0x41, 0x5a), (0x61, 0x7a)]),
    ("ascii", [(0x0, 0x7f)]),
    ("blank", [(0x9, 0x9), (0x20, 0x20)]),
    ("cntrl", [(0x0, 0x1f), (0x7f, 0x7f)]),
    ("digit", [(0x30, 0x39)]),
    ("graph", [(0x21, 0x7e)]),
    ("lower", [(0x61, 0x7a)]),
    ("print", [(0x20, 0x7e)]),
    ("punct", [(0x21, 0x2f), (0x3a, 0x40), (0x5b, 0x60), (0x7b, 0x7e)]),
    ("space", [(0x9, 0xd), (0x20, 0x20)]),
    ("upper", [(0x41, 0x5a)]),
    ("word", [(0x30, 0x39), (0x41, 0x5a), (0x5f, 0x5f), (0x61, 0x7a)]),
    ("xdigit", [(0x30, 0x39), (0x41, 0x46), (0x61, 0x66)])]

def asciiClass? (name : String) : Option CharSet :=
  (asciiClasses.find? fun c => c.1 = name).map fun c => ranges c.2

end CharSet

end PolicyEngine
