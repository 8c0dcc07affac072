/-! Places in a YAML text. -/
namespace PolicyEngine.Yaml

def isBreak (c : Char) : Bool := c = '\n' || c.toNat = 0x2028 || c.toNat = 0x2029

def isBlank (c : Char) : Bool := c = ' ' || c = '\t'

/-- Whether a word ends here: before a blank, a line break or the end of the text. -/
def endsWord : List Char → Bool
  | [] => true
  | c :: _ => isBlank c || isBreak c

/-- Characters that may stand in a text at all. -/
def isPrintable (c : Char) : Bool :=
  let n := c.toNat
  n = 0x9 || n = 0xa || n = 0xd || (0x20 ≤ n && n ≤ 0x7e) || n = 0x85 || (0xa0 ≤ n && n ≤ 0xfffd) ||
    0x10000 ≤ n

/-- The text with a line feed for each of the line breaks that count as one. -/
def unifyBreaks : List Char → List Char
  | [] => []
  | '\r' :: '\n' :: rest => '\n' :: unifyBreaks rest
  | c :: rest => (if c = '\r' || c.toNat = 0x85 then '\n' else c) :: unifyBreaks rest

/-- Where a character stands: in which line and column, and how many characters come before it. -/
structure Place where
  line : Nat
  column : Nat
  index : Nat

namespace Place

def start : Place := ⟨0, 0, 0⟩

/-- The place after some characters of the line. -/
def along (p : Place) (count : Nat) : Place := ⟨p.line, p.column + count, p.index + count⟩

/-- The place after a line break. -/
def down (p : Place) : Place := ⟨p.line + 1, 0, p.index + 1⟩

end Place

/-- The text ahead, and where it starts. -/
structure Cursor where
  rest : List Char
  place : Place

namespace Cursor

/-- The place after some characters of the line. -/
def advance (c : Cursor) (count : Nat) : Cursor := ⟨c.rest.drop count, c.place.along count⟩

@[simp] theorem length_advance (c : Cursor) (count : Nat) : (c.advance count).rest.length = c.rest.length - count :=
  List.length_drop

/-- The place after the characters of the line that have a property. -/
def passWhile (p : Char → Bool) (c : Cursor) : Cursor := c.advance (c.rest.takeWhile p).length

theorem length_passWhile (p : Char → Bool) (c : Cursor) : (c.passWhile p).rest.length ≤ c.rest.length := by
  simp [passWhile]

def isTriple (mark : Char) (cs : List Char) : Bool :=
  [mark, mark, mark].isPrefixOf cs && endsWord (cs.drop 3)

/-- Whether a document opens here, with three hyphens at the start of a line. -/
def opensDocument (c : Cursor) : Bool := c.place.column = 0 && isTriple '-' c.rest

/-- Whether a document closes here, with three points at the start of a line. -/
def closesDocument (c : Cursor) : Bool := c.place.column = 0 && isTriple '.' c.rest

def atMarker (c : Cursor) : Bool := c.opensDocument || c.closesDocument

/-- The end of the line, if a comment starts here. -/
def passComment (c : Cursor) : Cursor :=
  if c.rest.head? = some '#' then c.passWhile fun d => !isBreak d else c

theorem length_passComment (c : Cursor) : c.passComment.rest.length ≤ c.rest.length := by
  simp only [passComment]
  split
  · exact length_passWhile _ c
  · exact Nat.le_refl _

/-- The start of the next line, where blanks and a comment are all that is left of this one. -/
def nextLine? (c : Cursor) : Option Cursor :=
  let last := (c.passWhile isBlank).passComment
  match last.rest with
  | [] => some last
  | d :: rest => if isBreak d then some ⟨rest, last.place.down⟩ else none

theorem length_nextLine? {c next : Cursor} (h : c.nextLine? = some next) : next.rest.length ≤ c.rest.length := by
  have hle := Nat.le_trans (length_passComment (c.passWhile isBlank)) (length_passWhile isBlank c)
  simp only [nextLine?] at h
  split at h
  · cases h
    exact hle
  · next d rest hrest =>
    split at h
    · cases h
      simp only [hrest, List.length_cons] at hle
      exact Nat.le_of_succ_le hle
    · cases h

end Cursor

end PolicyEngine.Yaml
