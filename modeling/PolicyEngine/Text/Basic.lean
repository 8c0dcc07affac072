/-! Texts as lists of characters: sets of characters by ranges, blanks, hexadecimal digits, and pieces between the
occurrences of a character. -/
namespace PolicyEngine.Text

/-! Sets of characters -/

/-- Ascending ranges of code points, both ends included. -/
abbrev Ranges := List (Nat × Nat)

namespace Ranges

/-- Membership of a code point. The scan stops at the first range that starts above it. -/
def has : Ranges → Nat → Bool
  | [], _ => false
  | (low, high) :: rest, n => if n < low then false else if n ≤ high then true else has rest n

def mem (ranges : Ranges) (c : Char) : Bool := ranges.has c.toNat

@[simp] theorem has_nil (n : Nat) : has [] n = false := rfl

end Ranges

/-! Blanks -/

/-- The blank characters (Unicode's White_Space). -/
def blankRanges : Ranges :=
  [(0x9, 0xd), (0x20, 0x20), (0x85, 0x85), (0xa0, 0xa0), (0x1680, 0x1680), (0x2000, 0x200a),
    (0x2028, 0x2029), (0x202f, 0x202f), (0x205f, 0x205f), (0x3000, 0x3000)]

def isBlank (c : Char) : Bool := blankRanges.mem c

def trimChars (cs : List Char) : List Char :=
  ((cs.dropWhile isBlank).reverse.dropWhile isBlank).reverse

/-- The text without blank characters at its ends. -/
def trim (text : String) : String := String.ofList (trimChars text.toList)

theorem isBlank_of_isWhitespace {c : Char} (h : c.isWhitespace) : isBlank c := by
  simp only [Char.isWhitespace, Bool.or_eq_true, decide_eq_true_eq] at h
  rcases h with ((rfl | rfl) | rfl) | rfl <;> decide

@[simp] theorem trimChars_nil : trimChars [] = [] := rfl

example : trim " \u00a0a b\u3000\n" = "a b" := by decide

/-! Hexadecimal digits -/

def hexValue? (c : Char) : Option Nat :=
  if c.isDigit then some (c.toNat - '0'.toNat)
  else if 'a' ≤ c ∧ c ≤ 'f' then some (c.toNat - 'a'.toNat + 10)
  else if 'A' ≤ c ∧ c ≤ 'F' then some (c.toNat - 'A'.toNat + 10)
  else none

/-- The number that hexadecimal digits write. -/
def hexNumber? (cs : List Char) : Option Nat :=
  cs.foldlM (fun n c => (hexValue? c).map fun d => n * 16 + d) 0

def hexDigit (n : Nat) : Char := (Nat.toDigits 16 n).headD '0'

/-! Pieces -/

/-- The pieces between the occurrences of a character; there is always a first one. -/
def split (mark : Char) : List Char → List Char × List (List Char)
  | [] => ([], [])
  | c :: cs =>
    let (first, others) := split mark cs
    if c = mark then ([], first :: others) else (c :: first, others)

def join (mark : Char) (first : List Char) (others : List (List Char)) : List Char :=
  first ++ others.flatMap (mark :: ·)

@[simp] theorem join_cons (mark : Char) (first next : List Char) (others : List (List Char)) :
    join mark first (next :: others) = first ++ mark :: join mark next others := by simp [join]

theorem join_split (mark : Char) (cs : List Char) :
    join mark (split mark cs).1 (split mark cs).2 = cs := by
  induction cs with
  | nil => rfl
  | cons c cs ih =>
    simp only [split]
    split
    · next h => subst h; simp only [join_cons, List.nil_append, ih]
    · simpa only [join, List.cons_append, List.cons.injEq, true_and] using ih

theorem notMem_split (mark : Char) (cs : List Char) :
    mark ∉ (split mark cs).1 ∧ ∀ piece ∈ (split mark cs).2, mark ∉ piece := by
  induction cs with
  | nil => simp [split]
  | cons c cs ih =>
    simp only [split]
    split
    · simpa using ih
    · next h => simpa [Ne.symm h] using ih

end PolicyEngine.Text
