import PolicyEngine.Yaml.Cursor
import PolicyEngine.Text.Basic

/-! YAML scalars: plain, in single quotes, in double quotes, and the blocks of lines that are taken as they
stand or folded. Where lines are folded, a single line break reads as a space, several as one less. -/
namespace PolicyEngine.Yaml

/-- What stands between two words of a scalar: blanks, or line breaks. The first break may be
escaped. -/
inductive Gap where
  | blanks (text : List Char)
  | lines (first : Option Char) (more : List Char)
  deriving Repr, DecidableEq

namespace Gap

def none : Gap := .blanks []

def isNone (g : Gap) : Bool := g = none

/-- Whether the gap reaches into another line. -/
def isBroken : Gap → Bool
  | blanks _ => false
  | lines .. => true

/-- The blanks of a line count only up to its break. -/
def addBlank (c : Char) : Gap → Gap
  | blanks text => blanks (text ++ [c])
  | broken => broken

def addBreak (c : Char) : Gap → Gap
  | blanks _ => lines (some c) []
  | lines first more => lines first (more ++ [c])

/-- The characters that a gap leaves in the scalar, its lines folded. -/
def chars : Gap → List Char
  | blanks text => text
  | lines .none more => more
  | lines (some c) more =>
    if c = '\n' then if more.isEmpty then [' '] else more
    else c :: more

/-- The characters of a gap as they stand. -/
def unfolded : Gap → List Char
  | blanks text => text
  | lines first more => first.toList ++ more

/-- The end of the line before the gap. -/
def firstBreak : Gap → List Char
  | blanks _ => []
  | lines first _ => first.toList

example : ((Gap.blanks [' ']).addBreak '\n').chars = [' '] := by decide
example : (((Gap.blanks []).addBreak '\n').addBreak '\n').chars = ['\n'] := by decide

end Gap

/-- A scalar with the place behind it, and whether a line has begun on the way there. -/
structure Reading where
  chars : List Char
  next : Cursor
  newLine : Bool

def Reading.after (chars : List Char) (r : Reading) : Reading := { r with chars := chars ++ r.chars }

/-! Plain scalars -/

def isFlowMark (c : Char) : Bool := c = ',' || c = '[' || c = ']' || c = '{' || c = '}'

/-- Characters that open something other than a plain scalar. -/
def isIndicator (c : Char) : Bool :=
  isFlowMark c ||
    c ∈ ['-', '?', ':', '#', '&', '*', '!', '|', '>', '\'', '"', '%', '@', Char.ofNat 0x60]

def opensPlain (inBrackets : Bool) : List Char → Bool
  | [] => false
  | c :: rest =>
    if c = '-' then !endsWord rest
    else if c = '?' || c = ':' then !inBrackets && !endsWord rest
    else !isIndicator c && !isBlank c && !isBreak c

/-- Whether a plain scalar ends before this word, given the gap ahead of it. -/
def endsPlain (inBrackets : Bool) (indent : Nat) (gap : Gap) (c : Cursor) : Bool :=
  (gap.isBroken && ((!inBrackets && c.place.column < indent) || c.atMarker)) ||
    (!gap.isNone && c.rest.head? = some '#')

/-- Reads a plain scalar: up to a comment, to a colon before a blank, or in brackets to their next
mark. Outside of brackets a line with less than `indent` blanks ends it. -/
def readPlain (inBrackets : Bool) (indent : Nat) (p : Place) (gap : Gap) : List Char → Option Reading
  | [] => some ⟨[], ⟨[], p⟩, gap.isBroken⟩
  | c :: rest =>
    if isBreak c then readPlain inBrackets indent p.down (gap.addBreak c) rest
    else if isBlank c then
      if c = '\t' && gap.isBroken && p.column < indent then none
      else readPlain inBrackets indent (p.along 1) (gap.addBlank c) rest
    else
      let stop : Reading := ⟨[], ⟨c :: rest, p⟩, gap.isBroken⟩
      if endsPlain inBrackets indent gap stop.next then some stop
      else if inBrackets && c = ':' && rest.head?.any (fun d => isFlowMark d || d = '?') then none
      else if (c = ':' && endsWord rest) || (inBrackets && isFlowMark c) then some stop
      else (readPlain inBrackets indent (p.along 1) .none rest).map (.after (gap.chars ++ [c]))

theorem length_readPlain {inBrackets : Bool} {indent : Nat} {p : Place} {gap : Gap} {cs : List Char} {r : Reading}
    (h : readPlain inBrackets indent p gap cs = some r) : r.next.rest.length ≤ cs.length := by
  fun_induction readPlain inBrackets indent p gap cs generalizing r with
  | case1 | case5 | case7 =>
    cases h
    exact Nat.le_refl _
  | case2 _ _ _ _ _ ih | case4 _ _ _ _ _ _ _ ih => exact Nat.le_succ_of_le (ih h)
  | case3 | case6 => cases h
  | case8 =>
    rename_i ih
    obtain ⟨more, hmore, rfl⟩ := Option.map_eq_some_iff.1 h
    exact Nat.le_succ_of_le (ih (r := more) hmore)

theorem not_endsPlain_none (inBrackets : Bool) (indent : Nat) (c : Cursor) :
    ¬ endsPlain inBrackets indent .none c := by simp [endsPlain, Gap.isBroken, Gap.isNone, Gap.none]

theorem not_stops_of_opensPlain {inBrackets : Bool} {c : Char} {rest : List Char}
    (h : opensPlain inBrackets (c :: rest)) : ¬ ((c = ':' && endsWord rest) || (inBrackets && isFlowMark c)) := by
  simp only [opensPlain] at h
  by_cases hhyphen : c = '-'
  · simp [hhyphen, isFlowMark]
  · by_cases hmark : c = '?' || c = ':'
    · simp_all
    · simp_all [isIndicator]

/-- A character that opens a plain scalar belongs to it. -/
theorem length_readPlain_of_opens {inBrackets : Bool} {indent : Nat} {p : Place} {c : Char} {rest : List Char}
    {r : Reading} (hopens : opensPlain inBrackets (c :: rest))
    (h : readPlain inBrackets indent p .none (c :: rest) = some r) : r.next.rest.length ≤ rest.length := by
  simp only [readPlain, not_endsPlain_none, not_stops_of_opensPlain hopens, Bool.false_eq_true, if_false] at h
  split at h
  · exact length_readPlain h
  · split at h
    · split at h
      · cases h
      · exact length_readPlain h
    · split at h
      · cases h
      · obtain ⟨more, hmore, rfl⟩ := Option.map_eq_some_iff.1 h
        exact length_readPlain (r := more) hmore

/-! Quoted scalars -/

/-- The code of a one character escape. -/
def escapeCode? (c : Char) : Option Nat :=
  if c = '0' then some 0
  else if c = 'a' then some 0x7
  else if c = 'b' then some 0x8
  else if c = 't' ∨ c = '\t' then some 0x9
  else if c = 'n' then some 0xa
  else if c = 'v' then some 0xb
  else if c = 'f' then some 0xc
  else if c = 'r' then some 0xd
  else if c = 'e' then some 0x1b
  else if c = ' ' ∨ c = '"' ∨ c = '/' ∨ c = '\\' then some c.toNat
  else if c = 'N' then some 0x85
  else if c = '_' then some 0xa0
  else if c = 'L' then some 0x2028
  else if c = 'P' then some 0x2029
  else none

def charOfHex? (digits : List Char) : Option Char := do
  let n ← Text.hexNumber? digits
  if n.isValidChar then some (Char.ofNat n) else none

/-- The character of an escape after its backslash, and how many characters write it. -/
def escape? : List Char → Option (Char × Nat)
  | 'x' :: a :: b :: _ => (charOfHex? [a, b]).map (·, 3)
  | 'u' :: a :: b :: c :: d :: _ => (charOfHex? [a, b, c, d]).map (·, 5)
  | 'U' :: a :: b :: c :: d :: e :: f :: g :: h :: _ => (charOfHex? [a, b, c, d, e, f, g, h]).map (·, 9)
  | c :: _ => (escapeCode? c).map (Char.ofNat ·, 1)
  | [] => none

/-- Reads a quoted scalar after its opening quote. No line of it may be the marker of a document. -/
def readQuoted (double : Bool) (p : Place) (gap : Gap) (cs : List Char) : Option Reading :=
  match cs with
  | [] => none
  | c :: rest =>
    if isBreak c then readQuoted double p.down (gap.addBreak c) rest
    else if isBlank c then readQuoted double (p.along 1) (gap.addBlank c) rest
    else if (Cursor.mk (c :: rest) p).atMarker then none
    else if c = (if double then '"' else '\'') then
      if !double && rest.head? = some '\'' then
        (readQuoted double (p.along 2) .none rest.tail).map (.after (gap.chars ++ ['\'']))
      else some ⟨gap.chars, ⟨rest, p.along 1⟩, false⟩
    else if double && c = '\\' then
      if rest.head?.any isBreak then (readQuoted double p.down (.lines .none []) rest.tail).map (.after gap.chars)
      else
        match escape? rest with
        | none => none
        | some (e, count) =>
          (readQuoted double (p.along (count + 1)) .none (rest.drop count)).map (.after (gap.chars ++ [e]))
    else (readQuoted double (p.along 1) .none rest).map (.after (gap.chars ++ [c]))
termination_by cs.length
decreasing_by all_goals simp only [List.length_cons, List.length_tail, List.length_drop]; omega

theorem length_readQuoted {double : Bool} {p : Place} {gap : Gap} {cs : List Char} {r : Reading}
    (h : readQuoted double p gap cs = some r) : r.next.rest.length ≤ cs.length := by
  fun_induction readQuoted double p gap cs generalizing r with
  | case1 | case4 | case8 => cases h
  | case2 _ _ _ _ _ ih | case3 _ _ _ _ _ _ ih => exact Nat.le_succ_of_le (ih h)
  | case6 =>
    cases h
    exact Nat.le_succ _
  | case5 | case7 | case9 | case10 =>
    rename_i ih
    obtain ⟨more, hmore, rfl⟩ := Option.map_eq_some_iff.1 h
    have hle := ih hmore
    refine Nat.le_succ_of_le (Nat.le_trans hle ?_)
    simp

/-! Blocks of lines -/

/-- What becomes of the line breaks at the end of a block. -/
inductive Chomping where
  | strip
  | clip
  | keep
  deriving Repr, DecidableEq

/-- How a block is read: its lines folded or not, and how it ends. -/
structure BlockStyle where
  folded : Bool
  chomping : Chomping

namespace BlockStyle

/-- The characters between two lines. Lines that start with a blank are not folded. -/
def join (style : BlockStyle) (blank : Bool) (gap : Gap) : List Char :=
  if style.folded && !blank then gap.chars else gap.unfolded

/-- The characters after the last line. -/
def tail (style : BlockStyle) (gap : Gap) : List Char :=
  match style.chomping with
  | .strip => []
  | .clip => gap.firstBreak
  | .keep => gap.unfolded

end BlockStyle

mutual

/-- Reads on in a line of a block that is indented by `indent`; `blank` tells whether the line starts with a blank. -/
def readLine (style : BlockStyle) (indent : Nat) (blank : Bool) (p : Place) : List Char → Option Reading
  | [] => some ⟨[], ⟨[], p⟩, true⟩
  | c :: rest =>
    if isBreak c then readIndent style indent blank (.lines (some c) []) p.down rest
    else (readLine style indent blank (p.along 1) rest).map (.after [c])

/-- Reads on between two lines of a block, or before the first one. -/
def readIndent (style : BlockStyle) (indent : Nat) (blank : Bool) (gap : Gap) (p : Place) :
    List Char → Option Reading
  | [] => some ⟨style.tail gap, ⟨[], p⟩, true⟩
  | c :: rest =>
    if isBreak c then readIndent style indent blank (gap.addBreak c) p.down rest
    else if p.column < indent then
      if c = ' ' then readIndent style indent blank gap (p.along 1) rest
      else if c = '\t' then none
      else some ⟨style.tail gap, ⟨c :: rest, p⟩, true⟩
    else
      (readLine style indent (isBlank c) (p.along 1) rest).map
        (.after (style.join (blank || isBlank c) gap ++ [c]))

end

mutual

theorem length_readLine {style : BlockStyle} {indent : Nat} {blank : Bool} {p : Place} {cs : List Char} {r : Reading}
    (h : readLine style indent blank p cs = some r) : r.next.rest.length ≤ cs.length := by
  match cs with
  | [] =>
    cases h
    exact Nat.le_refl _
  | c :: rest =>
    simp only [readLine] at h
    split at h
    · exact Nat.le_succ_of_le (length_readIndent h)
    · obtain ⟨more, hmore, rfl⟩ := Option.map_eq_some_iff.1 h
      exact Nat.le_succ_of_le (length_readLine (r := more) hmore)

theorem length_readIndent {style : BlockStyle} {indent : Nat} {blank : Bool} {gap : Gap} {p : Place} {cs : List Char}
    {r : Reading} (h : readIndent style indent blank gap p cs = some r) : r.next.rest.length ≤ cs.length := by
  match cs with
  | [] =>
    cases h
    exact Nat.le_refl _
  | c :: rest =>
    simp only [readIndent] at h
    split at h
    · exact Nat.le_succ_of_le (length_readIndent h)
    · split at h
      · split at h
        · exact Nat.le_succ_of_le (length_readIndent h)
        · split at h
          · cases h
          · cases h
            exact Nat.le_refl _
      · obtain ⟨more, hmore, rfl⟩ := Option.map_eq_some_iff.1 h
        exact Nat.le_succ_of_le (length_readLine (r := more) hmore)

end

/-- How far the text ahead is indented: as far as its first line that is not empty, or as one before it. -/
def widestIndent? (widest column : Nat) : List Char → Option Nat
  | [] => some (max widest column)
  | c :: rest =>
    if c = ' ' then widestIndent? widest (column + 1) rest
    else if c = '\t' then none
    else if isBreak c then widestIndent? (max widest column) 0 rest
    else some (max widest column)

def chompingOf? (c : Char) : Option Chomping :=
  if c = '+' then some .keep else if c = '-' then some .strip else none

def digitOf? (c : Char) : Option Nat := if c.isDigit then some (c.toNat - '0'.toNat) else none

/-- What a block says of itself after its mark: how it ends, how far it is indented, and in how many characters it says
so, in any order. -/
def blockHeader? : List Char → Option (Chomping × Option Nat × Nat)
  | [] => some (.clip, none, 0)
  | c :: rest =>
    match chompingOf? c, digitOf? c with
    | some chomping, _ =>
      match rest.head?.bind digitOf? with
      | none => some (chomping, none, 1)
      | some 0 => none
      | some n => some (chomping, some n, 2)
    | none, none => some (.clip, none, 0)
    | none, some 0 => none
    | none, some n =>
      match rest.head?.bind chompingOf? with
      | none => some (.clip, some n, 1)
      | some chomping => some (chomping, some n, 2)

/-- How far the lines of a block are indented: by so much as it says, or as its first line is, but at least by
`indent`. -/
def blockIndent? (indent : Nat) (increment : Option Nat) (lines : List Char) : Option Nat :=
  match increment with
  | some n => some (indent - 1 + n)
  | none => (widestIndent? 0 0 lines).map (max (max indent 1))

/-- Reads a block after its mark, in a block whose further lines have at least `indent` blanks. -/
def readBlock (folded : Bool) (indent : Nat) (c : Cursor) : Option Reading := do
  let (chomping, increment, size) ← blockHeader? c.rest
  let lines ← (c.advance size).nextLine?
  let own ← blockIndent? indent increment lines.rest
  readIndent ⟨folded, chomping⟩ own false (.lines none []) lines.place lines.rest

theorem length_readBlock {folded : Bool} {indent : Nat} {c : Cursor} {r : Reading}
    (h : readBlock folded indent c = some r) : r.next.rest.length ≤ c.rest.length := by
  simp only [readBlock, Option.bind_eq_bind, Option.bind_eq_some_iff] at h
  obtain ⟨⟨chomping, increment, size⟩, -, lines, hlines, own, -, h⟩ := h
  have hle := Nat.le_trans (length_readIndent h) (Cursor.length_nextLine? hlines)
  simp only [Cursor.length_advance] at hle
  exact Nat.le_trans hle (Nat.sub_le _ _)

end PolicyEngine.Yaml
