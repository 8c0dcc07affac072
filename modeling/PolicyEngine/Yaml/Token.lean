import PolicyEngine.Yaml.Scalar

/-! The tokens of a YAML text. What stands before a colon is a key, and may open a block, which shows only at
the colon: until then the scanner keeps the place where the key would begin. -/
namespace PolicyEngine.Yaml

/-- The tokens. Blocks open without a mark of their own and close where the text is indented less; tags are
kept by their handles alone. -/
inductive Token where
  | version (major minor : Nat)
  | tagHandle (handle : String)
  | documentStart
  | documentEnd
  | sequenceStart
  | mappingStart
  | blockEnd
  | bracketOpen
  | bracketClose
  | braceOpen
  | braceClose
  | comma
  | entry
  | key
  | value
  | aliasOf (name : String)
  | anchor (name : String)
  | tag (handle : String)
  | scalar (text : String) (plain : Bool)
  deriving Repr, DecidableEq

/-! Words of directives, anchors and tags -/

def isWordChar (c : Char) : Bool := c.isAlphanum || c = '_' || c = '-'

def isUriChar (verbatim : Bool) (c : Char) : Bool :=
  isWordChar c || c ∈ [';', '/', '?', ':', '@', '&', '=', '+', '$', '.', '%', '!', '~', '*', '\'', '(', ')'] ||
    (verbatim && (c = ',' || c = '[' || c = ']'))

/-- How many octets a character has, by its first one. -/
def octetCount? (first : Nat) : Option Nat :=
  if first < 0x80 then some 1
  else if first < 0xc0 then none
  else if first < 0xe0 then some 2
  else if first < 0xf0 then some 3
  else if first < 0xf8 then some 4
  else none

/-- Whether the escapes in a tag spell whole characters, `missing` octets of one still to come. -/
def escapesHold (missing : Nat) : List Char → Bool
  | [] => missing = 0
  | '%' :: a :: b :: rest =>
    match Text.hexNumber? [a, b], missing with
    | none, _ => false
    | some octet, 0 => (octetCount? octet).any fun count => escapesHold (count - 1) rest
    | some octet, missing + 1 => 0x80 ≤ octet && octet < 0xc0 && escapesHold missing rest
  | c :: rest => c ≠ '%' && missing = 0 && escapesHold 0 rest

/-- The place after the URI of a tag. -/
def passUri? (verbatim : Bool) (c : Cursor) : Option Cursor :=
  let uri := c.rest.takeWhile (isUriChar verbatim)
  if escapesHold 0 uri then some (c.advance uri.length) else none

theorem length_passUri? {verbatim : Bool} {c next : Cursor} (h : passUri? verbatim c = some next) :
    next.rest.length ≤ c.rest.length := by
  simp only [passUri?] at h
  split at h
  · cases h
    simp
  · cases h

/-- The place after a URI that is not empty. -/
def passFullUri? (verbatim : Bool) (c : Cursor) : Option Cursor := do
  let next ← passUri? verbatim c
  if c.rest.length = next.rest.length then none else some next

theorem length_passFullUri? {verbatim : Bool} {c next : Cursor} (h : passFullUri? verbatim c = some next) :
    next.rest.length ≤ c.rest.length := by
  simp only [passFullUri?, Option.bind_eq_bind, Option.bind_eq_some_iff] at h
  obtain ⟨behind, hbehind, h⟩ := h
  split at h
  · cases h
  · cases h
    exact length_passUri? hbehind

/-- Reads the word of an anchor or an alias. -/
def readName? (c : Cursor) : Option (String × Cursor) :=
  let name := c.rest.takeWhile isWordChar
  let next := c.advance name.length
  if !name.isEmpty && (endsWord next.rest ||
      next.rest.head?.any (· ∈ ['?', ':', ',', ']', '}', '%', '@', Char.ofNat 0x60])) then
    some (String.ofList name, next)
  else none

theorem length_readName? {c next : Cursor} {name : String} (h : readName? c = some (name, next)) :
    next.rest.length ≤ c.rest.length := by
  simp only [readName?] at h
  split at h
  · cases h
    simp
  · cases h

/-- The handle of a tag after its exclamation mark, and the place behind the tag. A tag without a word and a verbatim
one have the empty handle. -/
def tagHandle? (c : Cursor) : Option (String × Cursor) :=
  let behind := c.passWhile isWordChar
  if c.rest.head? = some '<' then
    (passFullUri? true (c.advance 1)).bind fun next =>
      if next.rest.head? = some '>' then some ("", next.advance 1) else none
  else if behind.rest.head? = some '!' then
    (passFullUri? false (behind.advance 1)).map (String.ofList ('!' :: c.rest.takeWhile isWordChar ++ ['!']), ·)
  else (passUri? false behind).map fun next => (if c.rest.length = next.rest.length then "" else "!", next)

theorem length_tagHandle? {c next : Cursor} {handle : String} (h : tagHandle? c = some (handle, next)) :
    next.rest.length ≤ c.rest.length := by
  have hword := Cursor.length_passWhile isWordChar c
  simp only [tagHandle?] at h
  split at h
  · obtain ⟨uri, huri, h⟩ := Option.bind_eq_some_iff.1 h
    have hle := length_passFullUri? huri
    split at h
    · cases h
      simp only [Cursor.length_advance] at *
      omega
    · cases h
  · split at h
    · obtain ⟨uri, huri, ⟨⟩⟩ := Option.map_eq_some_iff.1 h
      have hle := length_passFullUri? huri
      simp only [Cursor.length_advance] at hle
      omega
    · obtain ⟨uri, huri, ⟨⟩⟩ := Option.map_eq_some_iff.1 h
      exact Nat.le_trans (length_passUri? huri) hword

/-- Reads the handle of a tag after its exclamation mark, and passes over the rest of the tag. -/
def readTag? (inBrackets : Bool) (c : Cursor) : Option (String × Cursor) := do
  let (handle, next) ← tagHandle? c
  if endsWord next.rest || (inBrackets && next.rest.head? = some ',') then some (handle, next) else none

theorem length_readTag? {inBrackets : Bool} {c next : Cursor} {handle : String}
    (h : readTag? inBrackets c = some (handle, next)) : next.rest.length ≤ c.rest.length := by
  obtain ⟨⟨_, behind⟩, htag, h⟩ := Option.bind_eq_some_iff.1 h
  simp only [Option.ite_none_right_eq_some] at h
  cases h.2
  exact length_tagHandle? htag

def maxVersionDigits : Nat := 9

/-- Reads a part of a version. -/
def readNumber? (c : Cursor) : Option (Nat × Cursor) :=
  let digits := c.rest.takeWhile Char.isDigit
  if digits.isEmpty || maxVersionDigits < digits.length then none
  else some (Nat.ofDigitChars 10 digits 0, c.advance digits.length)

theorem length_readNumber? {c next : Cursor} {n : Nat} (h : readNumber? c = some (n, next)) :
    next.rest.length ≤ c.rest.length := by
  simp only [readNumber?, Option.ite_none_left_eq_some] at h
  cases h.2
  simp

def readVersion? (c : Cursor) : Option (Token × Cursor) := do
  let (major, point) ← readNumber? c
  let (minor, next) ← readNumber? (point.advance 1)
  if point.rest.head? = some '.' then some (.version major minor, next) else none

theorem length_readVersion? {c next : Cursor} {token : Token} (h : readVersion? c = some (token, next)) :
    next.rest.length ≤ c.rest.length := by
  simp only [readVersion?, Option.bind_eq_bind, Option.bind_eq_some_iff, Option.ite_none_right_eq_some] at h
  obtain ⟨⟨major, point⟩, hmajor, ⟨minor, behind⟩, hminor, -, ⟨⟩⟩ := h
  have hpoint := length_readNumber? hmajor
  have hle := length_readNumber? hminor
  simp only [Cursor.length_advance] at hle
  exact Nat.le_trans hle (Nat.le_trans (Nat.sub_le _ _) hpoint)

/-- The handle at the start of a text. -/
def declaredHandle? : List Char → Option (List Char)
  | '!' :: rest =>
    let word := rest.takeWhile isWordChar
    if (rest.drop word.length).head? = some '!' then some ('!' :: word ++ ['!'])
    else if word.isEmpty then some ['!'] else none
  | _ => none

/-- Reads the handle that a directive declares, and passes over what it stands for. -/
def readDeclaration? (c : Cursor) : Option (Token × Cursor) := do
  let handle ← declaredHandle? c.rest
  let gap := c.advance handle.length
  let next ← passFullUri? true (gap.passWhile isBlank)
  if gap.rest.head?.any isBlank && endsWord next.rest then some (.tagHandle (String.ofList handle), next) else none

theorem length_readDeclaration? {c next : Cursor} {token : Token} (h : readDeclaration? c = some (token, next)) :
    next.rest.length ≤ c.rest.length := by
  simp only [readDeclaration?, Option.bind_eq_bind, Option.bind_eq_some_iff, Option.ite_none_right_eq_some] at h
  obtain ⟨handle, -, uri, huri, -, ⟨⟩⟩ := h
  have hle := Nat.le_trans (length_passFullUri? huri) (Cursor.length_passWhile _ _)
  simp only [Cursor.length_advance] at hle
  omega

/-- Reads what a directive says after its name. -/
def readArguments? (name : String) (c : Cursor) : Option (Token × Cursor) :=
  if name = "YAML" then readVersion? c else if name = "TAG" then readDeclaration? c else none

theorem length_readArguments? {name : String} {c next : Cursor} {token : Token}
    (h : readArguments? name c = some (token, next)) : next.rest.length ≤ c.rest.length := by
  simp only [readArguments?] at h
  split at h
  · exact length_readVersion? h
  · exact length_readDeclaration? (Option.ite_none_right_eq_some.1 h).2

/-- Reads a directive after its percent sign. -/
def readDirective? (c : Cursor) : Option (Token × Cursor) := do
  let name := c.rest.takeWhile isWordChar
  let behind := c.advance name.length
  let (token, next) ← readArguments? (String.ofList name) (behind.passWhile isBlank)
  let line ← next.nextLine?
  if endsWord behind.rest then some (token, line) else none

theorem length_readDirective? {c next : Cursor} {token : Token} (h : readDirective? c = some (token, next)) :
    next.rest.length ≤ c.rest.length := by
  simp only [readDirective?, Option.bind_eq_bind, Option.bind_eq_some_iff, Option.ite_none_right_eq_some] at h
  obtain ⟨⟨_, behind⟩, hbehind, line, hline, -, ⟨⟩⟩ := h
  have hle := Nat.le_trans (length_readArguments? hbehind) (Cursor.length_passWhile _ _)
  simp only [Cursor.length_advance] at hle
  exact Nat.le_trans (Nat.le_trans (Cursor.length_nextLine? hline) hle) (Nat.sub_le _ _)

/-! The scanner -/

/-- Where a key may begin: its place, how many tokens come before it, and whether it must turn out to be one. -/
structure Candidate where
  place : Place
  number : Nat
  required : Bool

/-- How far a colon may be from the start of the key before it. -/
def maxKeyLength : Nat := 1024

/-- Whether a colon comes too late to make a key. -/
def Candidate.isPast (p : Place) (k : Candidate) : Bool :=
  k.place.line < p.line || k.place.index + maxKeyLength < p.index

/-- What is left of the text and what has been found in it. -/
structure Scanner where
  cursor : Cursor
  keyAllowed : Bool
  /-- The columns of the open blocks, the innermost first. -/
  blocks : List Nat
  candidate : Option Candidate
  /-- The candidates outside of each open bracket, the innermost first. -/
  outer : List (Option Candidate)
  /-- The tokens, the last one first. -/
  tokens : List Token

namespace Scanner

def ofChars (cs : List Char) : Scanner := ⟨⟨cs, .start⟩, true, [], none, [], []⟩

/-- How much of the text is left. -/
def remaining (s : Scanner) : Nat := s.cursor.rest.length

def column (s : Scanner) : Nat := s.cursor.place.column

def inBrackets (s : Scanner) : Bool := !s.outer.isEmpty

/-- How far the further lines of a scalar are indented. -/
def indent (s : Scanner) : Nat := s.blocks.head?.elim 0 (· + 1)

def emit (token : Token) (c : Cursor) (s : Scanner) : Scanner := { s with cursor := c, tokens := token :: s.tokens }

@[simp] theorem cursor_emit (token : Token) (c : Cursor) (s : Scanner) : (s.emit token c).cursor = c := rfl

theorem remaining_after {s t u : Scanner} (h : t.cursor = s.cursor)
    (hu : u.cursor.rest.length ≤ (t.cursor.advance 1).rest.length) : u.remaining ≤ s.remaining - 1 := by
  rwa [Cursor.length_advance, h] at hu

/-- Puts a token behind the first `number` ones. -/
def insert (number : Nat) (token : Token) (s : Scanner) : Scanner :=
  let later := s.tokens.length - number
  { s with tokens := s.tokens.take later ++ token :: s.tokens.drop later }

@[simp] theorem cursor_insert (number : Nat) (token : Token) (s : Scanner) :
    (s.insert number token).cursor = s.cursor := rfl

/-- Closes the innermost blocks as long as their columns call for it. -/
def closeBlocks (past : Nat → Bool) (s : Scanner) : Scanner :=
  if s.inBrackets then s
  else
    let closed := s.blocks.takeWhile past
    { s with
      blocks := s.blocks.drop closed.length
      tokens := closed.map (fun _ => .blockEnd) ++ s.tokens }

@[simp] theorem cursor_closeBlocks (past : Nat → Bool) (s : Scanner) : (s.closeBlocks past).cursor = s.cursor := by
  simp only [closeBlocks]
  split <;> rfl

/-- Opens a block in a column, its token behind the first `number` ones, unless one is open there. -/
def openBlock (start : Token) (column number : Nat) (s : Scanner) : Scanner :=
  if s.inBrackets || s.blocks.head?.any (column ≤ ·) then s
  else { s.insert number start with blocks := column :: s.blocks }

@[simp] theorem cursor_openBlock (start : Token) (column number : Nat) (s : Scanner) :
    (s.openBlock start column number).cursor = s.cursor := by
  simp only [openBlock]
  split <;> rfl

/-- Opens a block here. -/
def openHere (start : Token) (s : Scanner) : Scanner := s.openBlock start s.column s.tokens.length

@[simp] theorem cursor_openHere (start : Token) (s : Scanner) : (s.openHere start).cursor = s.cursor :=
  cursor_openBlock start _ _ s

def dropCandidate? (s : Scanner) : Option Scanner :=
  if s.candidate.any (·.required) then none else some { s with candidate := none }

theorem cursor_dropCandidate? {s t : Scanner} (h : s.dropCandidate? = some t) : t.cursor = s.cursor := by
  simp only [dropCandidate?, Option.ite_none_left_eq_some] at h
  cases h.2
  rfl

/-- Keeps this place where a key may begin. In the column of a block it has to be one. -/
def saveCandidate? (s : Scanner) : Option Scanner :=
  if s.keyAllowed then
    let required := !s.inBrackets && s.blocks.head? = some s.column
    s.dropCandidate?.map fun t => { t with candidate := some ⟨s.cursor.place, s.tokens.length, required⟩ }
  else some s

theorem cursor_saveCandidate? {s t : Scanner} (h : s.saveCandidate? = some t) : t.cursor = s.cursor := by
  simp only [saveCandidate?] at h
  split at h
  · obtain ⟨dropped, hdropped, ⟨⟩⟩ := Option.map_eq_some_iff.1 h
    exact cursor_dropCandidate? (t := dropped) hdropped
  · cases h
    rfl

/-- Drops the candidates for which a colon would come too late. -/
def dropPast? (s : Scanner) : Option Scanner :=
  let isPast := Candidate.isPast s.cursor.place
  if (s.candidate :: s.outer).any fun k => k.any fun k => isPast k && k.required then none
  else some { s with
    candidate := s.candidate.filter (!isPast ·)
    outer := s.outer.map fun k => k.filter (!isPast ·) }

theorem cursor_dropPast? {s t : Scanner} (h : s.dropPast? = some t) : t.cursor = s.cursor := by
  simp only [dropPast?, Option.ite_none_left_eq_some] at h
  cases h.2
  rfl

/-- Passes over blanks, comments and line breaks. Outside of brackets a key may begin in a new line, which no tab
may stand before. -/
def passGap (inBrackets keyAllowed comment : Bool) (p : Place) : List Char → Cursor × Bool
  | [] => (⟨[], p⟩, keyAllowed)
  | c :: rest =>
    if isBreak c then passGap inBrackets (keyAllowed || !inBrackets) false p.down rest
    else if comment || c = ' ' || (c = '\t' && (inBrackets || !keyAllowed)) || (c.toNat = 0xfeff && p.column = 0) then
      passGap inBrackets keyAllowed comment (p.along 1) rest
    else if c = '#' then passGap inBrackets keyAllowed true (p.along 1) rest
    else (⟨c :: rest, p⟩, keyAllowed)

theorem length_passGap (inBrackets keyAllowed comment : Bool) (p : Place) (cs : List Char) :
    (passGap inBrackets keyAllowed comment p cs).1.rest.length ≤ cs.length := by
  fun_induction passGap inBrackets keyAllowed comment p cs with
  | case1 | case5 => exact Nat.le_refl _
  | case2 | case3 | case4 =>
    rename_i ih
    exact Nat.le_succ_of_le ih

/-- The scanner at the next token, or at the end of the text. -/
def atNext? (s : Scanner) : Option Scanner :=
  let (c, keyAllowed) := passGap s.inBrackets s.keyAllowed false s.cursor.place s.cursor.rest
  (dropPast? { s with cursor := c, keyAllowed := keyAllowed }).map fun t => t.closeBlocks (t.column < ·)

theorem remaining_atNext? {s t : Scanner} (h : s.atNext? = some t) : t.remaining ≤ s.remaining := by
  obtain ⟨dropped, hdropped, rfl⟩ := Option.map_eq_some_iff.1 h
  simp only [remaining, cursor_closeBlocks, cursor_dropPast? hdropped]
  exact length_passGap _ _ _ _ _

/-! What is between documents -/

/-- The scanner outside of all blocks. -/
def leaveBlocks? (s : Scanner) : Option Scanner :=
  (s.closeBlocks fun _ => true).dropCandidate?.map fun t => { t with keyAllowed := false }

theorem cursor_leaveBlocks? {s t : Scanner} (h : s.leaveBlocks? = some t) : t.cursor = s.cursor := by
  obtain ⟨dropped, hdropped, rfl⟩ := Option.map_eq_some_iff.1 h
  exact (cursor_dropCandidate? hdropped).trans (cursor_closeBlocks _ s)

def directive? (s : Scanner) : Option Scanner := do
  let s ← s.leaveBlocks?
  let (token, next) ← readDirective? (s.cursor.advance 1)
  some (s.emit token next)

theorem remaining_directive? {s t : Scanner} (h : s.directive? = some t) : t.remaining ≤ s.remaining - 1 := by
  simp only [directive?, Option.bind_eq_bind, Option.bind_eq_some_iff] at h
  obtain ⟨left, hleft, ⟨token, next⟩, hnext, ⟨⟩⟩ := h
  exact remaining_after (cursor_leaveBlocks? hleft) (length_readDirective? hnext)

def marker? (token : Token) (s : Scanner) : Option Scanner :=
  s.leaveBlocks?.map fun t => t.emit token (t.cursor.advance 3)

theorem remaining_marker? {token : Token} {s t : Scanner} (h : s.marker? token = some t) :
    t.remaining ≤ s.remaining - 1 := by
  obtain ⟨left, hleft, rfl⟩ := Option.map_eq_some_iff.1 h
  exact remaining_after (cursor_leaveBlocks? hleft) (by simp only [cursor_emit, Cursor.length_advance]; omega)

/-! Marks -/

def openBracket? (token : Token) (s : Scanner) : Option Scanner :=
  s.saveCandidate?.map fun t =>
    { t.emit token (t.cursor.advance 1) with keyAllowed := true, candidate := none, outer := t.candidate :: t.outer }

theorem remaining_openBracket? {token : Token} {s t : Scanner} (h : s.openBracket? token = some t) :
    t.remaining ≤ s.remaining - 1 := by
  obtain ⟨saved, hsaved, rfl⟩ := Option.map_eq_some_iff.1 h
  exact remaining_after (cursor_saveCandidate? hsaved) (Nat.le_refl _)

def closeBracket? (token : Token) (s : Scanner) : Option Scanner := do
  let s ← s.dropCandidate?
  match s.outer with
  | [] => none
  | candidate :: outer =>
    some { s.emit token (s.cursor.advance 1) with keyAllowed := false, candidate := candidate, outer := outer }

theorem remaining_closeBracket? {token : Token} {s t : Scanner} (h : s.closeBracket? token = some t) :
    t.remaining ≤ s.remaining - 1 := by
  obtain ⟨dropped, hdropped, h⟩ := Option.bind_eq_some_iff.1 h
  split at h
  · cases h
  · cases h
    exact remaining_after (cursor_dropCandidate? hdropped) (Nat.le_refl _)

def comma? (s : Scanner) : Option Scanner :=
  s.dropCandidate?.map fun t => { t.emit .comma (t.cursor.advance 1) with keyAllowed := true }

theorem remaining_comma? {s t : Scanner} (h : s.comma? = some t) : t.remaining ≤ s.remaining - 1 := by
  obtain ⟨dropped, hdropped, rfl⟩ := Option.map_eq_some_iff.1 h
  exact remaining_after (cursor_dropCandidate? hdropped) (Nat.le_refl _)

/-- The hyphen before an item of a block. -/
def hyphen? (s : Scanner) : Option Scanner :=
  if s.inBrackets || !s.keyAllowed then none
  else (s.openHere .sequenceStart).dropCandidate?.map fun t => t.emit .entry (t.cursor.advance 1)

theorem remaining_hyphen? {s t : Scanner} (h : s.hyphen? = some t) : t.remaining ≤ s.remaining - 1 := by
  obtain ⟨dropped, hdropped, rfl⟩ := Option.map_eq_some_iff.1 (Option.ite_none_left_eq_some.1 h).2
  exact remaining_after ((cursor_dropCandidate? hdropped).trans (cursor_openHere _ s)) (Nat.le_refl _)

/-- The question mark before a key. -/
def questionMark? (s : Scanner) : Option Scanner :=
  if !s.inBrackets && !s.keyAllowed then none
  else (s.openHere .mappingStart).dropCandidate?.map fun t =>
    { t.emit .key (t.cursor.advance 1) with keyAllowed := !t.inBrackets }

theorem remaining_questionMark? {s t : Scanner} (h : s.questionMark? = some t) : t.remaining ≤ s.remaining - 1 := by
  obtain ⟨dropped, hdropped, rfl⟩ := Option.map_eq_some_iff.1 (Option.ite_none_left_eq_some.1 h).2
  exact remaining_after ((cursor_dropCandidate? hdropped).trans (cursor_openHere _ s)) (Nat.le_refl _)

/-- The colon after a key. Here the key shows, and with its first one a block. -/
def colon? (s : Scanner) : Option Scanner :=
  match s.candidate with
  | some k =>
    let opened := (s.insert k.number .key).openBlock .mappingStart k.place.column k.number
    some { opened.emit .value (s.cursor.advance 1) with keyAllowed := false, candidate := none }
  | none =>
    if !s.inBrackets && !s.keyAllowed then none
    else some { (s.openHere .mappingStart).emit .value (s.cursor.advance 1) with keyAllowed := !s.inBrackets }

theorem remaining_colon? {s t : Scanner} (h : s.colon? = some t) : t.remaining ≤ s.remaining - 1 := by
  simp only [colon?] at h
  split at h
  · cases h
    simp [remaining]
  · cases (Option.ite_none_left_eq_some.1 h).2
    simp [remaining]

/-! Nodes -/

def name? (token : String → Token) (s : Scanner) : Option Scanner := do
  let s ← s.saveCandidate?
  let (name, next) ← readName? (s.cursor.advance 1)
  some { s.emit (token name) next with keyAllowed := false }

theorem remaining_name? {token : String → Token} {s t : Scanner} (h : s.name? token = some t) :
    t.remaining ≤ s.remaining - 1 := by
  simp only [name?, Option.bind_eq_bind, Option.bind_eq_some_iff] at h
  obtain ⟨saved, hsaved, ⟨name, next⟩, hnext, ⟨⟩⟩ := h
  exact remaining_after (cursor_saveCandidate? hsaved) (length_readName? hnext)

def tag? (s : Scanner) : Option Scanner := do
  let s ← s.saveCandidate?
  let (handle, next) ← readTag? s.inBrackets (s.cursor.advance 1)
  some { s.emit (.tag handle) next with keyAllowed := false }

theorem remaining_tag? {s t : Scanner} (h : s.tag? = some t) : t.remaining ≤ s.remaining - 1 := by
  simp only [tag?, Option.bind_eq_bind, Option.bind_eq_some_iff] at h
  obtain ⟨saved, hsaved, ⟨handle, next⟩, hnext, ⟨⟩⟩ := h
  exact remaining_after (cursor_saveCandidate? hsaved) (length_readTag? hnext)

def block? (folded : Bool) (s : Scanner) : Option Scanner := do
  let s ← s.dropCandidate?
  let block ← readBlock folded s.indent (s.cursor.advance 1)
  some { s.emit (.scalar (String.ofList block.chars) false) block.next with keyAllowed := true }

theorem remaining_block? {folded : Bool} {s t : Scanner} (h : s.block? folded = some t) :
    t.remaining ≤ s.remaining - 1 := by
  simp only [block?, Option.bind_eq_bind, Option.bind_eq_some_iff] at h
  obtain ⟨dropped, hdropped, block, hblock, ⟨⟩⟩ := h
  exact remaining_after (cursor_dropCandidate? hdropped) (length_readBlock hblock)

def quoted? (double : Bool) (s : Scanner) : Option Scanner := do
  let s ← s.saveCandidate?
  let start := s.cursor.advance 1
  let quoted ← readQuoted double start.place .none start.rest
  some { s.emit (.scalar (String.ofList quoted.chars) false) quoted.next with keyAllowed := false }

theorem remaining_quoted? {double : Bool} {s t : Scanner} (h : s.quoted? double = some t) :
    t.remaining ≤ s.remaining - 1 := by
  simp only [quoted?, Option.bind_eq_bind, Option.bind_eq_some_iff] at h
  obtain ⟨saved, hsaved, quoted, hquoted, ⟨⟩⟩ := h
  exact remaining_after (cursor_saveCandidate? hsaved) (length_readQuoted hquoted)

def plain? (s : Scanner) : Option Scanner := do
  let saved ← s.saveCandidate?
  let plain ← readPlain s.inBrackets s.indent s.cursor.place .none s.cursor.rest
  if opensPlain s.inBrackets s.cursor.rest then
    some { saved.emit (.scalar (String.ofList plain.chars) true) plain.next with keyAllowed := plain.newLine }
  else none

theorem remaining_plain? {s t : Scanner} (h : s.plain? = some t) : t.remaining ≤ s.remaining - 1 := by
  simp only [plain?, Option.bind_eq_bind, Option.bind_eq_some_iff, Option.ite_none_right_eq_some] at h
  obtain ⟨saved, -, plain, hplain, hopens, ⟨⟩⟩ := h
  simp only [remaining, cursor_emit]
  cases hrest : s.cursor.rest with
  | nil => simp [hrest, opensPlain] at hopens
  | cons c rest =>
    rw [hrest] at hopens hplain
    exact length_readPlain_of_opens hopens hplain

/-- Reads the token that starts with a character, `rest` behind it. -/
def token? (c : Char) (rest : List Char) (s : Scanner) : Option Scanner :=
  let marksKey := s.inBrackets || endsWord rest
  if c = '%' && s.column = 0 then s.directive?
  else if s.cursor.opensDocument then s.marker? .documentStart
  else if s.cursor.closesDocument then s.marker? .documentEnd
  else if c = '[' then s.openBracket? .bracketOpen
  else if c = '{' then s.openBracket? .braceOpen
  else if c = ']' then s.closeBracket? .bracketClose
  else if c = '}' then s.closeBracket? .braceClose
  else if c = ',' then s.comma?
  else if c = '-' && endsWord rest then s.hyphen?
  else if c = '?' && marksKey then s.questionMark?
  else if c = ':' && marksKey then s.colon?
  else if c = '*' then s.name? .aliasOf
  else if c = '&' then s.name? .anchor
  else if c = '!' then s.tag?
  else if (c = '|' || c = '>') && !s.inBrackets then s.block? (c = '>')
  else if c = '\'' || c = '"' then s.quoted? (c = '"')
  else s.plain?

/-- A token takes at least a character. -/
theorem remaining_token? {c : Char} {rest : List Char} {s t : Scanner} :
    s.token? c rest = some t → t.remaining ≤ s.remaining - 1 := by
  fun_cases token? c rest s with
  | case1 => exact remaining_directive?
  | case2 | case3 => exact remaining_marker?
  | case4 | case5 => exact remaining_openBracket?
  | case6 | case7 => exact remaining_closeBracket?
  | case8 => exact remaining_comma?
  | case9 => exact remaining_hyphen?
  | case10 => exact remaining_questionMark?
  | case11 => exact remaining_colon?
  | case12 | case13 => exact remaining_name?
  | case14 => exact remaining_tag?
  | case15 => exact remaining_block?
  | case16 => exact remaining_quoted?
  | case17 => exact remaining_plain?

/-- The tokens up to the end of the text. -/
def scan? (s : Scanner) : Option (List Token) :=
  match hnext : s.atNext? with
  | none => none
  | some next =>
    match hrest : next.cursor.rest with
    | [] => next.leaveBlocks?.map (·.tokens.reverse)
    | c :: rest =>
      match htoken : next.token? c rest with
      | none => none
      | some after =>
        have : after.remaining < s.remaining := by
          have hafter := remaining_token? htoken
          have hle := remaining_atNext? hnext
          simp only [remaining, hrest, List.length_cons] at *
          omega
        scan? after
termination_by s.remaining

end Scanner

/-- The tokens of a text. -/
def tokens? (text : String) : Option (List Token) :=
  let chars := match text.toList with
    | c :: rest => if c.toNat = 0xfeff then rest else c :: rest
    | [] => []
  if chars.all isPrintable then (Scanner.ofChars (unifyBreaks chars)).scan? else none

end PolicyEngine.Yaml
