import PolicyEngine.Pattern.Basic
import PolicyEngine.Pattern.Property
import PolicyEngine.Number.Decimal
import PolicyEngine.Text.Basic

/-! Patterns as text. Groups only bracket; flags in a group hold to its end. Look-around and
back-references are refused, as are patterns too deep or too large to be compiled. -/
namespace PolicyEngine

/-- Why a text is no pattern. -/
inductive PatternFault where
  | malformed
  | tooLarge
  deriving Repr, DecidableEq

namespace PatternFault

def message : PatternFault → String
  | malformed => "regex parse error"
  | tooLarge => "Compiled regex exceeds size limit of 10485760 bytes."

end PatternFault

namespace Pattern

structure Flags where
  ignoreCase : Bool
  multiLine : Bool
  dotAll : Bool
  extended : Bool
  unicode : Bool
  crlf : Bool
  deriving Repr, DecidableEq

def Flags.initial : Flags := ⟨false, false, false, false, true, false⟩

/-- The set with the other cases of its members, where case is ignored. -/
def Flags.fold (f : Flags) (s : CharSet) : CharSet := .foldedIf f.ignoreCase f.unicode s

/-- A pattern with what limits it: how deep its parts nest, and about how many bytes an automaton for
it takes. -/
structure Sized where
  pattern : Pattern
  depth : Nat
  size : Nat

namespace Sized

/-- Bytes for one state, for a range in it, and for a range of characters beyond ASCII. -/
def stateSize : Nat := 32
def transitionSize : Nat := 8
def rangeSize : Nat := 65

def empty : Sized := ⟨.empty, 0, stateSize⟩

def setSize (s : CharSet) : Nat :=
  if s.weight ≤ 1 then stateSize
  else if s.isAscii then 2 * stateSize + transitionSize * s.weight
  else stateSize + rangeSize * s.weight

def ofSet (s : CharSet) : Sized := ⟨.set s, 0, setSize s⟩

def ofAnchor (a : Anchor) : Sized := ⟨.anchor a, 0, stateSize⟩

def grouped (s : Sized) : Sized := ⟨s.pattern, s.depth + 1, s.size + 2 * stateSize⟩

def inClass (s : Sized) (depth : Nat) : Sized := { s with depth }

def repeated (s : Sized) (least : Nat) (most : Option Nat) : Sized :=
  let copies := max 1 (max least (most.getD least))
  ⟨.repeated s.pattern least most, s.depth + 1, s.size * copies + stateSize⟩

def maxDepth (parts : List Sized) : Nat := parts.foldl (fun d s => max d s.depth) 0

def totalSize (parts : List Sized) : Nat := parts.foldl (fun n s => n + s.size) 0

def concat : List Sized → Sized
  | [] => empty
  | [s] => s
  | first :: rest =>
    ⟨rest.foldl (fun p s => .concat p s.pattern) first.pattern, maxDepth (first :: rest) + 1,
      totalSize (first :: rest)⟩

def alternate : List Sized → Sized
  | [] => empty
  | [s] => s
  | first :: rest =>
    ⟨rest.foldl (fun p s => .alternate p s.pattern) first.pattern, maxDepth (first :: rest) + 1,
      totalSize (first :: rest) + stateSize⟩

end Sized

def isMeta (c : Char) : Bool :=
  c ∈ ['\\', '.', '+', '*', '?', '(', ')', '|', '[', ']', Char.ofNat 0x7b, Char.ofNat 0x7d, '^', '$', '#',
    '&', '-', '~']

def openBrace : Char := Char.ofNat 0x7b
def closeBrace : Char := Char.ofNat 0x7d

/-- Characters that stand for themselves after a backslash. -/
def isEscapable (c : Char) : Bool :=
  isMeta c || (c.toNat < 0x80 && !c.isAlphanum && c != '<' && c != '>')

mutual

/-- The text after blanks and comments. -/
def skipBlanks : List Char → List Char
  | [] => []
  | c :: rest => if Text.isBlank c then skipBlanks rest else if c = '#' then skipComment rest else c :: rest

def skipComment : List Char → List Char
  | [] => []
  | c :: rest => if c = '\n' then skipBlanks rest else skipComment rest

end

/-- The text where the next part starts: blanks and comments only count where they are ignored. -/
def skip (f : Flags) (cs : List Char) : List Char := if f.extended then skipBlanks cs else cs

/-- What an escape or a single character stands for. A byte that is no character comes from an
escape of two digits where Unicode is off. -/
inductive Primitive where
  | char (c : Char)
  | byte (n : Nat)
  | set (s : CharSet)
  | anchor (a : Anchor)

def charOfCode? (n : Nat) : Option Char := if n.isValidChar then some (Char.ofNat n) else none

/-- A character written by a fixed number of hexadecimal digits. -/
def hexFixed? (f : Flags) (count : Nat) (cs : List Char) : Option (Primitive × List Char) := do
  let digits := cs.take count
  if digits.length < count then none
  else
    let code ← Text.hexNumber? digits
    if count = 2 && !f.unicode && 0x80 ≤ code then some (.byte code, cs.drop count)
    else some (.char (← charOfCode? code), cs.drop count)

/-- A character written by hexadecimal digits in braces, or by a fixed number of them. -/
def hexEscape? (f : Flags) (count : Nat) (cs : List Char) : Option (Primitive × List Char) :=
  match skip f cs with
  | [] => none
  | c :: rest =>
    if c = openBrace then do
      let digits := rest.takeWhile (· ≠ closeBrace)
      let after ← (rest.drop digits.length).tail?
      if digits.isEmpty then none else some (.char (← charOfCode? (← Text.hexNumber? digits)), after)
    else hexFixed? f count (c :: rest)

/-- The parts before and after the first occurrence of a separator. -/
def cutAt (separator : List Char) : List Char → Option (List Char × List Char)
  | [] => none
  | c :: rest =>
    if separator.isPrefixOf (c :: rest) then some ([], (c :: rest).drop separator.length)
    else (cutAt separator rest).map fun (before, after) => (c :: before, after)

/-- The set that the text in the braces of a property names, and whether it is turned around. -/
def property? (name : List Char) : Option (CharSet × Bool) :=
  match cutAt ['!', '='] name with
  | some (key, value) => (CharSet.valued? (CharSet.looseName key) (CharSet.looseName value)).map (·, true)
  | none =>
    match (cutAt [':'] name).or (cutAt ['='] name) with
    | some (key, value) => (CharSet.valued? (CharSet.looseName key) (CharSet.looseName value)).map (·, false)
    | none => (CharSet.named? (CharSet.looseName name)).map (·, false)

def propertyEscape? (f : Flags) (negated : Bool) (cs : List Char) : Option (Primitive × List Char) := do
  if !f.unicode then none
  let (name, rest) ← match skip f cs with
    | [] => none
    | c :: rest =>
      if c = openBrace then
        let name := rest.takeWhile (· ≠ closeBrace)
        (rest.drop name.length).tail?.map (name, ·)
      else if c = '\\' then none
      else some ([c], rest)
  let (chars, turned) ← property? name
  some (.set (.complIf (negated != turned) (f.fold chars)), rest)

/-- A class with a letter of its own. Without Unicode its complement would match parts of
characters. -/
def classEscape? (f : Flags) (letter : Char) : Option CharSet :=
  let base? : Option CharSet :=
    if letter.toLower = 'd' then some (.digits f.unicode)
    else if letter.toLower = 's' then some (.blanks f.unicode)
    else if letter.toLower = 'w' then some (.wordChars f.unicode)
    else none
  match base? with
  | none => none
  | some base => if letter.isUpper && !f.unicode then none else some (.complIf letter.isUpper base)

/-- The anchor after `\b`, which may be named in braces. -/
def boundaryEscape? (f : Flags) (cs : List Char) : Option (Primitive × List Char) :=
  let plain : Option (Primitive × List Char) := some (.anchor (.wordBoundary f.unicode), cs)
  let isNameChar (c : Char) : Bool := c.isAlpha || c = '-'
  match cs with
  | [] => plain
  | c :: rest =>
    if c = openBrace then
      match skip f rest with
      | [] => none
      | first :: more =>
        if !isNameChar first then plain
        else
          let name := (first :: more).takeWhile isNameChar
          let after := (first :: more).drop name.length
          if after.head? != some closeBrace then none
          else match String.ofList name with
            | "start" => some (.anchor (.wordStart f.unicode), after.tail)
            | "end" => some (.anchor (.wordEnd f.unicode), after.tail)
            | "start-half" => some (.anchor (.wordStartHalf f.unicode), after.tail)
            | "end-half" => some (.anchor (.wordEndHalf f.unicode), after.tail)
            | _ => none
    else plain

/-- What follows a backslash. -/
def escape? (f : Flags) : List Char → Option (Primitive × List Char)
  | [] => none
  | c :: rest =>
    if c.isDigit then none
    else if c = 'x' then hexEscape? f 2 rest
    else if c = 'u' then hexEscape? f 4 rest
    else if c = 'U' then hexEscape? f 8 rest
    else if c = 'p' ∨ c = 'P' then propertyEscape? f (c = 'P') rest
    else if c ∈ ['d', 's', 'w', 'D', 'S', 'W'] then (classEscape? f c).map fun s => (.set s, rest)
    else if isEscapable c then some (.char c, rest)
    else if c = 'a' then some (.char (Char.ofNat 7), rest)
    else if c = 'f' then some (.char (Char.ofNat 12), rest)
    else if c = 't' then some (.char '\t', rest)
    else if c = 'n' then some (.char '\n', rest)
    else if c = 'r' then some (.char '\r', rest)
    else if c = 'v' then some (.char (Char.ofNat 11), rest)
    else if c = 'A' then some (.anchor .textStart, rest)
    else if c = 'z' then some (.anchor .textEnd, rest)
    else if c = 'b' then boundaryEscape? f rest
    else if c = 'B' then some (.anchor (.notWordBoundary f.unicode), rest)
    else if c = '<' then some (.anchor (.wordStart f.unicode), rest)
    else if c = '>' then some (.anchor (.wordEnd f.unicode), rest)
    else none

/-! Bracketed classes -/

inductive SetOp where
  | inter
  | diff
  | symmDiff
  deriving Repr, DecidableEq

namespace SetOp

def apply : SetOp → CharSet → CharSet → CharSet
  | inter, a, b => .inter a b
  | diff, a, b => .diff a b
  | symmDiff, a, b => .symmDiff a b

/-- An operator of two equal signs. -/
def ofPair? (c d : Char) : Option SetOp :=
  if c != d then none
  else if c = '&' then some inter
  else if c = '-' then some diff
  else if c = '~' then some symmDiff
  else none

end SetOp

/-- A class as it is closed. Without Unicode it is a set of bytes, and may hold none that is no
character. -/
def closeClass? (f : Flags) (negated : Bool) (chars : CharSet) : Option CharSet :=
  let closed := CharSet.complIf negated (f.fold chars)
  if f.unicode then some closed
  else if (List.range' 0x80 0x80).any closed.has then none
  else some (.inter closed (.ranges [(0x0, 0x7f)]))

/-- A named ASCII class such as `[:alpha:]`, after its first bracket. -/
def asciiClass? (f : Flags) (cs : List Char) : Option (CharSet × List Char) := do
  let afterColon ← match cs with
    | ':' :: rest => some rest
    | _ => none
  let (negated, named) : Bool × List Char := match afterColon with
    | '^' :: rest => (true, rest)
    | _ => (false, afterColon)
  let name := named.takeWhile (· ≠ ':')
  match named.drop name.length with
  | ':' :: ']' :: rest =>
    let chars ← CharSet.asciiClass? (String.ofList name)
    some (← closeClass? f negated chars, rest)
  | _ => none

/-- A member of a class: an escape or a character. -/
def classPrimitive? (f : Flags) : List Char → Option (Primitive × List Char)
  | [] => none
  | '\\' :: rest => escape? f rest
  | c :: rest => some (.char c, rest)

/-- The code of a member of a class. Without Unicode it is that of a byte. -/
def Primitive.code? (f : Flags) : Primitive → Option Nat
  | .char c => if f.unicode || c.toNat < 0x80 then some c.toNat else none
  | .byte n => some n
  | _ => none

def Primitive.set? (f : Flags) : Primitive → Option CharSet
  | .set s => some s
  | p => (p.code? f).map fun n => .ranges [(n, n)]

/-- A member of a class or a range of characters. A hyphen before the end of the class, or before
another hyphen, makes no range. -/
def classRange? (f : Flags) (cs : List Char) : Option (CharSet × List Char) := do
  let (low, afterLow) ← classPrimitive? f cs
  let rest := skip f afterLow
  if rest.isEmpty then none
  else
    let beyond := skip f rest.tail
    if rest.head? != some '-' || beyond.head? = some ']' || beyond.head? = some '-' then
      some (← low.set? f, rest)
    else
      let (high, after) ← classPrimitive? f beyond
      let a ← low.code? f
      let b ← high.code? f
      if a ≤ b then some (.ranges [(a, b)], after) else none

/-- The hyphens that open a class stand for themselves, as does a bracket before any other member. -/
def classLead (f : Flags) : Nat → List Char → List CharSet × List Char
  | 0, cs => ([], cs)
  | fuel + 1, cs =>
    match cs with
    | '-' :: rest =>
      let (sets, after) := classLead f fuel (skip f rest)
      (.single '-' :: sets, after)
    | _ => ([], cs)

/-- Joins the members read so far with what stands before the last operator. -/
def joinClass (f : Flags) (before : Option (CharSet × SetOp)) (members : List CharSet) : CharSet :=
  match before with
  | none => .unionAll members
  | some (left, op) => op.apply (f.fold left) (f.fold (.unionAll members))

mutual

/-- A class after its opening bracket: the set, how deep its classes nest, and the text after it. -/
def bracket? (f : Flags) : Nat → List Char → Option (CharSet × Nat × List Char)
  | 0, _ => none
  | fuel + 1, cs => do
    let opened := skip f cs
    let (negated, body) : Bool × List Char := match opened with
      | '^' :: rest => (true, skip f rest)
      | _ => (false, opened)
    let (hyphens, afterHyphens) := classLead f body.length body
    let (lead, rest) : List CharSet × List Char := match hyphens, afterHyphens with
      | [], ']' :: rest => ([.single ']'], skip f rest)
      | _, _ => (hyphens, afterHyphens)
    let (chars, depth, after) ← classItems? f fuel none lead rest
    some (← closeClass? f negated chars, depth + 1, after)

def classItems? (f : Flags) : Nat → Option (CharSet × SetOp) → List CharSet → List Char →
    Option (CharSet × Nat × List Char)
  | 0, _, _, _ => none
  | fuel + 1, before, members, cs =>
    match skip f cs with
    | [] => none
    | ']' :: rest => some (joinClass f before members, 0, rest)
    | '[' :: rest =>
      match asciiClass? f rest with
      | some (chars, after) => classItems? f fuel before (members ++ [chars]) after
      | none => do
        let (chars, inner, after) ← bracket? f fuel rest
        let (result, depth, rest) ← classItems? f fuel before (members ++ [chars]) after
        some (result, max inner depth, rest)
    | c :: rest =>
      match rest.head?.bind (SetOp.ofPair? c) with
      | some op => classItems? f fuel (some (joinClass f before members, op)) [] rest.tail
      | none => do
        let (chars, after) ← classRange? f (c :: rest)
        classItems? f fuel before (members ++ [chars]) after

end

/-! Groups, repetitions and sequences -/

def setFlag? (f : Flags) (letter : Char) (on : Bool) : Option Flags :=
  if letter = 'i' then some { f with ignoreCase := on }
  else if letter = 'm' then some { f with multiLine := on }
  else if letter = 's' then some { f with dotAll := on }
  else if letter = 'x' then some { f with extended := on }
  else if letter = 'u' then some { f with unicode := on }
  else if letter = 'R' then some { f with crlf := on }
  else if letter = 'U' then some f
  else none

/-- Flag letters up to a colon or a closing parenthesis, each at most once and one minus among
them. Gives the flags, whether there were any, the end and the text after it. -/
def flagLetters? (f : Flags) (on : Bool) (seen : List Char) :
    List Char → Option (Flags × Bool × Char × List Char)
  | [] => none
  | c :: rest =>
    if c = ':' ∨ c = ')' then
      if seen.head? = some '-' then none else some (f, !seen.isEmpty, c, rest)
    else if c ∈ seen then none
    else if c = '-' then flagLetters? f false ('-' :: seen) rest
    else match setFlag? f c on with
      | none => none
      | some g => flagLetters? g on (c :: seen) rest

def isNameStart (c : Char) : Bool := c = '_' || Text.isLetter c

def isNameChar (c : Char) : Bool :=
  isNameStart c || c ∈ ['.', '[', ']'] ||
    [Text.Category.decimalNumber, Text.Category.letterNumber, Text.Category.otherNumber].any (·.mem c)

/-- The name of a group up to its closing angle. -/
def groupName? (cs : List Char) : Option (String × List Char) :=
  let name := cs.takeWhile (· ≠ '>')
  match name, cs.drop name.length with
  | first :: more, _ :: rest =>
    if isNameStart first && more.all isNameChar then some (String.ofList name, rest) else none
  | _, _ => none

def maxCount : Nat := Nat.pow 2 32 - 1

/-- A decimal count between blanks; no digits give none. -/
def count (f : Flags) (cs : List Char) : List Char × List Char :=
  let (digits, rest) := Number.digitRun (cs.dropWhile Text.isBlank)
  (digits, skip f (rest.dropWhile Text.isBlank))

def countValue? (digits : List Char) : Option Nat :=
  let n := Number.digitsValue digits
  if digits.isEmpty || maxCount < n then none else some n

/-- The bounds of a counted repetition, after its opening brace. -/
def bounds? (f : Flags) (cs : List Char) : Option ((Nat × Option Nat) × List Char) := do
  let (leastDigits, rest) := count f (skip f cs)
  match rest with
  | ',' :: more =>
    let more := skip f more
    if more.head? = some closeBrace then some ((← countValue? leastDigits, none), more.tail)
    else
      let least ← countValue? leastDigits
      let (mostDigits, after) := count f more
      let most ← countValue? mostDigits
      if after.head? = some closeBrace && least ≤ most then some ((least, some most), after.tail) else none
  | c :: more =>
    if c = closeBrace then
      let n ← countValue? leastDigits
      some ((n, some n), more)
    else none
  | [] => none

/-- The text after a mark of reluctance, which does not change what a search finds. -/
def dropReluctant (cs : List Char) : List Char :=
  match cs with
  | '?' :: rest => rest
  | _ => cs

def dot? (f : Flags) : Option CharSet :=
  if !f.unicode then none
  else if f.dotAll then some .everything
  else if f.crlf then some (.compl (.union (.single '\n') (.single '\r')))
  else some (.compl (.single '\n'))

/-- The part that a character or an escape stands for. -/
def primitive? (f : Flags) : List Char → Option (Sized × List Char)
  | [] => none
  | '.' :: rest => (dot? f).map fun s => (.ofSet s, rest)
  | '^' :: rest => some (.ofAnchor (if f.multiLine then .lineStart f.crlf else .textStart), rest)
  | '$' :: rest => some (.ofAnchor (if f.multiLine then .lineEnd f.crlf else .textEnd), rest)
  | cs => do
    let (p, rest) ← classPrimitive? f cs
    match p with
    | .char c => some (.ofSet (f.fold (.single c)), rest)
    | .byte _ => none
    | .set s => some (.ofSet s, rest)
    | .anchor a => some (.ofAnchor a, rest)

/-- Where a reader of patterns stands: the flags in force, the group names taken, the text ahead. -/
structure Cursor where
  flags : Flags
  names : List String
  rest : List Char

/-- The opening of a group, after its parenthesis: flags for what follows, or the cursor at the
group's inner pattern. -/
def openGroup? (c : Cursor) : Option (Flags ⊕ Cursor) :=
  match skip c.flags c.rest with
  | '?' :: 'P' :: '<' :: rest => named rest
  | '?' :: '<' :: rest =>
    if rest.head? = some '=' || rest.head? = some '!' then none else named rest
  | '?' :: rest => do
    let (flags, any, stop, after) ← flagLetters? c.flags true [] rest
    if stop = ')' then if any then some (.inl flags) else none
    else some (.inr { c with flags, rest := after })
  | rest => some (.inr { c with rest })
where
  named (cs : List Char) : Option (Flags ⊕ Cursor) := do
    let (name, rest) ← groupName? cs
    if name ∈ c.names then none else some (.inr { c with names := name :: c.names, rest })

/-- Reads alternatives up to the end of a group or of the text. Parts are kept in reverse; a missing
part is a place where flags were set, which nothing can repeat. -/
def alternatives? : Nat → Bool → Cursor → List Sized → List (Option Sized) → Option (Sized × Cursor)
  | 0, _, _, _, _ => none
  | fuel + 1, inGroup, cursor, done, parts =>
    let sequence := Sized.concat (parts.reverse.filterMap id)
    let finished := Sized.alternate (done ++ [sequence])
    let f := cursor.flags
    match skip f cursor.rest with
    | [] => if inGroup then none else some (finished, { cursor with rest := [] })
    | c :: rest =>
      let go (part : Sized) (after : List Char) : Option (Sized × Cursor) :=
        alternatives? fuel inGroup { cursor with rest := after } done (some part :: parts)
      let goRepeated (least : Nat) (most : Option Nat) (after : List Char) : Option (Sized × Cursor) :=
        match parts with
        | some part :: others =>
          alternatives? fuel inGroup { cursor with rest := dropReluctant after } done
            (some (part.repeated least most) :: others)
        | _ => none
      if c = ')' then if inGroup then some (finished, { cursor with rest }) else none
      else if c = '|' then alternatives? fuel inGroup { cursor with rest } (done ++ [sequence]) []
      else if c = '?' then goRepeated 0 (some 1) rest
      else if c = '*' then goRepeated 0 none rest
      else if c = '+' then goRepeated 1 none rest
      else if c = openBrace then do
        let ((least, most), after) ← bounds? f rest
        goRepeated least most (skip f after)
      else if c = '[' then do
        let (chars, depth, after) ← bracket? f (rest.length + 1) rest
        go ((Sized.ofSet chars).inClass depth) after
      else if c = '(' then
        match openGroup? { cursor with rest } with
        | none => none
        | some (.inl flags) =>
          let after := rest.dropWhile (· ≠ ')')
          alternatives? fuel inGroup { cursor with flags, rest := after.tail } done (none :: parts)
        | some (.inr inner) => do
          let (body, after) ← alternatives? fuel true inner [] []
          alternatives? fuel inGroup { after with flags := f } done (some body.grouped :: parts)
      else do
        let (part, after) ← primitive? f (c :: rest)
        go part after

def maxNesting : Nat := 250

def sizeLimit : Nat := 10485760

/-- Compiles a pattern text. -/
def compile (text : String) : Except PatternFault Pattern :=
  let cs := text.toList
  match alternatives? (cs.length + 1) false ⟨.initial, [], cs⟩ [] [] with
  | none => .error .malformed
  | some (sized, _) =>
    if maxNesting < sized.depth then .error .malformed
    else if sizeLimit < sized.size then .error .tooLarge
    else .ok sized.pattern

end Pattern

end PolicyEngine
