import PolicyEngine.Rule.Basic
import PolicyEngine.Rule.Lexer
import PolicyEngine.Document.Text

/-! Lexemes as rules. The forms are tried in a fixed order: a top-level `OR`, `SET`, `IF`, a null
check, a comparison. Bare operands keep the text between their first and last lexeme. -/
namespace PolicyEngine.Rule

open Lexeme (source)

/-- The byte offset of the next lexeme, or where the rule ends. -/
def offsetOr (stop : Nat) : List Lexeme → Nat
  | [] => stop
  | l :: _ => l.offset

def nextToken : List Lexeme → Option Token
  | [] => none
  | l :: _ => some l.token

def failExpected (stop : Nat) (what : Expectation) (ls : List Lexeme) : Except ParseError α :=
  .error ⟨offsetOr stop ls, .expected what (nextToken ls)⟩

/-- What a reader leaves of some lexemes. -/
abbrev Rest (ls : List Lexeme) := { rest : List Lexeme // rest.length < ls.length }

/-- Takes the next lexeme if it is this token. -/
def expect (stop : Nat) (token : Token) (ls : List Lexeme) : Except ParseError (Rest ls) :=
  match ls with
  | l :: rest => if l.token = token then .ok ⟨rest, Nat.lt_succ_self _⟩ else failExpected stop (.token token) (l :: rest)
  | [] => failExpected stop (.token token) []

def pathOf (text : String) (offset : Nat) : Except ParseError Path :=
  (Path.parse text).mapError fun fault => ⟨offset, .path fault⟩

def takePath (stop : Nat) (ls : List Lexeme) : Except ParseError (Path × Rest ls) :=
  match ls with
  | ⟨.path text, _, _, offset⟩ :: rest =>
    (pathOf text offset).map (·, ⟨rest, Nat.lt_succ_self _⟩)
  | ls => failExpected stop .path ls

def numberOf (text : String) (offset : Nat) : Except ParseError Float :=
  match Number.ofText? text with
  | some x => .ok x
  | none => .error ⟨offset, .numberOutOfRange text⟩

def arithOp? : Option Token → Option ArithOp
  | some .plus => some .add
  | some .minus => some .sub
  | some .star => some .mul
  | some .slash => some .div
  | _ => none

mutual

/-- The argument of a call and its closing parenthesis. The name stands at `offset`. -/
def parseCall (stop : Nat) (name : String) (offset : Nat) (ls : List Lexeme) :
    Except ParseError (Operand × Rest ls) :=
  if name = "EXP" then do
    let (first, ⟨afterFirst, _⟩) ← parseTerm stop ls
    match arithOp? (nextToken afterFirst) with
    | none =>
      let ⟨rest, _⟩ ← expect stop .closeParen afterFirst
      return (.exp first, ⟨rest, by omega⟩)
    | some op =>
      let (second, ⟨afterSecond, h⟩) ← parseTerm stop afterFirst.tail
      let ⟨rest, _⟩ ← expect stop .closeParen afterSecond
      return (.arith first op second, ⟨rest, by simp only [List.length_tail] at h; omega⟩)
  else match AggregateOp.ofName? name with
    | some op => do
      let (path, ⟨afterPath, _⟩) ← takePath stop ls
      let ⟨rest, _⟩ ← expect stop .closeParen afterPath
      return (.aggregate op path, ⟨rest, by omega⟩)
    | none => .error ⟨offset, .unknownFunction name⟩
termination_by 2 * ls.length + 1
decreasing_by
  · omega
  · simp only [List.length_tail]; omega

/-- A term of an `EXP`. -/
def parseTerm (stop : Nat) (ls : List Lexeme) : Except ParseError (Operand × Rest ls) :=
  match ls with
  | ⟨.word name, _, _, offset⟩ :: ⟨.openParen, _, _, _⟩ :: inner =>
    (parseCall stop name offset inner).map fun (operand, rest) =>
      (operand, ⟨rest.1, by have := rest.2; simp only [List.length_cons]; omega⟩)
  | ⟨.path text, _, _, offset⟩ :: rest =>
    (pathOf text offset).map (.path ·, ⟨rest, Nat.lt_succ_self _⟩)
  | ⟨.number text, _, _, offset⟩ :: rest =>
    (numberOf text offset).map (.literal <| .number ·, ⟨rest, Nat.lt_succ_self _⟩)
  | ls => failExpected stop .numericOperand ls
termination_by 2 * ls.length
decreasing_by simp only [List.length_cons]; omega

end

/-- Whether a comparison operator starts here. A word `NOT` counts only before `IN`. -/
def startsComparison (token : Token) (next : Option Token) : Bool :=
  match token with
  | .eq | .ne | .lt | .le | .gt | .ge | .assign => true
  | .word "IN" => true
  | .word "NOT" => next = some (.word "IN")
  | _ => false

/-- The lexemes before the first comparison operator, and the others. -/
def beforeComparison : List Lexeme → List Lexeme × List Lexeme
  | [] => ([], [])
  | l :: rest =>
    if startsComparison l.token (nextToken rest) then ([], l :: rest)
    else
      let (before, others) := beforeComparison rest
      (l :: before, others)

def literalOf (ls : List Lexeme) : Operand := .literal (.ofLiteral (String.ofList (source ls)))

/-- An operand that reaches up to the next comparison operator, or up to the end of the rule. -/
def parseOperand (stop : Nat) (bounded : Bool) (ls : List Lexeme) :
    Except ParseError (Operand × List Lexeme) :=
  match ls with
  | ⟨.word name, _, _, offset⟩ :: ⟨.openParen, _, _, _⟩ :: inner =>
    (parseCall stop name offset inner).map fun (operand, rest) => (operand, rest.1)
  | ls =>
    match if bounded then beforeComparison ls else (ls, []) with
    | ([], _) => failExpected stop .operand ls
    | (⟨.path text, _, _, offset⟩ :: _, _) => (pathOf text offset).map (.path ·, ls.tail)
    | ([⟨.number text, _, _, offset⟩], others) =>
      (numberOf text offset).map (.literal <| .number ·, others)
    | ([⟨.string content, _, _, _⟩], others) => .ok (.literal (.string content), others)
    | (extent, others) => .ok (literalOf extent, others)

def parseCompareOp (stop : Nat) (ls : List Lexeme) : Except ParseError (CompareOp × List Lexeme) :=
  match nextToken ls with
  | some .eq => .ok (.eq, ls.tail)
  | some .ne => .ok (.ne, ls.tail)
  | some .gt => .ok (.gt, ls.tail)
  | some .ge => .ok (.ge, ls.tail)
  | some .lt => .ok (.lt, ls.tail)
  | some .le => .ok (.le, ls.tail)
  | some (.word "IN") => .ok (.memberOf, ls.tail)
  | some (.word "NOT") =>
    if nextToken ls.tail = some (.word "IN") then .ok (.notMemberOf, ls.tail.tail)
    else failExpected stop .memberKeyword ls.tail
  | _ => failExpected stop .comparison ls

def endsElement (token : Token) : Bool := token = .comma || token = .closeBracket

/-- The text of a list element. -/
def elementText : List Lexeme → String
  | [⟨.string content, _, _, _⟩] => content
  | ls => String.ofList (source ls)

/-- List elements up to the closing bracket. -/
def parseElements (stop : Nat) (ls : List Lexeme) : Except ParseError (List String × List Lexeme) :=
  let element := ls.takeWhile fun l => !endsElement l.token
  if element.isEmpty then failExpected stop .listElement ls
  else
    match _split : ls.dropWhile fun l => !endsElement l.token with
    | [] => failExpected stop .listSeparator []
    | l :: rest =>
      if l.token = .comma then
        (parseElements stop rest).map fun (items, after) => (elementText element :: items, after)
      else .ok ([elementText element], rest)
termination_by ls.length
decreasing_by
  have := (ls.dropWhile_sublist fun l => !endsElement l.token).length_le
  simp only [_split, List.length_cons] at this
  omega

def parseList (stop : Nat) (ls : List Lexeme) : Except ParseError (Operand × List Lexeme) := do
  let ⟨rest, _⟩ ← expect stop .openBracket ls
  if nextToken rest = some .closeBracket then return (.list [], rest.tail)
  else (parseElements stop rest).map fun (items, after) => (.list items, after)

def expectEnd : List Lexeme → Except ParseError Unit
  | [] => .ok ()
  | l :: _ => .error ⟨l.offset, .trailing l.token⟩

def parseSet (stop : Nat) (ls : List Lexeme) : Except ParseError Rule := do
  let (target, ⟨afterTarget, _⟩) ← takePath stop ls
  let ⟨afterAssign, _⟩ ← expect stop .assign afterTarget
  let (value, rest) ← parseOperand stop false afterAssign
  expectEnd rest
  return .set target value

def parseComparison (stop : Nat) (ls : List Lexeme) : Except ParseError Rule := do
  let (left, afterLeft) ← parseOperand stop true ls
  let (op, afterOp) ← parseCompareOp stop afterLeft
  let (right, rest) ←
    if op = .memberOf ∨ op = .notMemberOf then parseList stop afterOp
    else parseOperand stop true afterOp
  expectEnd rest
  return .compare left op right

/-- The path and polarity of a rule that is a null check. -/
def nullCheckOf? : List Lexeme → Option (String × Nat × Bool)
  | [path, op, null] =>
    match path.token, op.token, null.token with
    | .path text, .eq, .word "null" => some (text, path.offset, false)
    | .path text, .ne, .word "null" => some (text, path.offset, true)
    | _, _, _ => none
  | _ => none

/-- Cuts at the first occurrence of a word outside parentheses and brackets. -/
def splitAtWord (word : String) (depth : Nat) : List Lexeme → Option (List Lexeme × Lexeme × List Lexeme)
  | [] => none
  | l :: rest =>
    if depth = 0 ∧ l.token = .word word then some ([], l, rest)
    else
      let inner := match l.token with
        | .openParen | .openBracket => depth + 1
        | .closeParen | .closeBracket => depth - 1
        | _ => depth
      (splitAtWord word inner rest).map fun (before, found, after) => (l :: before, found, after)

theorem length_splitAtWord {word : String} {depth : Nat} {ls before after : List Lexeme} {l : Lexeme}
    (h : splitAtWord word depth ls = some (before, l, after)) :
    before.length + after.length < ls.length := by
  induction ls generalizing depth before with
  | nil => simp [splitAtWord] at h
  | cons first rest ih =>
    simp only [splitAtWord] at h
    split at h
    · simp only [Option.some.injEq, Prod.mk.injEq] at h
      simp only [← h.1, ← h.2.2, List.length_nil, List.length_cons]
      omega
    · simp only [Option.map_eq_some_iff, Prod.exists, Prod.mk.injEq] at h
      obtain ⟨b, f, a, hs, rfl, rfl, rfl⟩ := h
      have := ih hs
      simp only [List.length_cons]
      omega

/-- The rule that some lexemes spell; `stop` is the byte offset at which they end. -/
def ofLexemes (stop : Nat) (ls : List Lexeme) : Except ParseError Rule :=
  match ls with
  | [] => .error ⟨stop, .emptyRule⟩
  | first :: others =>
    match hor : splitAtWord "OR" 0 (first :: others) with
    | some (before, word, after) =>
      have := length_splitAtWord hor
      if before.isEmpty || after.isEmpty then .error ⟨word.offset, .alternativeMissing⟩
      else do
        let left ← ofLexemes word.offset before
        let right ← ofLexemes stop after
        return .or left right
    | none =>
      if first.token = .word "SET" then parseSet stop others
      else if first.token = .word "IF" then
        match hthen : splitAtWord "THEN" 0 (first :: others) with
        | none => .error ⟨stop, .consequenceMissing⟩
        | some (before, word, after) =>
          have := length_splitAtWord hthen
          if before.tail.isEmpty then .error ⟨word.offset, .conditionMissing⟩
          else do
            let condition ← ofLexemes word.offset before.tail
            let action ← ofLexemes stop after
            return .conditional condition action
      else match nullCheckOf? (first :: others) with
        | some (text, offset, negated) => (pathOf text offset).map (.nullCheck · negated)
        | none => parseComparison stop (first :: others)
termination_by ls.length
decreasing_by all_goals simp only [List.length_cons, List.length_tail] at *; omega

def parse (text : String) : Except ParseError Rule := do
  ofLexemes (byteSize text.toList) (← Lexer.lex text)

end PolicyEngine.Rule
