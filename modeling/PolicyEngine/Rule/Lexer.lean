import PolicyEngine.Rule.Token
import PolicyEngine.Text.Basic
import PolicyEngine.Text.Letter

/-! Rule texts as lexemes. A character is read by the characters after it, the token before it and
the number of open parentheses: arithmetic operators exist only inside parentheses, and are word
characters outside. -/
namespace PolicyEngine.Lexer

open Text (isBlank isLetter)

def isDelimiter (c : Char) : Bool := isBlank c || c ∈ ['=', '!', '<', '>', '(', ')', ',']

def isOperator (c : Char) : Bool := c ∈ ['+', '-', '*', '/']

def isWordChar (depth : Nat) (c : Char) : Bool :=
  !isDelimiter c && !(c = '[' || c = ']') && !(0 < depth && isOperator c)

/-- Whether a path goes on with `c`. Inside parentheses a minus belongs to a path only where a name
goes on after it. -/
def isPathChar (depth : Nat) (c : Char) (next : Option Char) : Bool :=
  if isDelimiter c then false
  else if c = '-' then depth = 0 || next.any fun n => isLetter n || n = '_'
  else if isOperator c then depth = 0
  else true

/-- The leading characters of which a path is made. -/
def pathRun (depth : Nat) : List Char → List Char
  | [] => []
  | c :: rest => if isPathChar depth c rest.head? then c :: pathRun depth rest else []

/-- A point with digits after it, and the text behind. -/
def fractionRun : List Char → List Char × List Char
  | '.' :: cs =>
    let (digits, after) := Number.digitRun cs
    if digits.isEmpty then ([], '.' :: cs) else ('.' :: digits, after)
  | cs => ([], cs)

def signRun : List Char → List Char × List Char
  | c :: cs => if c = '+' ∨ c = '-' then ([c], cs) else ([], c :: cs)
  | [] => ([], [])

/-- An exponent with digits, and the text behind. -/
def exponentRun : List Char → List Char × List Char
  | e :: cs =>
    if e = 'e' ∨ e = 'E' then
      let (sign, unsigned) := signRun cs
      let (digits, after) := Number.digitRun unsigned
      if digits.isEmpty then ([], e :: cs) else (e :: sign ++ digits, after)
    else ([], e :: cs)
  | [] => ([], [])

/-- The longest number that starts the text: a minus, digits, a fraction, an exponent, all but the
digits optional. -/
def numberRun (cs : List Char) : List Char :=
  let (sign, unsigned) : List Char × List Char := match cs with
    | '-' :: rest => (['-'], rest)
    | _ => ([], cs)
  let (whole, afterWhole) := Number.digitRun unsigned
  let (fraction, afterFraction) := fractionRun afterWhole
  sign ++ whole ++ fraction ++ (exponentRun afterFraction).1

/-- The content of a quoted text and the number of characters up to its closing quote. An escape
other than the five known ones keeps its backslash. -/
def quotedRun (quote : Char) : List Char → Except ParseFault (List Char × Nat)
  | [] => .error .unterminatedString
  | c :: rest =>
    if c = quote then .ok ([], 1)
    else if c = '\\' then
      match rest with
      | [] => .error .unterminatedEscape
      | e :: more =>
        let content :=
          if e = '"' ∨ e = '\'' ∨ e = '\\' then [e]
          else if e = 'n' then ['\n']
          else if e = 't' then ['\t']
          else ['\\', e]
        (quotedRun quote more).map fun (cs, count) => (content ++ cs, count + 2)
    else (quotedRun quote rest).map fun (cs, count) => (c :: cs, count + 1)

/-- The operator or punctuation mark that starts with `c`, and how many more characters it has. -/
def symbol? (depth : Nat) (c : Char) (next : Option Char) : Option (Token × Nat) :=
  let doubled := next = some '='
  if c = '=' then some (if doubled then (.eq, 1) else (.assign, 0))
  else if c = '!' then if doubled then some (.ne, 1) else none
  else if c = '<' then some (if doubled then (.le, 1) else (.lt, 0))
  else if c = '>' then some (if doubled then (.ge, 1) else (.gt, 0))
  else if c = '(' then some (.openParen, 0)
  else if c = ')' then some (.closeParen, 0)
  else if c = '[' then some (.openBracket, 0)
  else if c = ']' then some (.closeBracket, 0)
  else if c = ',' then some (.comma, 0)
  else if depth = 0 then none
  else if c = '+' then some (.plus, 0)
  else if c = '-' then some (.minus, 0)
  else if c = '*' then some (.star, 0)
  else if c = '/' then some (.slash, 0)
  else none

/-- Whether a number starts with `c`: a digit, or a minus before a digit where no operand ends. -/
def startsNumber (previous : Option Token) (c : Char) (next : Option Char) : Bool :=
  c.isDigit || (c = '-' && next.any Char.isDigit && !previous.any Token.endsOperand)

/-- The number that starts the text, unless it runs into a word. -/
def number? (depth : Nat) (previous : Option Token) (c : Char) (rest : List Char) : Option (List Char) :=
  if startsNumber previous c rest.head? then
    let text := numberRun (c :: rest)
    if ((c :: rest).drop text.length).head?.any (isWordChar depth) then none else some text
  else none

/-- The token that starts with the unblank character `c`, and how many characters of `rest` it
takes. -/
def scan (depth : Nat) (previous : Option Token) (c : Char) (rest : List Char) :
    Except ParseFault (Token × Nat) :=
  if c = '"' ∨ c = '\'' then
    (quotedRun c rest).map fun (content, count) => (.string (String.ofList content), count)
  else if c = '$' ∧ rest.head? = some '.' then
    let run := pathRun depth rest.tail
    .ok (.path (String.ofList ('$' :: '.' :: run)), run.length + 1)
  else match number? depth previous c rest with
    | some text => .ok (.number (String.ofList text), text.length - 1)
    | none =>
      match symbol? depth c rest.head? with
      | some found => .ok found
      | none =>
        if isWordChar depth c then
          let run := rest.takeWhile (isWordChar depth)
          .ok (.word (String.ofList (c :: run)), run.length)
        else .error (.unexpectedCharacter c)

def depthAfter (depth : Nat) : Token → Nat
  | .openParen => depth + 1
  | .closeParen => depth - 1
  | _ => depth

/-- The lexemes of the text from a byte offset on, after the blanks `gap`. -/
def lexFrom (offset depth : Nat) (previous : Option Token) (gap : List Char) :
    List Char → Except ParseError (List Lexeme)
  | [] => .ok []
  | c :: rest =>
    if isBlank c then lexFrom (offset + c.utf8Size) depth previous (gap ++ [c]) rest
    else match scan depth previous c rest with
      | .error fault => .error ⟨offset, fault⟩
      | .ok (token, count) =>
        let text := c :: rest.take count
        (lexFrom (offset + byteSize text) (depthAfter depth token) (some token) []
          (rest.drop count)).map (⟨token, gap, text, offset⟩ :: ·)
termination_by cs => cs.length
decreasing_by all_goals simp only [List.length_drop, List.length_cons]; omega

def lex (text : String) : Except ParseError (List Lexeme) := lexFrom 0 0 none [] text.toList

end PolicyEngine.Lexer
