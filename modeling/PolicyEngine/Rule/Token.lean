import PolicyEngine.Path.Basic

/-! Tokens of rule texts, the lexemes that place them in a text, and the faults that reading a rule
can end in. -/
namespace PolicyEngine

inductive Token where
  | word (text : String)
  | string (content : String)
  | number (text : String)
  | path (text : String)
  | eq
  | ne
  | lt
  | le
  | gt
  | ge
  | assign
  | plus
  | minus
  | star
  | slash
  | openParen
  | closeParen
  | openBracket
  | closeBracket
  | comma
  deriving Repr, DecidableEq

namespace Token

/-- The spelling of an operator or a punctuation mark. -/
def symbol? : Token → Option String
  | word _ | string _ | number _ | path _ => none
  | eq => some "=="
  | ne => some "!="
  | lt => some "<"
  | le => some "<="
  | gt => some ">"
  | ge => some ">="
  | assign => some "="
  | plus => some "+"
  | minus => some "-"
  | star => some "*"
  | slash => some "/"
  | openParen => some "("
  | closeParen => some ")"
  | openBracket => some "["
  | closeBracket => some "]"
  | comma => some ","

/-- The token as messages name it. -/
def describe : Token → String
  | word text => s!"'{text}'"
  | string content => s!"string '{content}'"
  | number text => s!"number {text}"
  | path text => s!"path {text}"
  | token => "'" ++ token.symbol?.getD "" ++ "'"

/-- Whether an operand can end with this token, so that a minus after it is no sign. -/
def endsOperand : Token → Bool
  | word _ | string _ | number _ | path _ | closeParen | closeBracket => true
  | _ => false

end Token

/-- How many bytes characters take in UTF-8. -/
def byteSize : List Char → Nat
  | [] => 0
  | c :: cs => c.utf8Size + byteSize cs

/-- A token with its place: the blanks before it, its characters, and the byte offset of its
first. -/
structure Lexeme where
  token : Token
  gap : List Char
  text : List Char
  offset : Nat
  deriving Repr

namespace Lexeme

/-- The byte offset after the last character. -/
def stop (l : Lexeme) : Nat := l.offset + byteSize l.text

/-- The characters from the first lexeme to the last, with the blanks between them. -/
def source : List Lexeme → List Char
  | [] => []
  | first :: rest => first.text ++ rest.flatMap fun l => l.gap ++ l.text

end Lexeme

/-- What a reader of rules can be looking for. -/
inductive Expectation where
  | token (token : Token)
  | path
  | operand
  | comparison
  | memberKeyword
  | numericOperand
  | listElement
  | listSeparator
  deriving Repr, DecidableEq

namespace Expectation

def describe : Expectation → String
  | token t => t.describe
  | path => "path"
  | operand => "operand"
  | comparison => "comparison operator"
  | memberKeyword => "'IN' after 'NOT'"
  | numericOperand => "numeric operand in EXP"
  | listElement => "list element"
  | listSeparator => "',' or ']'"

end Expectation

/-- Why a text is not a rule. -/
inductive ParseFault where
  | unterminatedString
  | unterminatedEscape
  | unexpectedCharacter (c : Char)
  | emptyRule
  | alternativeMissing
  | consequenceMissing
  | conditionMissing
  | expected (what : Expectation) (found : Option Token)
  | trailing (token : Token)
  | path (fault : PathFault)
  | numberOutOfRange (text : String)
  | unknownFunction (name : String)
  deriving Repr, DecidableEq

namespace ParseFault

def describeFound : Option Token → String
  | some token => token.describe
  | none => "end of rule"

def message : ParseFault → String
  | unterminatedString => "unterminated string literal"
  | unterminatedEscape => "unterminated escape in string"
  | unexpectedCharacter c => s!"unexpected character '{c}'"
  | emptyRule => "empty rule"
  | alternativeMissing => "OR requires a rule on both sides"
  | consequenceMissing => "IF without THEN"
  | conditionMissing => "IF without a condition"
  | expected what found => s!"expected {what.describe}, got {describeFound found}"
  | trailing token => s!"unexpected {token.describe} after end of rule"
  | path fault => fault.message
  | numberOutOfRange text => s!"number out of range: {text}"
  | unknownFunction name => s!"unknown function '{name}'"

end ParseFault

/-- A fault and the byte offset that it is reported at. -/
structure ParseError where
  position : Nat
  fault : ParseFault
  deriving Repr, DecidableEq

namespace ParseError

def message (e : ParseError) : String := s!"parse error at offset {e.position}: {e.fault.message}"

end ParseError

@[simp] theorem byteSize_nil : byteSize [] = 0 := rfl

@[simp] theorem byteSize_cons (c : Char) (cs : List Char) : byteSize (c :: cs) = c.utf8Size + byteSize cs := rfl

@[simp] theorem byteSize_append (cs ds : List Char) : byteSize (cs ++ ds) = byteSize cs + byteSize ds := by
  induction cs with
  | nil => simp [byteSize]
  | cons c cs ih => simp only [List.cons_append, byteSize, ih, Nat.add_assoc]

end PolicyEngine
