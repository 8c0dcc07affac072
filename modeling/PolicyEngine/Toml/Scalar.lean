import PolicyEngine.Toml.Basic
import PolicyEngine.DateTime
import PolicyEngine.Text.Basic

/-! TOML scalars: texts in four kinds of quotes, numbers, booleans, dates and times. -/
namespace PolicyEngine.Toml

def isBlank (c : Char) : Bool := c = ' ' || c = '\t'

/-- Characters that may stand in a line. -/
def isPlain (c : Char) : Bool := c = '\t' || (0x20 ≤ c.toNat && c.toNat != 0x7f)

def charOfHex? (digits : List Char) (count : Nat) : Option Char := do
  if digits.length != count then none
  let n ← Text.hexNumber? digits
  if n.isValidChar then some (Char.ofNat n) else none

/-- The character of an escape, and how many characters it takes after its backslash. -/
def escape? : List Char → Option (Char × Nat)
  | [] => none
  | c :: rest =>
    if c = 'b' then some (Char.ofNat 0x8, 1)
    else if c = 't' then some ('\t', 1)
    else if c = 'n' then some ('\n', 1)
    else if c = 'f' then some (Char.ofNat 0xc, 1)
    else if c = 'r' then some ('\r', 1)
    else if c = '"' ∨ c = '\\' then some (c, 1)
    else if c = 'u' then (charOfHex? (rest.take 4) 4).map (·, 5)
    else if c = 'U' then (charOfHex? (rest.take 8) 8).map (·, 9)
    else none

/-- What was read, and the text after it. -/
abbrev Reading (α : Type) := α × List Char

/-- Puts characters before a text that was read. -/
def before (chars : List Char) (r : Option (Reading (List Char))) : Option (Reading (List Char)) :=
  r.map fun (text, rest) => (chars ++ text, rest)

/-- Reads a text on one line, after its quote. Only double quotes know escapes. -/
def readLine (quote : Char) : List Char → Option (Reading (List Char))
  | [] => none
  | c :: rest =>
    if c = quote then some ([], rest)
    else if c = '\\' && quote = '"' then
      match escape? rest with
      | some (e, count) => before [e] (readLine quote (rest.drop count))
      | none => none
    else if isPlain c then before [c] (readLine quote rest)
    else none
termination_by cs => cs.length
decreasing_by all_goals simp only [List.length_drop, List.length_cons]; omega

/-- The length of a line break that starts here. -/
def breakLength : List Char → Nat
  | '\n' :: _ => 1
  | '\r' :: '\n' :: _ => 2
  | _ => 0

/-- How many quotes, of at least three, close a text; two of them may still belong to it. -/
def closingQuotes (quote : Char) (cs : List Char) : Nat :=
  let run := ((cs.takeWhile (· = quote)).length)
  if run < 3 then 0 else min run 5

/-- Passes blanks and line breaks. -/
def skipLines : List Char → List Char
  | [] => []
  | c :: rest =>
    if isBlank c || c = '\n' then skipLines rest
    else if c = '\r' && rest.head? = some '\n' then skipLines rest
    else c :: rest

theorem length_skipLines_le (cs : List Char) : (skipLines cs).length ≤ cs.length := by
  fun_induction skipLines cs <;> simp only [List.length_cons, List.length_nil] <;> omega

/-- Reads a text over several lines, after its quotes. A backslash at the end of a line joins it
with the next text. -/
def readLines (quote : Char) : List Char → Option (Reading (List Char))
  | [] => none
  | c :: rest =>
    let closing := closingQuotes quote (c :: rest)
    let broken := breakLength (c :: rest)
    if 0 < closing then some (List.replicate (closing - 3) quote, (c :: rest).drop closing)
    else if 0 < broken then before ['\n'] (readLines quote (rest.drop (broken - 1)))
    else if c = '\\' && quote = '"' then
      let ended := rest.dropWhile isBlank
      if 0 < breakLength ended then readLines quote (skipLines rest)
      else match escape? rest with
        | some (e, count) => before [e] (readLines quote (rest.drop count))
        | none => none
    else if isPlain c then before [c] (readLines quote rest)
    else none
termination_by cs => cs.length
decreasing_by
  all_goals simp only [List.length_drop, List.length_cons]
  · omega
  · have := length_skipLines_le rest; omega
  all_goals omega

/-- Reads a text in any quotes. A line break right after three quotes is not part of it. -/
def readText (cs : List Char) : Option (Reading (List Char)) :=
  match cs with
  | [] => none
  | quote :: rest =>
    if quote != '"' && quote != '\'' then none
    else if [quote, quote].isPrefixOf rest then
      let body := rest.drop 2
      readLines quote (body.drop (breakLength body))
    else readLine quote rest

/-- Digits without the underscores between them. -/
def ungrouped? (isDigit : Char → Bool) : List Char → Option (List Char)
  | [] => none
  | [d] => if isDigit d then some [d] else none
  | d :: '_' :: rest => if isDigit d then (ungrouped? isDigit rest).map (d :: ·) else none
  | d :: rest => if isDigit d then (ungrouped? isDigit rest).map (d :: ·) else none

/-- Decimal digits that do not start with a needless zero. -/
def wholeDigits? (cs : List Char) : Option (List Char) :=
  (ungrouped? Char.isDigit cs).filter fun ds => ds.length = 1 || ds.head? != some '0'

def numeral? (base : Nat) (cs : List Char) : Option Nat :=
  let value? (c : Char) : Option Nat := (Text.hexValue? c).filter (· < base)
  (ungrouped? (fun c => (value? c).isSome) cs).map fun ds =>
    ds.foldl (fun n d => n * base + (value? d).getD 0) 0

/-- Integers have 64 bits, one of them for the sign. -/
def integerBound : Nat := Nat.pow 2 63

def integerOf? : List Char → Option Int
  | '0' :: 'x' :: cs => unsigned 16 cs
  | '0' :: 'o' :: cs => unsigned 8 cs
  | '0' :: 'b' :: cs => unsigned 2 cs
  | cs => do
    let (negative, digits) := Number.takeSign cs
    let n := Number.digitsValue (← wholeDigits? digits)
    if negative then if n ≤ integerBound then some (-(n : Int)) else none
    else if n < integerBound then some n else none
where
  unsigned (base : Nat) (cs : List Char) : Option Int := do
    let n ← numeral? base cs
    if n < integerBound then some n else none

def isGrouped (c : Char) : Bool := c.isDigit || c = '_'

/-- Whether the rest of a float is an exponent. -/
def isExponent : List Char → Bool
  | [] => false
  | e :: cs => (e = 'e' || e = 'E') && (ungrouped? Char.isDigit (Number.takeSign cs).2).isSome

def isFraction : List Char → Bool
  | '.' :: cs =>
    let rest := cs.dropWhile isGrouped
    (ungrouped? Char.isDigit (cs.takeWhile isGrouped)).isSome && (rest.isEmpty || isExponent rest)
  | _ => false

/-- Whether a word is a float. One that overflows upwards is none. -/
def isFloat (cs : List Char) : Bool :=
  let (negative, unsigned) := Number.takeSign cs
  let rest := unsigned.dropWhile isGrouped
  unsigned ∈ [['i', 'n', 'f'], ['n', 'a', 'n']] ||
    ((wholeDigits? (unsigned.takeWhile isGrouped)).isSome && (isFraction rest || isExponent rest) &&
      (negative || (Number.ofText? (String.ofList (cs.filter (· != '_')))).isSome))

/-- The text after a time of the day. -/
def afterTime? (cs : List Char) : Option (List Char) := do
  let (hour, cs) ← DateTime.number? 2 cs
  let (minute, cs) ← DateTime.number? 2 (← DateTime.literal? ':' cs)
  let (second, cs) ← DateTime.number? 2 (← DateTime.literal? ':' cs)
  if hour ≤ 23 && minute ≤ 59 && second ≤ 60 then DateTime.afterFraction? cs else none

/-- The text after an offset from UTC, if there is one. -/
def afterOffset (cs : List Char) : List Char :=
  match cs with
  | [] => []
  | c :: rest =>
    if c = 'Z' || c = 'z' then rest
    else if (c = '+' || c = '-') && (DateTime.offset? (cs.take 6)).isSome then cs.drop 6
    else cs

def afterDate? (cs : List Char) : Option (List Char) := do
  let (year, cs) ← DateTime.number? 4 cs
  let (month, cs) ← DateTime.number? 2 (← DateTime.literal? '-' cs)
  let (day, cs) ← DateTime.number? 2 (← DateTime.literal? '-' cs)
  if 1 ≤ month && month ≤ 12 && 1 ≤ day && day ≤ DateTime.daysIn year month then some cs else none

/-- The text after a date, a time, or a date with a time. -/
def afterDateTime? (cs : List Char) : Option (List Char) :=
  match afterDate? cs with
  | none => afterTime? cs
  | some [] => some []
  | some (c :: rest) =>
    if c = 'T' || c = 't' || c = ' ' then some (((afterTime? rest).map afterOffset).getD (c :: rest))
    else some (c :: rest)

def isWordChar (c : Char) : Bool := c.isAlphanum || c = '+' || c = '-' || c = '_' || c = '.'

/-- Reads a scalar. -/
def readScalar (cs : List Char) : Option (Reading Toml) :=
  match cs with
  | [] => none
  | c :: _ =>
    if c = '"' || c = '\'' then (readText cs).map fun (text, rest) => (.string (String.ofList text), rest)
    else match afterDateTime? cs with
      | some rest => some (.scalar, rest)
      | none =>
        let word := cs.takeWhile isWordChar
        let rest := cs.drop word.length
        match integerOf? word with
        | some i => some (.integer i, rest)
        | none =>
          if isFloat word || word ∈ [['t', 'r', 'u', 'e'], ['f', 'a', 'l', 's', 'e']] then some (.scalar, rest)
          else none

end PolicyEngine.Toml
