import PolicyEngine.Number.Binary

/-! Decimal text as numbers: an optional sign, digits with an optional point, an optional exponent.
A text reads as the number nearest to its exact value. -/
namespace PolicyEngine.Number

/-- The value `digits * 10 ^ exponent` under a sign. -/
structure Decimal where
  negative : Bool
  digits : Nat
  exponent : Int
  deriving Repr, DecidableEq

namespace Decimal

/-- The nearest number. Values beyond every binary64 magnitude are decided by their exponent, so
that no power of ten is larger than the numbers can tell apart. -/
def toNumber (d : Decimal) : Float :=
  if d.digits = 0 then zero d.negative
  else if 310 < d.exponent then infinity d.negative
  else if d.exponent < -(400 + d.digits.log2 : Int) then zero d.negative
  else
    let (num, den) := inUnits 10 d.digits 1 (-d.exponent)
    ofFraction d.negative num den

end Decimal

/-- The leading ASCII digits and the text after them. -/
def digitRun (cs : List Char) : List Char × List Char := (cs.takeWhile Char.isDigit, cs.dropWhile Char.isDigit)

@[simp] theorem digitRun_append (cs : List Char) : (digitRun cs).1 ++ (digitRun cs).2 = cs :=
  List.takeWhile_append_dropWhile

theorem isDigit_of_mem_digitRun {cs : List Char} {c : Char} (h : c ∈ (digitRun cs).1) : c.isDigit := by
  have := List.all_takeWhile (l := cs) (p := Char.isDigit)
  exact List.all_eq_true.1 this c h

/-- The number that a list of digits writes in base ten. -/
def digitsValue (ds : List Char) : Nat := Nat.ofDigitChars 10 ds 0

/-- An optional sign: whether it is a minus, and the text after it. -/
def takeSign : List Char → Bool × List Char
  | '-' :: cs => (true, cs)
  | '+' :: cs => (false, cs)
  | cs => (false, cs)

/-- A natural number below a bound, in digits with an optional plus. -/
def naturalBelow? (bound : Nat) (text : List Char) : Option Nat :=
  let digits := match text with
    | '+' :: rest => rest
    | _ => text
  if digits.isEmpty || !digits.all Char.isDigit then none
  else
    let n := digitsValue digits
    if n < bound then some n else none

/-- The fraction digits after a point, if there is a point. -/
def takeFraction : List Char → List Char × List Char
  | '.' :: cs => digitRun cs
  | cs => ([], cs)

/-- An exponent that ends the text; a text that ends at once has exponent zero. -/
def exponentOf? : List Char → Option Int
  | [] => some 0
  | e :: cs =>
    if e = 'e' ∨ e = 'E' then
      let (negative, digits) := takeSign cs
      if digits.isEmpty || !digits.all Char.isDigit then none
      else some (if negative then -(digitsValue digits : Int) else digitsValue digits)
    else none

/-- Reads a whole text as a decimal. Digits may be missing before the point or after it, not on
both sides. -/
def Decimal.ofText? (cs : List Char) : Option Decimal :=
  let (negative, unsigned) := takeSign cs
  let (whole, afterWhole) := digitRun unsigned
  let (fraction, afterFraction) := takeFraction afterWhole
  if whole.isEmpty && fraction.isEmpty then none
  else (exponentOf? afterFraction).map fun exponent =>
    ⟨negative, digitsValue (whole ++ fraction), exponent - fraction.length⟩

/-- A text as a finite number; a text whose magnitude overflows is not one. -/
def ofText? (text : String) : Option Float :=
  ((Decimal.ofText? text.toList).map Decimal.toNumber).filter Float.isFinite

theorem isFinite_of_ofText? {text : String} {x : Float} (h : ofText? text = some x) : x.isFinite := by
  simp only [ofText?, Option.filter_eq_some_iff] at h
  exact h.2

example : ofText? "+.5e1" = some 5.0 := by decide
example : ofText? "." = none ∧ ofText? "1e309" = none ∧ ofText? "1e" = none := by decide +kernel

end PolicyEngine.Number
