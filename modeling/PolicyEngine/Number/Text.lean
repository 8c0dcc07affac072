import PolicyEngine.Number.Shortest

/-! Written forms of numbers: the display form, the form with fixed places, and the form of JSON
text. -/
namespace PolicyEngine.Number

def zeros (n : Nat) : List Char := List.replicate n '0'

/-- The digits of a natural number in base ten. -/
def digitsOf (n : Nat) : List Char := Nat.toDigits 10 n

@[simp] theorem digitsValue_digitsOf (n : Nat) : digitsValue (digitsOf n) = n :=
  Nat.ofDigitChars_ten_toDigits

/-- `digits * 10 ^ exponent` without an exponent, with at least one digit before the point. -/
def positional (digits : List Char) (exponent : Int) : List Char :=
  if 0 ≤ exponent then digits ++ zeros exponent.toNat
  else
    let places := (-exponent).toNat
    let padded := zeros (places + 1 - digits.length) ++ digits
    padded.take (padded.length - places) ++ '.' :: padded.drop (padded.length - places)

def signText (negative : Bool) : List Char := if negative then ['-'] else []

/-- The display form: shortest digits, never an exponent; of two equally near decimals the larger
magnitude. Negative zero keeps its sign. -/
def displayChars (x : Float) : List Char :=
  match view x with
  | .nan => ['N', 'a', 'N']
  | .infinite negative => signText negative ++ ['i', 'n', 'f']
  | .finite p =>
    let (digits, exponent) := shortest .up p
    signText p.negative ++ positional (digitsOf digits) exponent

def display (x : Float) : String := String.ofList (displayChars x)

/-- The display form rounded to a number of places, a tie of the exact value going to even. -/
def fixed (places : Nat) (x : Float) : String :=
  match view x with
  | .finite p =>
    let digits := digitsOf (roundDiv (p.numerator * Nat.pow 10 places) p.denominator)
    String.ofList (signText p.negative ++ positional digits (-places))
  | _ => display x

/-- Where JSON text counts every integer exactly. -/
def exactIntegerBound : Int := Nat.pow 2 53

/-- The integer as which JSON text writes a number. -/
def jsonInt? (x : Float) : Option Int :=
  (toInt? x).filter fun i => -exactIntegerBound < i ∧ i < exactIntegerBound

def intChars (i : Int) : List Char := signText (i < 0) ++ digitsOf i.natAbs

/-- The JSON form of a number that is not written as an integer. The leading digit's exponent
decides between plain digits, with `.0` after a whole number, and a signed exponent. Infinities and
NaN have no JSON form. -/
def jsonReal? (x : Float) : Option (List Char) :=
  match view x with
  | .finite p =>
    let (digits, exponent) := shortest .toEven p
    let ds := digitsOf digits
    let lead := exponent + ds.length - 1
    let magnitude :=
      if -5 ≤ lead ∧ lead < 16 then
        if 0 ≤ exponent then positional ds exponent ++ ['.', '0'] else positional ds exponent
      else
        let mantissa := if ds.length ≤ 1 then ds else ds.take 1 ++ '.' :: ds.drop 1
        mantissa ++ 'e' :: (if lead < 0 then '-' else '+') :: digitsOf lead.natAbs
    some (signText p.negative ++ magnitude)
  | _ => none

example : displayChars 1e21 = digitsOf (Nat.pow 10 21) := by decide +kernel
example : displayChars (-0.0) = ['-', '0'] := by decide

end PolicyEngine.Number
