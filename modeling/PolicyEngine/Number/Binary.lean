/-! Binary64 numbers as exact values: the parts of a bit pattern and the number nearest to a
fraction. Arithmetic and comparison stay those of `Float`; this module only reads and writes bits. -/
namespace PolicyEngine.Number

/-- The value `significand * 2 ^ exponent` under a sign. -/
structure Parts where
  negative : Bool
  significand : Nat
  exponent : Int
  deriving Repr, DecidableEq

/-- What a bit pattern stands for. -/
inductive View where
  | nan
  | infinite (negative : Bool)
  | finite (parts : Parts)
  deriving Repr, DecidableEq

def view (x : Float) : View :=
  let bits := x.toBits.toNat
  let negative := decide (Nat.pow 2 63 ≤ bits)
  let biased : Nat := bits / Nat.pow 2 52 % Nat.pow 2 11
  let fraction : Nat := bits % Nat.pow 2 52
  if biased = 2047 then
    if fraction = 0 then .infinite negative else .nan
  else if biased = 0 then .finite ⟨negative, fraction, -1074⟩
  else .finite ⟨negative, Nat.pow 2 52 + fraction, (biased : Int) - 1075⟩

/-- The number with this sign whose remaining 63 bits are `magnitude`. -/
def ofMagnitude (negative : Bool) (magnitude : Nat) : Float :=
  Float.ofBits (UInt64.ofNat (if negative then Nat.pow 2 63 + magnitude else magnitude))

/-- The 63 bits of an infinity, above those of every finite number. -/
def infiniteMagnitude : Nat := 2047 * Nat.pow 2 52

def zero (negative : Bool) : Float := ofMagnitude negative 0

def infinity (negative : Bool) : Float := ofMagnitude negative infiniteMagnitude

/-- The quotient rounded to the nearest integer, a half to the even one. -/
def roundDiv (num den : Nat) : Nat :=
  let quotient := num / den
  let twice := 2 * (num % den)
  if twice < den then quotient
  else if den < twice then quotient + 1
  else if quotient % 2 = 0 then quotient else quotient + 1

/-- `num / den` as a fraction of the unit `base ^ exponent`. -/
def inUnits (base num den : Nat) (exponent : Int) : Nat × Nat :=
  if 0 ≤ exponent then (num, den * Nat.pow base exponent.toNat) else (num * Nat.pow base (-exponent).toNat, den)

/-- The power of two that is one unit in the last place near `num / den`. -/
def unitExponent (num den : Nat) : Int :=
  let e := max ((num.log2 : Int) - den.log2 - 53) (-1074)
  let (n, d) := inUnits 2 num den e
  if n / d < Nat.pow 2 53 then e else e + 1

/-- The number nearest to `num / den`, a tie going to the even significand. A significand that
rounds up to `2 ^ 53` carries into the exponent bits, and past the largest number into infinity. -/
def ofFraction (negative : Bool) (num den : Nat) : Float :=
  if num = 0 then zero negative
  else
    let e := unitExponent num den
    let (n, d) := inUnits 2 num den e
    ofMagnitude negative (min infiniteMagnitude ((e + 1074).toNat * Nat.pow 2 52 + roundDiv n d))

def ofNat (n : Nat) : Float := ofFraction false n 1

def Parts.numerator (p : Parts) : Nat := p.significand * Nat.pow 2 p.exponent.toNat

def Parts.denominator (p : Parts) : Nat := Nat.pow 2 (-p.exponent).toNat

/-- The integer part of the magnitude. -/
def Parts.floor (p : Parts) : Nat := p.numerator / p.denominator

def Parts.isWhole (p : Parts) : Bool := p.numerator % p.denominator == 0

/-- The integer that a number is equal to, if it is one. -/
def toInt? (x : Float) : Option Int :=
  match view x with
  | .finite p => if p.isWhole then some (if p.negative then -(p.floor : Int) else p.floor) else none
  | _ => none

@[simp] theorem toInt?_of_nan {x : Float} (h : view x = .nan) : toInt? x = none := by
  simp [toInt?, h]

@[simp] theorem toInt?_of_infinite {x : Float} {negative : Bool} (h : view x = .infinite negative) :
    toInt? x = none := by
  simp [toInt?, h]

example : ofFraction false 1 10 = 0.1 := by decide
example : ofFraction true 1 (Nat.pow 2 1075) = -0.0 := by decide +kernel
example : ofFraction false (Nat.pow 2 1024) 1 = infinity false := by decide +kernel
example : toInt? (-15.0) = some (-15) ∧ toInt? 0.5 = none := by decide

end PolicyEngine.Number
