import PolicyEngine.Number.Decimal

/-! Numbers as JSON text spells them, and the value that a spelling has. The significand is kept in
64 bits; the digits that do not fit only count towards the exponent. It is rounded once as an
integer and once more by the one product or quotient with a power of ten. -/
namespace PolicyEngine.Json

/-- The digits of a JSON number. `fraction` is empty where there is no point, and the exponent is
its sign and digits. -/
structure NumberText where
  negative : Bool
  whole : List Char
  fraction : List Char
  exponent : Option (Bool × List Char)
  deriving Repr, DecidableEq

def maxWord : Nat := Nat.pow 2 64 - 1

/-- Extends a significand by digits while it stays in 64 bits, and counts the digits taken. -/
def extend (significand : Nat) : List Char → Nat × Nat
  | [] => (significand, 0)
  | d :: ds =>
    let next := significand * 10 + (d.toNat - '0'.toNat)
    if maxWord < next then (significand, 0)
    else
      let (result, taken) := extend next ds
      (result, taken + 1)

/-- Largest exponent digits that are read as a number. -/
def maxExponent : Nat := Nat.pow 2 31 - 1

def powerOfTen (n : Nat) : Float := Number.ofNat (Nat.pow 10 n)

/-- A magnitude times a power of ten, one rounding a step. No value when it overflows; dividing
below the least power of ten goes in steps of 308. -/
def scale (x : Float) (exponent : Int) : Option Float :=
  if 308 < exponent then if x == 0.0 then some x else none
  else if 0 ≤ exponent then (some (x * powerOfTen exponent.toNat)).filter Float.isFinite
  else if -308 ≤ exponent then some (x / powerOfTen (-exponent).toNat)
  else if x == 0.0 then some x
  else if exponent < -1000 then some 0.0
  else scale (x / powerOfTen 308) (exponent + 308)
termination_by (-exponent).toNat
decreasing_by omega

namespace NumberText

/-- The magnitude, unless it overflows. An integer below `2 ^ 64` is rounded once. -/
def magnitude? (n : NumberText) : Option Float :=
  let (leading, taken) := extend 0 n.whole
  let skipped := n.whole.length - taken
  if n.fraction.isEmpty && n.exponent.isNone && skipped = 0 then some (Number.ofNat leading)
  else
    let (significand, places) := extend leading n.fraction
    let shift : Int := skipped - places
    let value := Number.ofNat significand
    match n.exponent with
    | none => scale value shift
    | some (negative, digits) =>
      let e := Number.digitsValue digits
      if maxExponent < e then if significand = 0 || negative then some 0.0 else none
      else scale value (if negative then shift - e else shift + e)

def toNumber? (n : NumberText) : Option Float :=
  n.magnitude?.map fun x => if n.negative then -x else x

end NumberText

end PolicyEngine.Json
