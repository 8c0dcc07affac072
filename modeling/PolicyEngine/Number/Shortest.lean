import PolicyEngine.Number.Decimal

/-! The fewest digits that read back as a given number, and of those the nearest. Each digit count
is tried with the two decimals around the value; a decimal counts only if reading it gives the
number. -/
namespace PolicyEngine.Number

/-- Which of two equally near decimals is written. -/
inductive Tie where
  | toEven
  | up
  deriving Repr, DecidableEq

/-- Whether `10 ^ k ≤ num / den`. -/
def tenPowLe (num den : Nat) (k : Int) : Bool :=
  let (n, d) := inUnits 10 num den k
  d ≤ n

/-- The `k` with `10 ^ k ≤ num / den < 10 ^ (k + 1)`. The bit lengths leave three candidates. -/
def leadingExponent (num den : Nat) : Int :=
  let k := (((num.log2 : Int) - den.log2) * 30103).fdiv 100000
  if tenPowLe num den (k + 1) then k + 1 else if tenPowLe num den k then k else k - 1

/-- The two decimals around `num / den` in units of `10 ^ exponent`, the preferred one first. -/
def neighbours (tie : Tie) (num den : Nat) (exponent : Int) : List Nat :=
  let (n, d) := inUnits 10 num den exponent
  let low := n / d
  let rest := n % d
  if rest = 0 then [low]
  else
    let lowFirst := if 2 * rest = d then tie = .toEven ∧ low % 2 = 0 else 2 * rest < d
    if lowFirst then [low, low + 1] else [low + 1, low]

/-- Moves trailing zeros of the digits into the exponent. -/
def dropZeros (digits : Nat) (exponent : Int) : Nat × Int :=
  if h : digits ≠ 0 ∧ digits % 10 = 0 then dropZeros (digits / 10) (exponent + 1) else (digits, exponent)
termination_by digits
decreasing_by omega

/-- The exact value in decimal. -/
def exactDigits (p : Parts) : Nat × Int :=
  if 0 ≤ p.exponent then (p.significand * Nat.pow 2 p.exponent.toNat, 0)
  else (p.significand * Nat.pow 5 (-p.exponent).toNat, p.exponent)

/-- Digits and power of ten of the shortest decimal for a finite magnitude. Seventeen digits tell
any two numbers apart, so the exact expansion at the end only closes the search. -/
def shortest (tie : Tie) (p : Parts) : Nat × Int :=
  if p.significand = 0 then (0, 0)
  else
    let num := p.numerator
    let den := p.denominator
    let target := ofFraction false num den
    let top := leadingExponent num den
    let hit (count : Nat) : Option (Nat × Int) :=
      let exponent := top - count
      ((neighbours tie num den exponent).find? fun d => (Decimal.mk false d exponent).toNumber = target).map
        (·, exponent)
    let (digits, exponent) := ((List.range 17).findSome? hit).getD (exactDigits p)
    dropZeros digits exponent

end PolicyEngine.Number
