import PolicyEngine.Rule.Coercion

/-! Sums, counts, extremes and averages of the array at a path. Every one of them is zero on an empty
array. -/
namespace PolicyEngine.AggregateOp

/-- The items as numbers, or the first that is none. -/
def numbers (path : Path) : List Value → Except RuleError (List Float)
  | [] => .ok []
  | item :: rest =>
    match item.toNumber? with
    | some x => (numbers path rest).map (x :: ·)
    | none => .error (.coercion (.item path item))

/-- The greater of two numbers, the first of equal ones; a NaN gives way. -/
def greater (x y : Float) : Float := if x.isNaN || x < y then y else x

/-- The lesser of two numbers, the first of equal ones; a NaN gives way. -/
def lesser (x y : Float) : Float := if x.isNaN || y < x then y else x

/-- Adds from left to right, from negative zero on. -/
def total (xs : List Float) : Float := xs.foldl (· + ·) (-0.0)

def fold : AggregateOp → List Float → Float
  | sum, xs => total xs
  | count, xs => Number.ofNat xs.length
  | max, xs => xs.foldl greater (Number.infinity true)
  | min, xs => xs.foldl lesser (Number.infinity false)
  | average, xs => total xs / Number.ofNat xs.length

/-- The aggregate of some items; counting takes items of any kind. -/
def ofItems (op : AggregateOp) (path : Path) (items : List Value) : Except RuleError Float :=
  if items.isEmpty then .ok 0.0
  else if op = count then .ok (Number.ofNat items.length)
  else (numbers path items).map op.fold

/-- The aggregate of the array at a path. -/
def evaluate (op : AggregateOp) (doc : Value) (path : Path) : Except RuleError Float :=
  match doc.get path with
  | .error fault => .error (.access fault)
  | .ok (some (.array items)) => op.ofItems path items
  | .ok _ => .error (.notASequence path)

end PolicyEngine.AggregateOp
