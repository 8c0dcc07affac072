/-! UTF-8: the characters that bytes encode. A byte that belongs to no character is kept apart. -/
namespace PolicyEngine.Text.Utf8

/-- The payload of a byte that continues a character. -/
def continuation? (b : UInt8) : Option Nat :=
  if 0x80 ≤ b && b < 0xc0 then some (b.toNat - 0x80) else none

/-- The character with a code, which must be too large for fewer bytes. -/
def checked? (least code : Nat) : Option Char :=
  if least ≤ code && code.isValidChar then some (Char.ofNat code) else none

/-- The character of several bytes, the first of which is not ASCII, and how many they are. -/
def wide? (first : UInt8) (rest : List UInt8) : Option (Char × Nat) := do
  let second ← rest.head?.bind continuation?
  if first < 0xc0 then none
  else if first < 0xe0 then
    return (← checked? 0x80 ((first.toNat - 0xc0) * 0x40 + second), 2)
  else
    let third ← rest[1]?.bind continuation?
    if first < 0xf0 then
      return (← checked? 0x800 (((first.toNat - 0xe0) * 0x40 + second) * 0x40 + third), 3)
    else
      let fourth ← rest[2]?.bind continuation?
      if first < 0xf8 then
        return (← checked? 0x10000 ((((first.toNat - 0xf0) * 0x40 + second) * 0x40 + third) * 0x40 + fourth), 4)
      else none

/-- The characters of some bytes, and the bytes that are part of none. -/
def decode : List UInt8 → List (UInt8 ⊕ Char)
  | [] => []
  | b :: rest =>
    if b < 0x80 then .inr (Char.ofNat b.toNat) :: decode rest
    else match wide? b rest with
      | some (c, size) => .inr c :: decode (rest.drop (size - 1))
      | none => .inl b :: decode rest
termination_by bytes => bytes.length
decreasing_by all_goals simp only [List.length_cons, List.length_drop]; omega

/-- The text of some bytes, all of which must belong to characters. -/
def text? (bytes : List UInt8) : Option String :=
  ((decode bytes).mapM Sum.getRight?).map String.ofList

example : text? [0x61, 0xc3, 0xa9, 0xf0, 0x9f, 0x98, 0x80] = some "aé😀" := by decide +kernel
example : text? [0xc0, 0x80] = none ∧ text? [0xed, 0xa0, 0x80] = none := by decide +kernel

end PolicyEngine.Text.Utf8
