import PolicyEngine.Json.Basic
import PolicyEngine.Json.Node
import PolicyEngine.Proofs.Number.Display

/-! Written texts and numbers as they are read: each spelling is read to its end, whatever follows it. Only a
number asks for something that ends it. -/
namespace PolicyEngine.Json

/-! Quoted texts -/

/-- The piece that a written character is read as: control characters without a letter of their own are
units. -/
def piece (c : Char) : Piece :=
  if c.toNat < 0x20 ∧ c.toNat ∉ [8, 9, 10, 12, 13] then .unit c.toNat else .char c

theorem readQuoted_letter {e c : Char} (he : e ≠ 'u') (hc : simpleEscape? e = some c) (rest : List Char) :
    readQuoted ('\\' :: e :: rest) = (readQuoted rest).map fun (pieces, after) => (.char c :: pieces, after) := by
  rw [readQuoted.eq_def]
  split
  · next heq => cases heq
  · next heq => cases heq
  · next heq => exact absurd (List.cons.inj (List.cons.inj heq).2).1 he
  · next heq =>
    cases heq
    rw [hc]
    cases readQuoted rest <;> rfl
  · next hslash heq =>
    cases heq
    exact absurd rfl (hslash e rest rfl)

theorem readQuoted_unit {a b : Char} {code : Nat} (hcode : Text.hexNumber? ['0', '0', a, b] = some code)
    (rest : List Char) :
    readQuoted ('\\' :: 'u' :: '0' :: '0' :: a :: b :: rest) =
      (readQuoted rest).map fun (pieces, after) => (.unit code :: pieces, after) := by
  rw [readQuoted.eq_def]
  simp only [hcode]
  cases readQuoted rest <;> rfl

theorem readQuoted_plain {c : Char} (hquote : c ≠ '"') (hslash : c ≠ '\\') (hlow : ¬ c.toNat < 0x20)
    (rest : List Char) :
    readQuoted (c :: rest) = (readQuoted rest).map fun (pieces, after) => (.char c :: pieces, after) := by
  rw [readQuoted.eq_def]
  split
  · next heq => cases heq
  · next heq => exact absurd (List.cons.inj heq).1 hquote
  · next heq => exact absurd (List.cons.inj heq).1 hslash
  · next heq => exact absurd (List.cons.inj heq).1 hslash
  · next heq =>
    cases heq
    rw [if_neg (by simp [hlow, hslash])]

theorem readQuoted_escapeChar (c : Char) (rest : List Char) :
    readQuoted (escapeChar c ++ rest) =
      (readQuoted rest).map fun (pieces, after) => (piece c :: pieces, after) := by
  have hletter : ∀ e, e ≠ 'u' → simpleEscape? e = some c → piece c = .char c →
      readQuoted (['\\', e] ++ rest) =
        (readQuoted rest).map fun (pieces, after) => (piece c :: pieces, after) := by
    intro e he hc hpiece
    rw [hpiece]
    exact readQuoted_letter he hc rest
  have hnat : ∀ n, c.toNat = n → c = Char.ofNat n := by
    rintro n rfl
    exact (Char.ofNat_toNat c).symm
  unfold escapeChar
  split
  · next h => exact hletter _ (by decide) (by rw [h]; rfl) (by rw [h]; rfl)
  split
  · next h => exact hletter _ (by decide) (by rw [h]; rfl) (by rw [h]; rfl)
  split
  · next h => exact hletter _ (by decide) (by rw [hnat _ h]; rfl) (by rw [hnat _ h]; rfl)
  split
  · next h => exact hletter _ (by decide) (by rw [hnat _ h]; rfl) (by rw [hnat _ h]; rfl)
  split
  · next h => exact hletter _ (by decide) (by rw [hnat _ h]; rfl) (by rw [hnat _ h]; rfl)
  split
  · next h => exact hletter _ (by decide) (by rw [hnat _ h]; rfl) (by rw [hnat _ h]; rfl)
  split
  · next h => exact hletter _ (by decide) (by rw [hnat _ h]; rfl) (by rw [hnat _ h]; rfl)
  split
  · next hquote hslash h8 h9 h10 h12 h13 hlow =>
    have hunit : ∀ n < 0x20, Text.hexNumber? ['0', '0', Text.hexDigit (n / 16), Text.hexDigit (n % 16)] = some n := by
      decide
    have hpiece : piece c = .unit c.toNat := if_pos ⟨hlow, by simp [h8, h9, h10, h12, h13]⟩
    rw [hpiece]
    exact readQuoted_unit (hunit _ hlow) rest
  · next hquote hslash h8 h9 h10 h12 h13 hlow =>
    have hpiece : piece c = .char c := if_neg fun h => hlow h.1
    rw [hpiece]
    exact readQuoted_plain hquote hslash hlow rest

theorem readQuoted_quoteChars (cs rest : List Char) :
    readQuoted (cs.flatMap escapeChar ++ '"' :: rest) = some (cs.map piece, rest) := by
  induction cs with
  | nil => rfl
  | cons c cs ih =>
    rw [List.flatMap_cons, List.append_assoc, readQuoted_escapeChar, ih]
    rfl

theorem decode_piece_cons (c : Char) (rest : List Piece) :
    Piece.decode (piece c :: rest) = (Piece.decode rest).map (c :: ·) := by
  unfold piece
  split
  · next h =>
    have hhigh : Piece.isHighSurrogate c.toNat = false := by
      simp only [Piece.isHighSurrogate, Bool.and_eq_false_imp, decide_eq_true_eq]
      omega
    have hlow : Piece.isLowSurrogate c.toNat = false := by
      simp only [Piece.isLowSurrogate, Bool.and_eq_false_imp, decide_eq_true_eq]
      omega
    cases rest with
    | nil => simp [Piece.decode, hhigh, hlow]
    | cons next rest => cases next <;> simp [Piece.decode, hhigh, hlow]
  · rfl

/-- A written text is read as itself. -/
theorem text?_map_piece (s : String) : Piece.text? (s.toList.map piece) = some s := by
  have hdecode : ∀ cs : List Char, Piece.decode (cs.map piece) = some cs := by
    intro cs
    induction cs with
    | nil => rfl
    | cons c cs ih => rw [List.map_cons, decode_piece_cons, ih, Option.map_some]
  rw [Piece.text?, hdecode, Option.map_some, String.ofList_toList]

end PolicyEngine.Json
