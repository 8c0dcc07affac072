import PolicyEngine.Document.Text
import PolicyEngine.Json.Node
import PolicyEngine.Proofs.Number.Comparison
import PolicyEngine.Proofs.Number.Display

/-! Written numbers as they are read. Every finite number is written as a numeral of the grammar, and a whole
number below the bound of exact integers reads back as an equal number. -/
namespace PolicyEngine

namespace Number

theorem head?_digitsOf {n : Nat} (h : n ≠ 0) : (digitsOf n).head? ≠ some '0' := by
  induction n using Nat.strongRecOn with
  | _ n ih =>
    unfold digitsOf
    by_cases hlt : n < 10
    · have hdigit : ∀ n < 10, n ≠ 0 → n.digitChar ≠ '0' := by decide
      rw [Nat.toDigits_of_lt_base hlt]
      simpa using hdigit n hlt h
    · obtain ⟨c, cs, hdigits⟩ := List.exists_cons_of_ne_nil (digitsOf_ne_nil (n / 10))
      have hprevious := ih (n / 10) (by omega) (by omega)
      rw [Nat.toDigits_of_base_le (by decide) (by omega)]
      rw [hdigits] at hprevious
      rw [show Nat.toDigits 10 (n / 10) = c :: cs from hdigits]
      exact hprevious

end Number

namespace Json
open Number (signText pointed digitRun digitsOf zeros)

/-- Where a written number ends. -/
def EndsNumber (rest : List Char) : Prop := ∀ c ∈ rest.head?, c.isDigit = false ∧ c ≠ '.' ∧ c ≠ 'e' ∧ c ≠ 'E'

namespace NumberText

def exponentChars : Option (Bool × List Char) → List Char
  | none => []
  | some (negative, digits) => 'e' :: (if negative then '-' else '+') :: digits

def chars (n : NumberText) : List Char :=
  signText n.negative ++ (n.whole ++ (pointed n.fraction ++ exponentChars n.exponent))

/-- Numerals of the grammar. -/
structure WellFormed (n : NumberText) : Prop where
  nonempty : n.whole ≠ []
  whole : ∀ c ∈ n.whole, c.isDigit
  leading : n.whole.head? = some '0' → n.whole.length = 1
  fraction : ∀ c ∈ n.fraction, c.isDigit
  exponent : ∀ e ∈ n.exponent, e.2 ≠ [] ∧ ∀ c ∈ e.2, c.isDigit

theorem WellFormed.head {n : NumberText} (h : n.WellFormed) :
    ∃ c cs, n.chars = c :: cs ∧ (c = '-' ∨ c.isDigit = true) := by
  obtain ⟨d, ds, hwhole⟩ := List.exists_cons_of_ne_nil h.nonempty
  cases hnegative : n.negative with
  | true =>
    refine ⟨'-', n.whole ++ (pointed n.fraction ++ exponentChars n.exponent), ?_, .inl rfl⟩
    simp [chars, hnegative, signText]
  | false =>
    refine ⟨d, ds ++ (pointed n.fraction ++ exponentChars n.exponent), ?_, .inr ?_⟩
    · simp [chars, hnegative, signText, hwhole]
    · exact h.whole d (by rw [hwhole]; exact List.mem_cons_self)

theorem readExponent_chars {exponent : Option (Bool × List Char)} {rest : List Char}
    (h : ∀ e ∈ exponent, e.2 ≠ [] ∧ ∀ c ∈ e.2, c.isDigit) (hrest : EndsNumber rest) :
    readExponent (exponentChars exponent ++ rest) = some (exponent, rest) := by
  cases exponent with
  | none =>
    cases rest with
    | nil => rfl
    | cons c rest =>
      obtain ⟨-, -, he, hE⟩ := hrest c rfl
      change readExponent (c :: rest) = _
      rw [readExponent, if_neg (not_or.2 ⟨he, hE⟩)]
  | some e =>
    obtain ⟨negative, digits⟩ := e
    obtain ⟨hne, hdigits⟩ := h _ rfl
    have hrun := Number.digitRun_of_all rest hdigits fun c hc => (hrest c hc).1
    have hempty : digits.isEmpty = false := by simpa using hne
    cases negative with
    | true =>
      change readExponent ('e' :: '-' :: (digits ++ rest)) = _
      simp [readExponent, Number.takeSign, hrun, hempty]
    | false =>
      change readExponent ('e' :: '+' :: (digits ++ rest)) = _
      simp [readExponent, Number.takeSign, hrun, hempty]

theorem head?_exponentChars (exponent : Option (Bool × List Char)) {rest : List Char} (hrest : EndsNumber rest) :
    ∀ c ∈ (exponentChars exponent ++ rest).head?, c.isDigit = false ∧ c ≠ '.' := by
  cases exponent with
  | none => exact fun c hc => ⟨(hrest c hc).1, (hrest c hc).2.1⟩
  | some e =>
    intro c hc
    cases hc
    decide

theorem takeFraction_chars {fraction : List Char} {rest : List Char} (h : ∀ c ∈ fraction, c.isDigit)
    (hrest : ∀ c ∈ rest.head?, c.isDigit = false ∧ c ≠ '.') :
    Number.takeFraction (pointed fraction ++ rest) = (fraction, rest) := by
  cases fraction with
  | nil =>
    cases rest with
    | nil => rfl
    | cons c rest =>
      change Number.takeFraction (c :: rest) = _
      unfold Number.takeFraction
      split
      · next heq => exact absurd (List.cons.inj heq).1 (hrest c rfl).2
      · rfl
  | cons d ds =>
    change digitRun (d :: ds ++ rest) = _
    exact Number.digitRun_of_all rest h fun c hc => (hrest c hc).1

theorem takeMinus_signText {negative : Bool} {cs : List Char} (h : cs.head? ≠ some '-') :
    takeMinus (signText negative ++ cs) = (negative, cs) := by
  cases negative with
  | true => rfl
  | false =>
    change takeMinus cs = _
    unfold takeMinus
    split
    · exact absurd rfl h
    · rfl

/-- Numerals are read up to their end. -/
theorem WellFormed.readNumber {n : NumberText} (h : n.WellFormed) {rest : List Char} (hrest : EndsNumber rest) :
    Json.readNumber (n.chars ++ rest) = some (n, rest) := by
  have hexponent := head?_exponentChars n.exponent hrest
  obtain ⟨d, ds, hwhole⟩ := List.exists_cons_of_ne_nil h.nonempty
  have hminus : (n.whole ++ (pointed n.fraction ++ exponentChars n.exponent) ++ rest).head? ≠ some '-' := by
    have hd := h.whole d (by rw [hwhole]; exact List.mem_cons_self)
    rw [hwhole]
    rintro heq
    cases heq
    exact absurd hd (by decide)
  have hstop : ∀ c ∈ (pointed n.fraction ++ (exponentChars n.exponent ++ rest)).head?, c.isDigit = false := by
    unfold pointed
    split
    · exact fun c hc => (hexponent c hc).1
    · intro c hc
      cases hc
      decide
  have hrun : digitRun (n.whole ++ (pointed n.fraction ++ (exponentChars n.exponent ++ rest))) =
      (n.whole, pointed n.fraction ++ (exponentChars n.exponent ++ rest)) :=
    Number.digitRun_of_all _ h.whole hstop
  have hleading : (n.whole.isEmpty || (n.whole.head? = some '0' && n.whole.length != 1)) = false := by
    have hempty : n.whole.isEmpty = false := by simpa using h.nonempty
    by_cases hzero : n.whole.head? = some '0'
    · simp [hempty, h.leading hzero]
    · simp [hempty, hzero]
  have hpoint : ((pointed n.fraction ++ (exponentChars n.exponent ++ rest)).head? = some '.' &&
      n.fraction.isEmpty) = false := by
    cases hfraction : n.fraction with
    | nil =>
      simp only [pointed, List.isEmpty_nil, if_true, List.nil_append, Bool.and_true, decide_eq_false_iff_not]
      exact fun heq => (hexponent '.' heq).2 rfl
    | cons d ds => simp
  unfold Json.readNumber
  rw [chars, List.append_assoc, takeMinus_signText hminus, List.append_assoc, List.append_assoc]
  simp only [hrun, takeFraction_chars h.fraction hexponent, hleading, hpoint, readExponent_chars h.exponent hrest]
  rfl

/-- The numeral of an integer. -/
def ofInt (i : Int) : NumberText := ⟨decide (i < 0), digitsOf i.natAbs, [], none⟩

theorem chars_ofInt (i : Int) : (ofInt i).chars = Number.intChars i := by
  simp [chars, ofInt, Number.intChars, pointed, exponentChars]

theorem wellFormed_ofInt (i : Int) : (ofInt i).WellFormed := by
  refine ⟨Number.digitsOf_ne_nil _, fun c hc => Number.isDigit_of_mem_digitsOf hc, fun hzero => ?_, by simp [ofInt],
    by simp [ofInt]⟩
  by_cases h : i.natAbs = 0
  · simp only [ofInt, h]
    rfl
  · exact absurd hzero (Number.head?_digitsOf h)

end NumberText

/-! Reals -/

/-- With leading digits, zeros after them leave no leading zero. -/
theorem wellFormed_zeros (negative : Bool) {n : Nat} (hn : n ≠ 0) (k : Nat) :
    NumberText.WellFormed ⟨negative, digitsOf n ++ zeros k, ['0'], none⟩ := by
  obtain ⟨d, ds, hdigits⟩ := List.exists_cons_of_ne_nil (Number.digitsOf_ne_nil n)
  have hhead := Number.head?_digitsOf hn
  refine ⟨by simp [hdigits], fun c hc => ?_, fun hzero => ?_, by simp, by simp⟩
  · rcases List.mem_append.1 hc with hc | hc
    · exact Number.isDigit_of_mem_digitsOf hc
    · exact Number.isDigit_of_mem_zeros hc
  · rw [hdigits] at hhead hzero
    exact absurd hzero hhead

theorem wellFormed_scientific (negative small : Bool) (n k : Nat) :
    NumberText.WellFormed ⟨negative, (digitsOf n).take 1, (digitsOf n).drop 1, some (small, digitsOf k)⟩ := by
  obtain ⟨d, ds, hdigits⟩ := List.exists_cons_of_ne_nil (Number.digitsOf_ne_nil n)
  have hall : ∀ c ∈ digitsOf n, c.isDigit := fun c hc => Number.isDigit_of_mem_digitsOf hc
  refine ⟨by simp [hdigits], fun c hc => hall c (List.mem_of_mem_take hc), fun _ => by simp [hdigits],
    fun c hc => hall c (List.mem_of_mem_drop hc), ?_⟩
  rintro e ⟨⟩
  exact ⟨Number.digitsOf_ne_nil k, fun c hc => Number.isDigit_of_mem_digitsOf hc⟩

/-- A finite number that is not zero has digits that are not all zero. -/
theorem shortest_ne_zero {x : Float} {p : Number.Parts} (h : Number.view x = .finite p) (hp : p.significand ≠ 0)
    (tie : Number.Tie) : (Number.shortest tie p).1 ≠ 0 := by
  intro hzero
  have hcanonical := Number.canonical_of_view h
  have hread := Number.toNumber_shortest tie p
  rw [hzero, Number.Decimal.toNumber, if_pos rfl, Number.ofFraction_eq,
    Number.fractionMagnitude_parts hcanonical] at hread
  have hview := congrArg Number.view hread
  rw [Number.zero, Number.view_ofMagnitude _ (by decide),
    Number.view_ofMagnitude _ (p.magnitude_lt hcanonical)] at hview
  have hsignificand : (Number.Parts.ofMagnitude false p.magnitude).significand = p.significand := by
    rw [← congrArg Number.Parts.significand (Number.Parts.ofMagnitude_magnitude hcanonical), Number.Parts.ofMagnitude,
      Number.Parts.ofMagnitude]
    split <;> rfl
  rw [← hsignificand, ← Number.View.finite.inj hview] at hp
  exact hp rfl

/-- What is written as a real has digits, for zero is written as an integer. -/
theorem significand_ne_zero {x : Float} {p : Number.Parts} (h : Number.view x = .finite p)
    (hint : Number.jsonInt? x = none) : p.significand ≠ 0 := by
  intro hzero
  have hx : Number.IsZero x := by
    obtain ⟨negative, significand, exponent⟩ := p
    change significand = 0 at hzero
    subst hzero
    exact ⟨negative, exponent, h⟩
  rw [Number.jsonInt?, Number.toInt?_of_isZero hx] at hint
  exact absurd hint (by decide)

/-- Digits without an exponent, where a point is among or before them. -/
theorem wellFormed_pointed (negative : Bool) {n : Nat} (hn : n ≠ 0) {exponent : Int} (h : ¬ 0 ≤ exponent) :
    ∃ t : NumberText, t.WellFormed ∧ t.chars = signText negative ++ Number.positional (digitsOf n) exponent := by
  generalize hplaces : (-exponent).toNat = places
  generalize hpadded : zeros (places + 1 - (digitsOf n).length) ++ digitsOf n = padded
  have hdigits : ∀ c ∈ padded, c.isDigit := by
    rw [← hpadded]
    intro c hc
    rcases List.mem_append.1 hc with hc | hc
    · exact Number.isDigit_of_mem_zeros hc
    · exact Number.isDigit_of_mem_digitsOf hc
  have hpositive : 0 < places := by omega
  have hlength : places < padded.length := by
    rw [← hpadded]
    simp only [List.length_append, zeros, List.length_replicate]
    omega
  refine ⟨⟨negative, padded.take (padded.length - places), padded.drop (padded.length - places), none⟩, ?_, ?_⟩
  · refine ⟨fun hnil => ?_, fun c hc => hdigits c (List.mem_of_mem_take hc), fun hzero => ?_,
      fun c hc => hdigits c (List.mem_of_mem_drop hc), by simp⟩
    · have hnone := congrArg List.length hnil
      rw [List.length_take, List.length_nil] at hnone
      omega
    · by_cases hshort : (digitsOf n).length ≤ places
      · have hone : padded.length = places + 1 := by
          rw [← hpadded]
          simp only [List.length_append, zeros, List.length_replicate]
          omega
        simp only [List.length_take]
        omega
      · exfalso
        have hsame : padded = digitsOf n := by
          rw [← hpadded, show places + 1 - (digitsOf n).length = 0 by omega]
          rfl
        rw [List.head?_take, if_neg (by omega), hsame] at hzero
        exact Number.head?_digitsOf hn hzero
  · have hfraction : (padded.drop (padded.length - places)).isEmpty = false := by
      rw [List.isEmpty_eq_false_iff, ← List.length_pos_iff, List.length_drop]
      omega
    rw [Number.positional, if_neg h, NumberText.chars, pointed, hfraction]
    simp [NumberText.exponentChars, hplaces, hpadded]

theorem exists_real {x : Float} {p : Number.Parts} (h : Number.view x = .finite p)
    (hint : Number.jsonInt? x = none) : ∃ t : NumberText, t.WellFormed ∧ Number.jsonReal? x = some t.chars := by
  have hn := shortest_ne_zero h (significand_ne_zero h hint) .toEven
  rw [Number.jsonReal?, h]
  dsimp only
  generalize Number.shortest .toEven p = decimal at hn ⊢
  obtain ⟨n, exponent⟩ := decimal
  dsimp only at hn ⊢
  split
  · split
    · next hexponent =>
      refine ⟨_, wellFormed_zeros p.negative hn exponent.toNat, ?_⟩
      simp [Number.positional, hexponent, NumberText.chars, pointed, NumberText.exponentChars]
    · next hexponent =>
      obtain ⟨t, ht, hchars⟩ := wellFormed_pointed p.negative hn hexponent
      exact ⟨t, ht, by rw [hchars]⟩
  · generalize hlead : exponent + ((digitsOf n).length : Int) - 1 = lead
    refine ⟨_, wellFormed_scientific p.negative (decide (lead < 0)) n lead.natAbs, ?_⟩
    obtain ⟨d, ds, hdigits⟩ := List.exists_cons_of_ne_nil (Number.digitsOf_ne_nil n)
    rw [hdigits]
    cases ds with
    | nil => simp [NumberText.chars, pointed, NumberText.exponentChars]
    | cons e es => simp [NumberText.chars, pointed, NumberText.exponentChars]

/-- Every number is written as a numeral, or as `null`. -/
theorem exists_numeral (x : Float) :
    (∃ t : NumberText, t.WellFormed ∧ Value.numberChars x = t.chars) ∨ Value.numberChars x = nullChars := by
  unfold Value.numberChars
  cases hint : Number.jsonInt? x with
  | some i => exact .inl ⟨.ofInt i, NumberText.wellFormed_ofInt i, (NumberText.chars_ofInt i).symm⟩
  | none =>
    cases hview : Number.view x with
    | finite p =>
      obtain ⟨t, ht, hchars⟩ := exists_real hview hint
      refine .inl ⟨t, ht, ?_⟩
      simp only [realChars, hchars]
      rfl
    | nan => exact .inr (by simp [realChars, Number.jsonReal?, hview])
    | infinite negative => exact .inr (by simp [realChars, Number.jsonReal?, hview])

/-! Integers -/

theorem le_ofDigitChars (significand : Nat) (digits : List Char) :
    significand ≤ Nat.ofDigitChars 10 digits significand := by
  rw [Nat.ofDigitChars_eq_ofDigitChars_zero]
  have hpow : 0 < 10 ^ digits.length := Nat.pow_pos (by decide)
  calc significand ≤ 10 ^ digits.length * significand := Nat.le_mul_of_pos_left _ hpow
    _ ≤ _ := Nat.le_add_right _ _

/-- All digits are taken while the significand stays in a word. -/
theorem extend_of_le {significand : Nat} {digits : List Char}
    (h : Nat.ofDigitChars 10 digits significand ≤ maxWord) :
    extend significand digits = (Nat.ofDigitChars 10 digits significand, digits.length) := by
  induction digits generalizing significand with
  | nil => simp [extend, Nat.ofDigitChars_nil]
  | cons d ds ih =>
    rw [Nat.ofDigitChars_cons, Nat.mul_comm 10 significand] at h ⊢
    have hnext := le_ofDigitChars (significand * 10 + (d.toNat - '0'.toNat)) ds
    rw [extend]
    simp only
    rw [if_neg (by omega), ih h]
    rfl

theorem toNumber?_ofInt {i : Int} (h : i.natAbs ≤ maxWord) :
    (NumberText.ofInt i).toNumber? = some (Number.ofFraction (i < 0) i.natAbs 1) := by
  have hvalue : Nat.ofDigitChars 10 (digitsOf i.natAbs) 0 = i.natAbs := Number.digitsValue_digitsOf i.natAbs
  have hextend : extend 0 (digitsOf i.natAbs) = (i.natAbs, (digitsOf i.natAbs).length) := by
    have hextend := @extend_of_le 0 (digitsOf i.natAbs) (by rw [hvalue]; exact h)
    rwa [hvalue] at hextend
  have hmagnitude : (NumberText.ofInt i).magnitude? = some (Number.ofNat i.natAbs) := by
    simp [NumberText.magnitude?, NumberText.ofInt, hextend]
  rw [NumberText.toNumber?, hmagnitude]
  by_cases hnegative : i < 0
  · simp [NumberText.ofInt, hnegative, Number.ofNat, Number.neg_ofFraction]
  · simp [NumberText.ofInt, hnegative, Number.ofNat]

/-- The magnitude of a whole number is its integer part. -/
theorem ofNat_floor {p : Number.Parts} (h : p.isWhole = true) :
    Number.ofFraction p.negative p.floor 1 = Number.ofFraction p.negative p.numerator p.denominator := by
  have hmod : p.numerator % p.denominator = 0 := by simpa [Number.Parts.isWhole] using h
  refine Number.ofFraction_congr _ (by decide) p.denominator_ne_zero ?_
  have hfloor : p.floor * p.denominator = p.numerator := Nat.div_mul_cancel (Nat.dvd_of_mod_eq_zero hmod)
  have hden : (p.denominator : ℚ) ≠ 0 := by exact_mod_cast p.denominator_ne_zero
  rw [← hfloor, Nat.cast_mul, mul_div_cancel_right₀ _ hden, Nat.cast_one, div_one]

/-- A number that is written as an integer is equal to that integer. -/
theorem ofInteger_beq {x : Float} {i : Int} (h : Number.jsonInt? x = some i) :
    (Number.ofFraction (i < 0) i.natAbs 1 == x) = true := by
  obtain ⟨hint, -⟩ := Option.filter_eq_some_iff.1 h
  unfold Number.toInt? at hint
  cases hview : Number.view x with
  | nan => rw [hview] at hint; cases hint
  | infinite negative => rw [hview] at hint; cases hint
  | finite p =>
    rw [hview] at hint
    obtain ⟨hwhole, hi⟩ := Option.ite_none_right_eq_some.1 hint
    have hx : Number.ofFraction p.negative p.floor 1 = x := by
      rw [ofNat_floor hwhole, Number.ofFraction_of_view hview]
    have hinteger : i = if p.negative then -(p.floor : Int) else p.floor := (Option.some.inj hi).symm
    have habs : i.natAbs = p.floor := by
      rw [hinteger]
      split <;> simp
    by_cases hzero : p.floor = 0
    · -- A zero is read without its sign.
      rw [hzero, Number.ofFraction, if_pos rfl] at hx
      rw [habs, hzero, Number.ofFraction, if_pos rfl, ← hx]
      exact Number.beq_of_isZero (Number.isZero_zero _) (Number.isZero_zero _)
    · have hsign : decide (i < 0) = p.negative := by
        rw [hinteger]
        cases p.negative with
        | false => exact decide_eq_false (by simp)
        | true => exact decide_eq_true (by simp; omega)
      rw [habs, hsign, hx]
      exact Number.beq_self ((Number.isFinite_eq_view x).2 ⟨p, hview⟩)

/-- What is written as an integer reads back as an equal number. -/
theorem exists_toNumber?_ofInt {x : Float} {i : Int} (h : Number.jsonInt? x = some i) :
    ∃ y, (NumberText.ofInt i).toNumber? = some y ∧ (y == x) = true := by
  obtain ⟨-, hbound⟩ := Option.filter_eq_some_iff.1 h
  have hbound := of_decide_eq_true hbound
  have hpow : Number.exactIntegerBound = 2 ^ 53 := rfl
  rw [hpow] at hbound
  have hword : i.natAbs ≤ maxWord := by
    have hbound' : i.natAbs < 2 ^ 53 := by omega
    exact Nat.le_of_lt (Nat.lt_of_lt_of_le hbound' (by decide))
  exact ⟨_, toNumber?_ofInt hword, ofInteger_beq h⟩

end Json

end PolicyEngine
