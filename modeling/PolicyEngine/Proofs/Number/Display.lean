import PolicyEngine.Proofs.Number.Rounding
import PolicyEngine.Proofs.Number.Digits

/-! The display form of a finite number is an optional minus, digits, and an optional point with digits, and
it reads back to the same number. The digits come from a search whose every answer was read back before, so
what is left is that moving zeros and the point keeps the value. -/
namespace PolicyEngine.Number

/-! Shortest decimals -/

theorem dropZeros_value (digits : Nat) (exponent : Int) :
    ((dropZeros digits exponent).1 : ℚ) * 10 ^ (dropZeros digits exponent).2 = digits * 10 ^ exponent := by
  induction digits, exponent using dropZeros.induct with
  | case1 digits exponent h ih =>
    rw [dropZeros, dif_pos h, ih, zpow_add₀ (by norm_num), zpow_one]
    have hdiv : digits = digits / 10 * 10 := by omega
    have hcast : (digits : ℚ) = (digits / 10 : Nat) * 10 := by exact_mod_cast hdiv
    rw [hcast]
    ring
  | case2 digits exponent h => rw [dropZeros, dif_neg h]

theorem exactDigits_value (p : Parts) :
    ((exactDigits p).1 : ℚ) * 10 ^ (exactDigits p).2 = p.significand * 2 ^ p.exponent := by
  unfold exactDigits
  split
  · next h =>
    obtain ⟨n, hn⟩ := Int.eq_ofNat_of_zero_le h
    change ((p.significand * 2 ^ p.exponent.toNat : Nat) : ℚ) * 10 ^ (0 : Int) = _
    rw [hn]
    push_cast
    rw [mul_one, zpow_natCast, Int.toNat_natCast]
  · next h =>
    obtain ⟨n, hn⟩ := Int.eq_ofNat_of_zero_le (show 0 ≤ -p.exponent by omega)
    have he : p.exponent = -(n : Int) := by omega
    change ((p.significand * 5 ^ (-p.exponent).toNat : Nat) : ℚ) * 10 ^ p.exponent = _
    rw [hn, he, zpow_neg, zpow_neg, zpow_natCast, zpow_natCast, Int.toNat_natCast]
    push_cast
    rw [show (10 : ℚ) = 5 * 2 by norm_num, mul_pow]
    field_simp

/-- The shortest decimal of a magnitude reads back to it. -/
theorem toNumber_shortest (tie : Tie) (p : Parts) :
    (Decimal.mk false (shortest tie p).1 (shortest tie p).2).toNumber =
      ofFraction false p.numerator p.denominator := by
  unfold shortest
  by_cases hzero : p.significand = 0
  · have hnum : p.numerator = 0 := by simp [Parts.numerator, hzero]
    rw [if_pos hzero, hnum, ofFraction, if_pos rfl, Decimal.toNumber, if_pos rfl]
  · rw [if_neg hzero]
    simp only
    generalize hfound : List.findSome? _ (List.range 17) = found
    have hdrop : ∀ digits exponent,
        (Decimal.mk false (dropZeros digits exponent).1 (dropZeros digits exponent).2).toNumber =
          (Decimal.mk false digits exponent).toNumber := by
      intro digits exponent
      exact Decimal.toNumber_congr rfl (dropZeros_value digits exponent)
    rw [hdrop]
    cases found with
    | none =>
      refine Decimal.toNumber_eq _ p.denominator_ne_zero ?_
      rw [p.ratio_eq]
      exact exactDigits_value p
    | some hit =>
      obtain ⟨count, -, hcount⟩ := List.exists_of_findSome?_eq_some hfound
      obtain ⟨digits, hdigits, rfl⟩ := Option.map_eq_some_iff.1 hcount
      have hread := List.find?_some hdigits
      simp only [decide_eq_true_eq] at hread
      exact hread

/-! Plain numerals -/

/-- A point and the digits after it, or nothing. -/
def pointed (fraction : List Char) : List Char := if fraction.isEmpty then [] else '.' :: fraction

/-- A text of digits, at least one of them before the point. -/
structure Plain (whole fraction : List Char) : Prop where
  nonempty : whole ≠ []
  whole : ∀ c ∈ whole, c.isDigit
  fraction : ∀ c ∈ fraction, c.isDigit

theorem takeFraction_pointed {fraction : List Char} (h : ∀ c ∈ fraction, c.isDigit) :
    takeFraction (pointed fraction) = (fraction, []) := by
  unfold pointed
  cases fraction with
  | nil => rfl
  | cons d ds =>
    have hrun := digitRun_of_all [] h (by simp)
    rw [List.append_nil] at hrun
    exact hrun

theorem Plain.decimal {whole fraction : List Char} (h : Plain whole fraction) (negative : Bool) :
    Decimal.ofText? (signText negative ++ (whole ++ pointed fraction)) =
      some ⟨negative, digitsValue (whole ++ fraction), -(fraction.length : Int)⟩ := by
  have hsign : takeSign (signText negative ++ (whole ++ pointed fraction)) =
      (negative, whole ++ pointed fraction) := by
    cases negative with
    | true => rfl
    | false =>
      obtain ⟨c, cs, rfl⟩ := List.exists_cons_of_ne_nil h.nonempty
      have hc := h.whole c List.mem_cons_self
      have hminus : c ≠ '-' := by
        rintro rfl
        exact absurd hc (by decide)
      have hplus : c ≠ '+' := by
        rintro rfl
        exact absurd hc (by decide)
      simp only [signText, List.cons_append]
      unfold takeSign
      split
      · next heq => exact absurd (List.cons.inj heq).1 hminus
      · next heq => exact absurd (List.cons.inj heq).1 hplus
      · rfl
  have hrun : digitRun (whole ++ pointed fraction) = (whole, pointed fraction) := by
    refine digitRun_of_all _ h.whole ?_
    unfold pointed
    split <;> simp
  have hempty : whole.isEmpty = false := by simpa using h.nonempty
  simp only [Decimal.ofText?, hsign, hrun, takeFraction_pointed h.fraction, hempty, Bool.false_and,
    Bool.false_eq_true, if_false, exponentOf?, Option.map_some, Int.zero_sub]

/-- Written without an exponent, a decimal is a plain numeral of the same value. -/
theorem exists_positional (n : Nat) (exponent : Int) :
    ∃ whole fraction, Plain whole fraction ∧ positional (digitsOf n) exponent = whole ++ pointed fraction ∧
      ∀ negative, (Decimal.mk negative (digitsValue (whole ++ fraction)) (-(fraction.length : Int))).value =
        n * 10 ^ exponent := by
  by_cases h : 0 ≤ exponent
  · refine ⟨digitsOf n ++ zeros exponent.toNat, [], ⟨?_, ?_, by simp⟩, ?_, fun negative => ?_⟩
    · simp [digitsOf_ne_nil]
    · intro c hc
      rcases List.mem_append.1 hc with hc | hc
      · exact isDigit_of_mem_digitsOf hc
      · exact isDigit_of_mem_zeros hc
    · simp [positional, h, pointed]
    · obtain ⟨k, rfl⟩ := Int.eq_ofNat_of_zero_le h
      have hlength : (zeros (k : Int).toNat).length = k := by simp [zeros]
      simp only [List.append_nil, digitsValue_append, digitsValue_digitsOf, digitsValue_zeros, hlength,
        Decimal.value, List.length_nil]
      push_cast
      simp
  · obtain ⟨places, hplaces⟩ := Int.eq_ofNat_of_zero_le (show 0 ≤ -exponent by omega)
    have hexponent : exponent = -(places : Int) := by omega
    generalize hpadded : zeros (places + 1 - (digitsOf n).length) ++ digitsOf n = padded
    have hdigits : ∀ c ∈ padded, c.isDigit := by
      rw [← hpadded]
      intro c hc
      rcases List.mem_append.1 hc with hc | hc
      · exact isDigit_of_mem_zeros hc
      · exact isDigit_of_mem_digitsOf hc
    have hvalue : digitsValue padded = n := by
      rw [← hpadded, digitsValue_append, digitsValue_zeros, digitsValue_digitsOf, Nat.zero_mul, Nat.zero_add]
    have hlength : places < padded.length := by
      rw [← hpadded]
      simp only [List.length_append, zeros, List.length_replicate]
      omega
    have hfraction : (padded.drop (padded.length - places)).length = places := by
      rw [List.length_drop]
      omega
    refine ⟨padded.take (padded.length - places), padded.drop (padded.length - places), ⟨?_, ?_, ?_⟩, ?_,
      fun negative => ?_⟩
    · intro hnil
      have := congrArg List.length hnil
      rw [List.length_take, List.length_nil] at this
      omega
    · exact fun c hc => hdigits c (List.mem_of_mem_take hc)
    · exact fun c hc => hdigits c (List.mem_of_mem_drop hc)
    · have hne : (padded.drop (padded.length - places)).isEmpty = false := by
        rw [List.isEmpty_eq_false_iff, ← List.length_pos_iff, hfraction]
        omega
      rw [positional, if_neg h, hplaces, pointed, hne]
      simp only [Int.toNat_natCast, hpadded]
      rfl
    · rw [Decimal.value, List.take_append_drop, hvalue, hfraction, hexponent]

/-- The display form of a finite number is a plain numeral under a sign, for the number itself. -/
theorem exists_displayChars {x : Float} {p : Parts} (h : view x = .finite p) :
    ∃ whole fraction, Plain whole fraction ∧
      displayChars x = signText p.negative ++ (whole ++ pointed fraction) ∧
      (Decimal.mk p.negative (digitsValue (whole ++ fraction)) (-(fraction.length : Int))).toNumber = x := by
  obtain ⟨whole, fraction, hplain, htext, hvalue⟩ := exists_positional (shortest .up p).1 (shortest .up p).2
  refine ⟨whole, fraction, hplain, ?_, ?_⟩
  · rw [displayChars, h]
    exact congrArg (signText p.negative ++ ·) htext
  · have hread : ∀ negative,
        (Decimal.mk negative (digitsValue (whole ++ fraction)) (-(fraction.length : Int))).toNumber =
          ofFraction negative p.numerator p.denominator := by
      intro negative
      have hshortest := toNumber_shortest .up p
      have hsame : (Decimal.mk negative (digitsValue (whole ++ fraction)) (-(fraction.length : Int))).toNumber =
          (Decimal.mk negative (shortest .up p).1 (shortest .up p).2).toNumber :=
        Decimal.toNumber_congr rfl (hvalue negative)
      rw [hsame]
      cases negative with
      | false => exact hshortest
      | true => rw [← Decimal.neg_toNumber, hshortest, neg_ofFraction]
    rw [hread, ofFraction_of_view h]

theorem ofText?_display {x : Float} (h : x.isFinite) : ofText? (display x) = some x := by
  obtain ⟨p, hp⟩ := (isFinite_eq_view x).1 h
  obtain ⟨whole, fraction, hplain, htext, hread⟩ := exists_displayChars hp
  rw [ofText?, display, String.toList_ofList, htext, hplain.decimal, Option.map_some, hread,
    Option.filter_some, if_pos h]

end PolicyEngine.Number
