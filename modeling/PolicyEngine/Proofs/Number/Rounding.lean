import Mathlib.Algebra.Order.Field.Power
import Mathlib.Data.Rat.Cast.Order
import Mathlib.Tactic.FieldSimp
import Mathlib.Tactic.Linarith
import Mathlib.Tactic.NormNum
import Mathlib.Tactic.Positivity
import Mathlib.Tactic.Ring
import PolicyEngine.Proofs.Number.Bits
import PolicyEngine.Number.Decimal

/-! Rounding a fraction depends on its value alone, and gives back every number from its exact value. The
shortcuts for decimals of extreme exponents round as the fraction would. -/
namespace PolicyEngine.Number

/-! Units -/

theorem inUnits_den_pos {base : Nat} (hbase : 0 < base) (num : Nat) {den : Nat} (hden : 0 < den) (e : Int) :
    0 < (inUnits base num den e).2 := by
  unfold inUnits
  split
  · exact Nat.mul_pos hden (Nat.pow_pos hbase)
  · exact hden

theorem inUnits_ratio {base : Nat} (hbase : 0 < base) (num den : Nat) (e : Int) :
    ((inUnits base num den e).1 : ℚ) / (inUnits base num den e).2 = num / den / (base : ℚ) ^ e := by
  have hne : (base : ℚ) ≠ 0 := by exact_mod_cast hbase.ne'
  unfold inUnits
  split
  · next h =>
    obtain ⟨n, rfl⟩ := Int.eq_ofNat_of_zero_le h
    change (num : ℚ) / ((den * base ^ n : Nat) : ℚ) = _
    push_cast
    rw [zpow_natCast, div_div]
  · next h =>
    obtain ⟨n, hn⟩ := Int.eq_ofNat_of_zero_le (show 0 ≤ -e by omega)
    change ((num * base ^ (-e).toNat : Nat) : ℚ) / (den : ℚ) = _
    have he : e = -(n : Int) := by omega
    rw [hn, he, zpow_neg, zpow_natCast]
    simp only [Int.toNat_natCast]
    push_cast
    rw [div_inv_eq_mul, div_mul_eq_mul_div]

/-- Whole units below `2 ^ 53` are those of a fraction below as many units. -/
theorem inUnits_quotient_lt_iff (num : Nat) {den : Nat} (hden : den ≠ 0) (e : Int) :
    (inUnits 2 num den e).1 / (inUnits 2 num den e).2 < Nat.pow 2 53 ↔ (num : ℚ) / den < 2 ^ (e + 53) := by
  have hpos := inUnits_den_pos Nat.two_pos num (Nat.pos_of_ne_zero hden) e
  rw [Nat.div_lt_iff_lt_mul hpos, ← @Nat.cast_lt ℚ, Nat.cast_mul, ← div_lt_iff₀ (by exact_mod_cast hpos),
    inUnits_ratio Nat.two_pos, div_lt_iff₀ (by positivity), add_comm e, zpow_add₀ (by norm_num)]
  norm_num

theorem roundDiv_le (num den : Nat) : roundDiv num den ≤ num / den + 1 := by
  unfold roundDiv
  dsimp only
  split
  · omega
  · split
    · omega
    · split <;> omega

theorem roundDiv_mul_right (n d : Nat) {k : Nat} (hk : 0 < k) : roundDiv (n * k) (d * k) = roundDiv n d := by
  have hlt : ∀ a b : Nat, a * k < b * k ↔ a < b := fun a b => Nat.mul_lt_mul_right hk
  simp only [roundDiv, Nat.mul_div_mul_right _ _ hk, Nat.mul_mod_mul_right, ← Nat.mul_assoc, hlt]

theorem roundDiv_congr {n d n' d' : Nat} (hd : 0 < d) (hd' : 0 < d') (h : (n : ℚ) / d = n' / d') :
    roundDiv n d = roundDiv n' d' := by
  have hcross : n * d' = n' * d := by
    rw [div_eq_div_iff (by exact_mod_cast hd.ne') (by exact_mod_cast hd'.ne')] at h
    exact_mod_cast h
  rw [← roundDiv_mul_right n d hd', ← roundDiv_mul_right n' d' hd, hcross, Nat.mul_comm d d']

/-! The unit in the last place -/

/-- The power of two that numbers near a positive `q` are multiples of: 53 bits reach from there to `q`, or it
is the least one. -/
def IsUnit (q : ℚ) (e : Int) : Prop :=
  -1074 ≤ e ∧ q < 2 ^ (e + 53) ∧ (e = -1074 ∨ 2 ^ (e + 52) ≤ q)

theorem IsUnit.le {q : ℚ} {e e' : Int} (h : IsUnit q e) (h' : IsUnit q e') : e ≤ e' := by
  by_contra hlt
  obtain ⟨hleast, hbelow, -⟩ := h'
  rcases h.2.2 with heq | hle
  · omega
  · have hlt2 : (2 : ℚ) ^ (e + 52) < 2 ^ (e' + 53) := lt_of_le_of_lt hle hbelow
    have := (zpow_lt_zpow_iff_right₀ (by norm_num : (1 : ℚ) < 2)).1 hlt2
    omega

theorem IsUnit.unique {q : ℚ} {e e' : Int} (h : IsUnit q e) (h' : IsUnit q e') : e = e' :=
  Int.le_antisymm (h.le h') (h'.le h)

/-- The bit lengths of a fraction bound its value from both sides. -/
theorem ratio_lt_two_zpow (num : Nat) {den : Nat} (hden : den ≠ 0) :
    (num : ℚ) / den < 2 ^ ((num.log2 : Int) - den.log2 + 1) := by
  have hnum : (num : ℚ) < 2 ^ (num.log2 + 1) := by exact_mod_cast Nat.lt_log2_self
  have hlow : (2 : ℚ) ^ den.log2 ≤ den := by exact_mod_cast Nat.log2_self_le hden
  have hpos : (0 : ℚ) < 2 ^ den.log2 := by positivity
  have hexp : (2 : ℚ) ^ ((num.log2 : Int) - den.log2 + 1) = 2 ^ (num.log2 + 1) / 2 ^ den.log2 := by
    rw [← zpow_natCast, ← zpow_natCast, ← zpow_sub₀ (by norm_num)]
    congr 1
    push_cast
    ring
  rw [hexp]
  calc (num : ℚ) / den ≤ num / 2 ^ den.log2 := div_le_div_of_nonneg_left (by positivity) hpos hlow
    _ < 2 ^ (num.log2 + 1) / 2 ^ den.log2 := div_lt_div_of_pos_right hnum hpos

theorem two_zpow_lt_ratio {num den : Nat} (hnum : num ≠ 0) (hden : den ≠ 0) :
    (2 : ℚ) ^ ((num.log2 : Int) - den.log2 - 1) < num / den := by
  have hhigh : (den : ℚ) < 2 ^ (den.log2 + 1) := by exact_mod_cast Nat.lt_log2_self
  have hlow : (2 : ℚ) ^ num.log2 ≤ num := by exact_mod_cast Nat.log2_self_le hnum
  have hpos : (0 : ℚ) < den := by exact_mod_cast Nat.pos_of_ne_zero hden
  have hexp : (2 : ℚ) ^ ((num.log2 : Int) - den.log2 - 1) = 2 ^ num.log2 / 2 ^ (den.log2 + 1) := by
    rw [← zpow_natCast, ← zpow_natCast, ← zpow_sub₀ (by norm_num)]
    congr 1
    push_cast
    ring
  rw [hexp]
  calc (2 : ℚ) ^ num.log2 / 2 ^ (den.log2 + 1) < 2 ^ num.log2 / den :=
        div_lt_div_of_pos_left (by positivity) hpos hhigh
    _ ≤ num / den := div_le_div_of_nonneg_right hlow hpos.le

theorem isUnit_unitExponent {num den : Nat} (hnum : num ≠ 0) (hden : den ≠ 0) :
    IsUnit (num / den) (unitExponent num den) := by
  have hupper := ratio_lt_two_zpow num hden
  have hlower := two_zpow_lt_ratio hnum hden
  generalize he : max ((num.log2 : Int) - den.log2 - 53) (-1074) = e
  have hone : (1 : ℚ) < 2 := by norm_num
  -- The quotient in units decides on which side of the next power of two the fraction lies.
  have hside := inUnits_quotient_lt_iff num hden e
  have hunit : unitExponent num den = if (num : ℚ) / den < 2 ^ (e + 53) then e else e + 1 := by
    simp only [← hside, unitExponent, he]
  rw [hunit]
  split
  · next hbelow =>
    refine ⟨by omega, hbelow, ?_⟩
    by_cases hleast : e = -1074
    · exact .inl hleast
    · refine .inr (le_trans ?_ hlower.le)
      exact (zpow_le_zpow_iff_right₀ hone).2 (by omega)
  · next habove =>
    refine ⟨by omega, lt_of_lt_of_le hupper ?_, .inr ?_⟩
    · exact (zpow_le_zpow_iff_right₀ hone).2 (by omega)
    · rw [add_assoc]
      exact not_lt.1 habove

/-! Fractions -/

/-- The magnitude of the number nearest to a fraction. -/
def fractionMagnitude (num den : Nat) : Nat :=
  if num = 0 then 0
  else
    let e := unitExponent num den
    min infiniteMagnitude ((e + 1074).toNat * Nat.pow 2 52 +
      roundDiv (inUnits 2 num den e).1 (inUnits 2 num den e).2)

theorem ofFraction_eq (negative : Bool) (num den : Nat) :
    ofFraction negative num den = ofMagnitude negative (fractionMagnitude num den) := by
  unfold ofFraction fractionMagnitude
  split <;> rfl

theorem fractionMagnitude_le (num den : Nat) : fractionMagnitude num den ≤ infiniteMagnitude := by
  unfold fractionMagnitude
  split
  · exact Nat.zero_le _
  · exact Nat.min_le_left _ _

theorem fractionMagnitude_congr {num den num' den' : Nat} (hden : den ≠ 0) (hden' : den' ≠ 0)
    (h : (num : ℚ) / den = num' / den') : fractionMagnitude num den = fractionMagnitude num' den' := by
  have hzero : num = 0 ↔ num' = 0 := by
    have hq : (num : ℚ) / den = 0 ↔ (num' : ℚ) / den' = 0 := by rw [h]
    simpa [hden, hden'] using hq
  unfold fractionMagnitude
  by_cases hnum : num = 0
  · rw [if_pos hnum, if_pos (hzero.1 hnum)]
  · have hnum' : num' ≠ 0 := fun h' => hnum (hzero.2 h')
    rw [if_neg hnum, if_neg hnum']
    have hunit : unitExponent num den = unitExponent num' den' := by
      refine (isUnit_unitExponent hnum hden).unique ?_
      rw [h]
      exact isUnit_unitExponent hnum' hden'
    simp only [hunit]
    congr 2
    refine roundDiv_congr (inUnits_den_pos (by decide) _ (Nat.pos_of_ne_zero hden) _)
      (inUnits_den_pos (by decide) _ (Nat.pos_of_ne_zero hden') _) ?_
    rw [inUnits_ratio (by decide), inUnits_ratio (by decide), h]

theorem ofFraction_congr (negative : Bool) {num den num' den' : Nat} (hden : den ≠ 0) (hden' : den' ≠ 0)
    (h : (num : ℚ) / den = num' / den') : ofFraction negative num den = ofFraction negative num' den' := by
  rw [ofFraction_eq, ofFraction_eq, fractionMagnitude_congr hden hden' h]

/-- The sign of a fraction is the sign of the number. -/
theorem neg_ofFraction (num den : Nat) : -ofFraction false num den = ofFraction true num den := by
  rw [ofFraction_eq, ofFraction_eq]
  rcases Nat.lt_or_eq_of_le (fractionMagnitude_le num den) with hlt | heq
  · exact neg_ofMagnitude false hlt
  · rw [heq]
    decide +kernel

/-! Exact values -/

theorem Parts.denominator_ne_zero (p : Parts) : p.denominator ≠ 0 := (Nat.pow_pos (by decide)).ne'

theorem Parts.ratio_eq (p : Parts) : (p.numerator : ℚ) / p.denominator = p.significand * 2 ^ p.exponent := by
  have hpow : ∀ n : Nat, ((Nat.pow 2 n : Nat) : ℚ) = 2 ^ n := fun n => Nat.cast_pow 2 n
  simp only [Parts.numerator, Parts.denominator, Nat.cast_mul, hpow]
  rw [mul_div_assoc, ← zpow_natCast, ← zpow_natCast, ← zpow_sub₀ (by norm_num)]
  congr 2
  omega

theorem roundDiv_one (n : Nat) : roundDiv n 1 = n := by
  simp [roundDiv, Nat.mod_one]

theorem fractionMagnitude_parts {p : Parts} (h : p.Canonical) :
    fractionMagnitude p.numerator p.denominator = p.magnitude := by
  have hlt := p.magnitude_lt h
  have hratio := p.ratio_eq
  obtain ⟨hhigh, hleast, hmost, hcases⟩ := h
  have hpow : (0 : ℚ) < 2 ^ p.exponent := by positivity
  unfold fractionMagnitude
  by_cases hzero : p.significand = 0
  · have hnum : p.numerator = 0 := by simp [Parts.numerator, hzero]
    have hexponent : p.exponent = -1074 := by omega
    rw [if_pos hnum, Parts.magnitude, hzero, hexponent]
    rfl
  · have hnum : p.numerator ≠ 0 := Nat.mul_ne_zero hzero (Nat.pow_pos (by decide)).ne'
    have hunit : IsUnit (p.numerator / p.denominator) p.exponent := by
      refine ⟨hleast, ?_, hcases.symm.imp_right fun hlow => ?_⟩
      · rw [hratio, add_comm, zpow_add₀ (by norm_num)]
        refine mul_lt_mul_of_pos_right ?_ hpow
        exact_mod_cast hhigh
      · rw [hratio, add_comm, zpow_add₀ (by norm_num)]
        refine mul_le_mul_of_nonneg_right ?_ hpow.le
        exact_mod_cast hlow
    have hround : roundDiv (inUnits 2 p.numerator p.denominator p.exponent).1
        (inUnits 2 p.numerator p.denominator p.exponent).2 = p.significand := by
      rw [← roundDiv_one p.significand]
      refine roundDiv_congr (inUnits_den_pos (by decide) _ (Nat.pos_of_ne_zero p.denominator_ne_zero) _)
        (by decide) ?_
      rw [inUnits_ratio (by decide), hratio]
      push_cast
      rw [mul_div_cancel_right₀ _ hpow.ne', div_one]
    rw [if_neg hnum, (isUnit_unitExponent hnum p.denominator_ne_zero).unique hunit]
    simp only [hround]
    exact Nat.min_eq_right hlt.le

/-- Rounding the exact value of a number gives the number. -/
theorem ofFraction_of_view {x : Float} {p : Parts} (h : view x = .finite p) :
    ofFraction p.negative p.numerator p.denominator = x := by
  rw [ofFraction_eq, fractionMagnitude_parts (canonical_of_view h), ofMagnitude_of_view h]

/-! Extreme fractions -/

theorem ofFraction_of_le {num den : Nat} (hden : den ≠ 0) (h : (2 : ℚ) ^ (1025 : Int) ≤ num / den)
    (negative : Bool) : ofFraction negative num den = infinity negative := by
  have hnum : num ≠ 0 := by
    rintro rfl
    rw [Nat.cast_zero, zero_div] at h
    exact absurd h (not_le.2 (by positivity))
  obtain ⟨-, hbelow, -⟩ := isUnit_unitExponent hnum hden
  have hexp := (zpow_lt_zpow_iff_right₀ (by norm_num : (1 : ℚ) < 2)).1 (lt_of_le_of_lt h hbelow)
  rw [ofFraction_eq, infinity, fractionMagnitude, if_neg hnum]
  congr 1
  refine Nat.min_eq_left ?_
  change 2047 * 2 ^ 52 ≤ (unitExponent num den + 1074).toNat * 2 ^ 52 + _
  omega

/-- Half of the bound for infinity is low enough for a finite number. -/
theorem isFinite_ofFraction {num den : Nat} (hden : den ≠ 0) (h : (num : ℚ) / den < 2 ^ (1023 : Int))
    (negative : Bool) : (ofFraction negative num den).isFinite = true := by
  rw [ofFraction_eq]
  apply isFinite_ofMagnitude
  unfold fractionMagnitude
  by_cases hnum : num = 0
  · rw [if_pos hnum]
    decide
  · rw [if_neg hnum]
    obtain ⟨hleast, hbelow, hcases⟩ := isUnit_unitExponent hnum hden
    have hquotient := (inUnits_quotient_lt_iff num hden _).2 hbelow
    have hexponent : unitExponent num den ≤ 970 := by
      rcases hcases with heq | hle
      · omega
      · have hlt := (zpow_lt_zpow_iff_right₀ (by norm_num : (1 : ℚ) < 2)).1 (lt_of_le_of_lt hle h)
        omega
    have hround := roundDiv_le (inUnits 2 num den (unitExponent num den)).1 (inUnits 2 num den (unitExponent num den)).2
    apply lt_of_le_of_lt (Nat.min_le_right _ _)
    change _ < 2 ^ 53 at hquotient
    change (unitExponent num den + 1074).toNat * 2 ^ 52 + _ < 2047 * 2 ^ 52
    omega

/-- Counts are rounded to finite numbers. -/
theorem isFinite_ofNat {n k : Nat} (hk : k ≤ 1023) (h : n < Nat.pow 2 k) : (ofNat n).isFinite = true := by
  apply isFinite_ofFraction Nat.one_ne_zero
  have hlt : (n : ℚ) < 2 ^ k := by exact_mod_cast h
  rw [Nat.cast_one, div_one]
  apply lt_of_lt_of_le hlt
  rw [← zpow_natCast]
  exact zpow_le_zpow_right₀ (by norm_num) (by exact_mod_cast hk)

theorem ofFraction_of_lt {num den : Nat} (hden : den ≠ 0) (h : (num : ℚ) / den < 2 ^ (-1076 : Int))
    (negative : Bool) : ofFraction negative num den = zero negative := by
  rw [ofFraction_eq, zero, fractionMagnitude]
  by_cases hnum : num = 0
  · rw [if_pos hnum]
  · rw [if_neg hnum]
    have hone : (1 : ℚ) < 2 := by norm_num
    have hunit : IsUnit (num / den) (-1074) :=
      ⟨le_rfl, lt_trans h ((zpow_lt_zpow_iff_right₀ hone).2 (by decide)), .inl rfl⟩
    rw [(isUnit_unitExponent hnum hden).unique hunit]
    have hpos := inUnits_den_pos Nat.two_pos num (Nat.pos_of_ne_zero hden) (-1074)
    have hratio := inUnits_ratio Nat.two_pos num den (-1074)
    generalize hu : inUnits 2 num den (-1074) = u at hpos hratio
    have hquarter : u.1 * 4 < u.2 := by
      have hq : (u.1 : ℚ) / u.2 < 1 / 4 := by
        rw [hratio, div_lt_iff₀ (by positivity)]
        refine lt_of_lt_of_le h (le_of_eq ?_)
        rw [show (-1076 : Int) = -2 + -1074 from rfl, zpow_add₀ (by norm_num)]
        norm_num
      rw [div_lt_div_iff₀ (by exact_mod_cast hpos) (by norm_num), one_mul] at hq
      exact_mod_cast hq
    have hround : roundDiv u.1 u.2 = 0 := by
      rw [roundDiv, Nat.mod_eq_of_lt (by omega), Nat.div_eq_of_lt (by omega)]
      simp only
      rw [if_pos (by omega)]
    simp [hu, hround]

/-! Decimals -/

/-- The magnitude of a decimal. -/
def Decimal.value (d : Decimal) : ℚ := d.digits * 10 ^ d.exponent

theorem Decimal.ratio_units (d : Decimal) :
    ((inUnits 10 d.digits 1 (-d.exponent)).1 : ℚ) / (inUnits 10 d.digits 1 (-d.exponent)).2 = d.value := by
  rw [inUnits_ratio (by decide), value, zpow_neg]
  push_cast
  rw [div_one, div_inv_eq_mul]

theorem Decimal.units_den_ne_zero (d : Decimal) : (inUnits 10 d.digits 1 (-d.exponent)).2 ≠ 0 :=
  (inUnits_den_pos (by decide) d.digits (by decide) (-d.exponent)).ne'

/-- A decimal reads as its value rounds, whatever its exponent. -/
theorem Decimal.toNumber_eq (d : Decimal) {num den : Nat} (hden : den ≠ 0) (h : d.value = num / den) :
    d.toNumber = ofFraction d.negative num den := by
  have hdenQ : (den : ℚ) ≠ 0 := by exact_mod_cast hden
  have hvalue : d.value = d.digits * 10 ^ d.exponent := rfl
  unfold toNumber
  by_cases hzero : d.digits = 0
  · have hnum : num = 0 := by
      rw [hvalue, hzero, Nat.cast_zero, zero_mul, eq_comm, div_eq_zero_iff] at h
      exact_mod_cast h.resolve_right hdenQ
    rw [if_pos hzero, hnum, ofFraction, if_pos rfl]
  · rw [if_neg hzero]
    have hdigits : (1 : ℚ) ≤ d.digits := by exact_mod_cast Nat.pos_of_ne_zero hzero
    have hten : (1 : ℚ) < 10 := by norm_num
    by_cases hlarge : 310 < d.exponent
    · rw [if_pos hlarge]
      refine (ofFraction_of_le hden ?_ _).symm
      rw [← h, hvalue]
      calc (2 : ℚ) ^ (1025 : Int) ≤ 10 ^ (311 : Int) := by
            exact_mod_cast (by decide +kernel : 2 ^ 1025 ≤ 10 ^ 311)
        _ ≤ 10 ^ d.exponent := (zpow_le_zpow_iff_right₀ hten).2 (by omega)
        _ ≤ d.digits * 10 ^ d.exponent := le_mul_of_one_le_left (by positivity) hdigits
    · rw [if_neg hlarge]
      by_cases hsmall : d.exponent < -(400 + d.digits.log2 : Int)
      · rw [if_pos hsmall]
        refine (ofFraction_of_lt hden ?_ _).symm
        rw [← h, hvalue]
        have hlog : (d.digits : ℚ) < 10 ^ ((d.digits.log2 : Int) + 1) := by
          calc (d.digits : ℚ) < 2 ^ (d.digits.log2 + 1) := by exact_mod_cast Nat.lt_log2_self
            _ ≤ 10 ^ (d.digits.log2 + 1) := by
              exact_mod_cast Nat.pow_le_pow_left (by decide : 2 ≤ 10) _
            _ = 10 ^ ((d.digits.log2 : Int) + 1) := by
              rw [← zpow_natCast]
              push_cast
              rfl
        calc (d.digits : ℚ) * 10 ^ d.exponent
              < 10 ^ ((d.digits.log2 : Int) + 1) * 10 ^ d.exponent :=
              mul_lt_mul_of_pos_right hlog (by positivity)
          _ = 10 ^ ((d.digits.log2 : Int) + 1 + d.exponent) := (zpow_add₀ (by norm_num) _ _).symm
          _ ≤ 10 ^ (-400 : Int) := (zpow_le_zpow_iff_right₀ hten).2 (by omega)
          _ ≤ 2 ^ (-1076 : Int) := by
            rw [zpow_neg, zpow_neg]
            refine inv_anti₀ (by positivity) ?_
            exact_mod_cast (by decide +kernel : 2 ^ 1076 ≤ 10 ^ 400)
      · rw [if_neg hsmall]
        exact ofFraction_congr _ d.units_den_ne_zero hden (d.ratio_units.trans h)

/-- Every decimal is a fraction. -/
theorem Decimal.exists_fraction (d : Decimal) : ∃ num den : Nat, den ≠ 0 ∧ d.value = num / den :=
  ⟨_, _, d.units_den_ne_zero, d.ratio_units.symm⟩

theorem Decimal.toNumber_congr {d d' : Decimal} (hnegative : d.negative = d'.negative)
    (h : d.value = d'.value) : d.toNumber = d'.toNumber := by
  obtain ⟨num, den, hden, hvalue⟩ := d.exists_fraction
  rw [d.toNumber_eq hden hvalue, d'.toNumber_eq hden (h ▸ hvalue), hnegative]

theorem Decimal.neg_toNumber (digits : Nat) (exponent : Int) :
    -(Decimal.mk false digits exponent).toNumber = (Decimal.mk true digits exponent).toNumber := by
  obtain ⟨num, den, hden, hvalue⟩ := (Decimal.mk false digits exponent).exists_fraction
  rw [toNumber_eq _ hden hvalue, (Decimal.mk true digits exponent).toNumber_eq hden hvalue, neg_ofFraction]

end PolicyEngine.Number
