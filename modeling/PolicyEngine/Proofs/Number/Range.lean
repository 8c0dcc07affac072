import PolicyEngine.Proofs.Number.Rounding

/-! The range of numbers. A decimal rounds to a finite number exactly if it lies below the largest one or less than half
a unit above it. -/
namespace PolicyEngine.Number

theorem le_roundDiv (num den : Nat) : num / den ≤ roundDiv num den := by
  unfold roundDiv
  dsimp only
  split
  · omega
  · split
    · omega
    · split <;> omega

/-- Halves are rounded up to an even number, so exactly what lies below the half in front of it stays below it. -/
theorem roundDiv_lt_succ_iff (num : Nat) {den k : Nat} (hden : 0 < den) (hodd : k % 2 = 1) :
    roundDiv num den < k + 1 ↔ 2 * num < (2 * k + 1) * den := by
  have hhigh : (2 * k + 1) * den = 2 * (k * den) + den := by ring
  rw [hhigh]
  rcases Nat.lt_trichotomy (num / den) k with hbelow | heq | habove
  · have hround := roundDiv_le num den
    have hnum := (Nat.div_lt_iff_lt_mul hden).1 hbelow
    omega
  · have hnum := Nat.div_add_mod num den
    rw [heq, Nat.mul_comm] at hnum
    unfold roundDiv
    simp only [heq, hodd]
    split
    · omega
    · split <;> simp <;> omega
  · have hround := le_roundDiv num den
    have hnum := (Nat.le_div_iff_mul_le hden).1 habove
    rw [Nat.succ_mul] at hnum
    omega

theorem isFinite_infinity (negative : Bool) : (infinity negative).isFinite = false := by
  cases negative <;> decide +kernel

theorem isFinite_ofMagnitude_iff (negative : Bool) {m : Nat} (h : m ≤ infiniteMagnitude) :
    (ofMagnitude negative m).isFinite = true ↔ m < infiniteMagnitude := by
  refine ⟨fun hfinite => lt_of_le_of_ne h ?_, isFinite_ofMagnitude negative⟩
  rintro rfl
  rw [← infinity, isFinite_infinity] at hfinite
  cases hfinite

/-- From here on fractions round to infinity: half a unit above the largest number, which has `2 ^ 53 - 1` of them. -/
def overflowBound : ℚ := (2 ^ 53 - 1 / 2) * 2 ^ (971 : Int)

theorem two_zpow_lt_overflowBound : (2 : ℚ) ^ (1023 : Int) < overflowBound := by
  rw [overflowBound, show (1023 : Int) = 52 + 971 from rfl, zpow_add₀ (by norm_num)]
  exact mul_lt_mul_of_pos_right (by norm_num) (by positivity)

theorem overflowBound_lt_two_zpow : overflowBound < (2 : ℚ) ^ (1024 : Int) := by
  rw [overflowBound, show (1024 : Int) = 53 + 971 from rfl, zpow_add₀ (by norm_num)]
  exact mul_lt_mul_of_pos_right (by norm_num) (by positivity)

theorem fractionMagnitude_of_ne_zero {num den : Nat} (hnum : num ≠ 0) {e : Int} (h : unitExponent num den = e) :
    fractionMagnitude num den = min infiniteMagnitude ((e + 1074).toNat * Nat.pow 2 52 +
      roundDiv (inUnits 2 num den e).1 (inUnits 2 num den e).2) := by
  rw [fractionMagnitude, if_neg hnum, h]

/-- In the last binade below infinity a unit is `2 ^ 971`. -/
theorem fractionMagnitude_lt_iff {num den : Nat} (hden : den ≠ 0) (hlow : (2 : ℚ) ^ (1023 : Int) ≤ num / den)
    (hhigh : (num : ℚ) / den < 2 ^ (1024 : Int)) :
    fractionMagnitude num den < infiniteMagnitude ↔ (num : ℚ) / den < overflowBound := by
  have hnum : num ≠ 0 := by
    rintro rfl
    rw [Nat.cast_zero, zero_div] at hlow
    exact absurd hlow (not_le.2 (by positivity))
  have hunit : unitExponent num den = 971 :=
    (isUnit_unitExponent hnum hden).unique ⟨by decide, hhigh, .inr hlow⟩
  have hpos := inUnits_den_pos Nat.two_pos num (Nat.pos_of_ne_zero hden) 971
  have hratio := inUnits_ratio Nat.two_pos num den 971
  rw [fractionMagnitude_of_ne_zero hnum hunit]
  generalize inUnits 2 num den 971 = u at hpos hratio
  calc min infiniteMagnitude ((971 + 1074 : Int).toNat * Nat.pow 2 52 + roundDiv u.1 u.2) < infiniteMagnitude
      ↔ roundDiv u.1 u.2 < (2 ^ 53 - 1) + 1 := by
        change min (2047 * 2 ^ 52) (2045 * 2 ^ 52 + _) < 2047 * 2 ^ 52 ↔ _
        omega
    _ ↔ 2 * u.1 < (2 * (2 ^ 53 - 1) + 1) * u.2 := roundDiv_lt_succ_iff u.1 hpos (by norm_num)
    _ ↔ (u.1 : ℚ) / u.2 < 2 ^ 53 - 1 / 2 := by
        rw [div_lt_iff₀ (by exact_mod_cast hpos), ← @Nat.cast_lt ℚ]
        push_cast
        constructor <;> intro h <;> linarith
    _ ↔ (num : ℚ) / den < overflowBound := by
        rw [hratio, div_lt_iff₀ (by positivity), overflowBound]
        norm_num

theorem fractionMagnitude_of_le {num den : Nat} (hden : den ≠ 0) (h : (2 : ℚ) ^ (1024 : Int) ≤ num / den) :
    fractionMagnitude num den = infiniteMagnitude := by
  have hnum : num ≠ 0 := by
    rintro rfl
    rw [Nat.cast_zero, zero_div] at h
    exact absurd h (not_le.2 (by positivity))
  obtain ⟨-, hbelow, hcases⟩ := isUnit_unitExponent hnum hden
  rw [fractionMagnitude_of_ne_zero hnum rfl]
  generalize unitExponent num den = e at hbelow hcases
  have hexponent := (zpow_lt_zpow_iff_right₀ (by norm_num : (1 : ℚ) < 2)).1 (lt_of_le_of_lt h hbelow)
  have hpos := inUnits_den_pos Nat.two_pos num (Nat.pos_of_ne_zero hden) e
  have hunits : 2 ^ 52 ≤ (inUnits 2 num den e).1 / (inUnits 2 num den e).2 := by
    rw [Nat.le_div_iff_mul_le hpos, ← @Nat.cast_le ℚ, Nat.cast_mul, ← le_div_iff₀ (by exact_mod_cast hpos),
      inUnits_ratio Nat.two_pos, le_div_iff₀ (by positivity)]
    refine le_trans (le_of_eq ?_) (hcases.resolve_left (by omega))
    rw [add_comm, zpow_add₀ (by norm_num)]
    norm_num
  have hround := le_roundDiv (inUnits 2 num den e).1 (inUnits 2 num den e).2
  refine Nat.min_eq_left ?_
  change 2047 * 2 ^ 52 ≤ (e + 1074).toNat * 2 ^ 52 + _
  omega

/-- A fraction rounds to a finite number exactly below the bound. -/
theorem isFinite_ofFraction_iff {num den : Nat} (hden : den ≠ 0) (negative : Bool) :
    (ofFraction negative num den).isFinite = true ↔ (num : ℚ) / den < overflowBound := by
  rcases lt_or_ge ((num : ℚ) / den) (2 ^ (1023 : Int)) with hlow | hlow
  · exact iff_of_true (isFinite_ofFraction hden hlow negative) (hlow.trans two_zpow_lt_overflowBound)
  rw [ofFraction_eq, isFinite_ofMagnitude_iff negative (fractionMagnitude_le num den)]
  rcases lt_or_ge ((num : ℚ) / den) (2 ^ (1024 : Int)) with hhigh | hhigh
  · exact fractionMagnitude_lt_iff hden hlow hhigh
  · rw [fractionMagnitude_of_le hden hhigh]
    exact iff_of_false (lt_irrefl _) (not_lt.2 (overflowBound_lt_two_zpow.le.trans hhigh))

theorem Decimal.isFinite_toNumber_iff (d : Decimal) : d.toNumber.isFinite = true ↔ d.value < overflowBound := by
  obtain ⟨num, den, hden, hvalue⟩ := d.exists_fraction
  rw [d.toNumber_eq hden hvalue, isFinite_ofFraction_iff hden, hvalue]

/-- The text of a decimal is a number exactly if it does not overflow. -/
theorem ofText?_eq_none_iff {text : String} {d : Decimal} (h : Decimal.ofText? text.toList = some d) :
    ofText? text = none ↔ overflowBound ≤ d.value := by
  rw [ofText?, h, Option.map_some, Option.filter_eq_none_iff, ← not_lt, ← d.isFinite_toNumber_iff]
  simp

end PolicyEngine.Number
