import PolicyEngine.Proofs.Number.Order

/-! Numbers that are equal. They are the same number or both zeros, and the sign of a zero never shows in a
comparison. -/
namespace PolicyEngine.Number

def IsZero (x : Float) : Prop := ∃ negative exponent, view x = .finite ⟨negative, 0, exponent⟩

variable {x y : Float}

theorem rank?_of_isZero (h : IsZero x) : rank? x = some 0 := by
  obtain ⟨negative, exponent, hview⟩ := h
  rw [rank?, hview, View.rank?, Parts.magnitude_eq_zero (canonical_of_view hview) rfl]
  cases negative <;> rfl

theorem toInt?_of_isZero (h : IsZero x) : toInt? x = some 0 := by
  obtain ⟨negative, exponent, hview⟩ := h
  simp [toInt?, hview, Parts.isWhole, Parts.floor, Parts.numerator]

theorem isZero_zero (negative : Bool) : IsZero (zero negative) :=
  ⟨negative, -1074, view_ofMagnitude negative (by decide)⟩

theorem beq_self (h : x.isFinite) : (x == x) = true := by
  obtain ⟨i, hi⟩ := exists_rank? h
  exact beq_iff_rank?.2 ⟨i, hi, hi⟩

theorem beq_of_isZero (hx : IsZero x) (hy : IsZero y) : (x == y) = true :=
  beq_iff_rank?.2 ⟨0, rank?_of_isZero hx, rank?_of_isZero hy⟩

/-- Equal numbers are the same, or both zeros. -/
theorem eq_or_isZero_of_beq (h : (x == y) = true) : x = y ∨ IsZero x ∧ IsZero y := by
  obtain ⟨i, hx, hy⟩ := beq_iff_rank?.1 h
  obtain ⟨a, m, rfl, rfl⟩ := eq_ofMagnitude_of_rank? hx
  obtain ⟨b, n, rfl, hsigned⟩ := eq_ofMagnitude_of_rank? hy
  rcases signed_inj hsigned with ⟨rfl, rfl⟩ | ⟨rfl, rfl⟩
  · exact .inl rfl
  · exact .inr ⟨isZero_zero a, isZero_zero b⟩

theorem rank?_congr (h : (x == y) = true) : rank? x = rank? y := by
  obtain ⟨i, hx, hy⟩ := beq_iff_rank?.1 h
  rw [hx, hy]

theorem order_congr_left (h : (x == y) = true) (z : Float) : order x z = order y z := by
  rw [order_eq_compare, order_eq_compare, rank?_congr h]

theorem order_congr_right (h : (x == y) = true) (z : Float) : order z x = order z y := by
  rw [order_eq_compare, order_eq_compare, rank?_congr h]

end PolicyEngine.Number
