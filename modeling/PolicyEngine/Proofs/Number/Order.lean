import PolicyEngine.Proofs.Number.Bits

/-! Numbers in their order. Every number but NaN has a rank among the integers, and two numbers compare as
their ranks do; so a comparison reads the same from its other side, and finite numbers stand in one line up to
the signs of zeros. -/
namespace PolicyEngine.Number
open Float.Model

/-- The order of two numbers, none where one of them is NaN. -/
def order (x y : Float) : Option Ordering := (view x).unpacked.compare (view y).unpacked

theorem beq_eq_order (x y : Float) : (x == y) = (order x y == some .eq) := by
  change x.toModel.unpack.beq y.toModel.unpack = _
  rw [unpack_toModel, unpack_toModel]
  rfl

theorem lt_iff_order (x y : Float) : x < y ↔ order x y = some .lt := by
  change decide (x.toModel.unpack.lt y.toModel.unpack = true) = true ↔ _
  rw [decide_eq_true_iff, unpack_toModel, unpack_toModel]
  exact beq_iff_eq

theorem le_iff_order (x y : Float) : x ≤ y ↔ (order x y).any (·.isLE) = true := by
  change decide (x.toModel.unpack.le y.toModel.unpack = true) = true ↔ _
  rw [decide_eq_true_iff, unpack_toModel, unpack_toModel]
  exact Iff.rfl

/-- A magnitude under a sign. -/
def signed (negative : Bool) (m : Nat) : Int := if negative then -(m : Int) else m

@[simp] theorem signed_false (m : Nat) : signed false m = m := rfl

@[simp] theorem signed_true (m : Nat) : signed true m = -(m : Int) := rfl

/-- The rank of a number among all others, the same for both zeros; NaN has none. -/
def View.rank? : View → Option Int
  | .nan => none
  | .infinite negative => some (signed negative infiniteMagnitude)
  | .finite p => some (signed p.negative p.magnitude)

def rank? (x : Float) : Option Int := (view x).rank?

variable {x y z : Float} {p q : Parts} {a b : Bool}

theorem exists_rank? (h : x.isFinite = true) : ∃ i, rank? x = some i := by
  obtain ⟨p, hview⟩ := (isFinite_eq_view x).1 h
  exact ⟨signed p.negative p.magnitude, by rw [rank?, hview, View.rank?]⟩

theorem isNaN_of_isFinite (h : x.isFinite = true) : x.isNaN = false := by
  change x.toModel.unpack.isFinite = true at h
  change x.toModel.unpack.isNaN = false
  cases hx : x.toModel.unpack with
  | notANumber =>
    rw [hx] at h
    cases h
  | _ => rfl

theorem signed_between (negative : Bool) {m n : Nat} (h : m < n) :
    signed true n < signed negative m ∧ signed negative m < signed false n := by
  cases negative <;> simp only [signed_false, signed_true] <;> omega

theorem signed_inj {m n : Nat} (h : signed a m = signed b n) : a = b ∧ m = n ∨ m = 0 ∧ n = 0 := by
  cases a <;> cases b <;> simp only [signed_false, signed_true] at h <;> simp <;> omega

theorem view_infinity (negative : Bool) : view (infinity negative) = .infinite negative := by
  cases negative <;> decide +kernel

theorem rank?_infinity (negative : Bool) : rank? (infinity negative) = some (signed negative infiniteMagnitude) := by
  rw [rank?, view_infinity, View.rank?]

/-- A number with a rank is what its rank says, up to the sign of a zero. -/
theorem eq_ofMagnitude_of_rank? {i : Int} (h : rank? x = some i) :
    ∃ negative m, x = ofMagnitude negative m ∧ i = signed negative m := by
  rw [rank?] at h
  cases hview : view x with
  | nan =>
    rw [hview] at h
    cases h
  | infinite negative =>
    rw [hview] at h
    exact ⟨negative, infiniteMagnitude, eq_of_view_eq (hview.trans (view_infinity negative).symm),
      (Option.some.inj h).symm⟩
  | finite p =>
    rw [hview] at h
    exact ⟨p.negative, p.magnitude, (ofMagnitude_of_view hview).symm, (Option.some.inj h).symm⟩

/-! Magnitudes -/

/-- A greater exponent makes a greater magnitude, whatever the significands. -/
theorem Parts.magnitude_lt_of_exponent_lt (hp : p.Canonical) (hq : q.Canonical) (h : p.exponent < q.exponent) :
    p.magnitude < q.magnitude := by
  obtain ⟨hlt, hlow, -, -⟩ := hp
  obtain ⟨-, -, -, hcases⟩ := hq
  change (p.exponent + 1074).toNat * 2 ^ 52 + p.significand < (q.exponent + 1074).toNat * 2 ^ 52 + q.significand
  omega

/-- Exponents first and significands then is the order of magnitudes. -/
theorem Parts.compare_magnitude (hp : p.Canonical) (hq : q.Canonical) :
    (compare p.exponent q.exponent).then (compare p.significand q.significand) = compare p.magnitude q.magnitude := by
  rcases Int.lt_trichotomy p.exponent q.exponent with hlt | heq | hgt
  · rw [Int.compare_eq_lt.2 hlt, Nat.compare_eq_lt.2 (magnitude_lt_of_exponent_lt hp hq hlt)]
    rfl
  · rw [Int.compare_eq_eq.2 heq, Nat.compare_eq_ite_lt p.magnitude, Nat.compare_eq_ite_lt p.significand, magnitude,
      magnitude, heq]
    simp only [Nat.add_lt_add_iff_left]
    rfl
  · rw [Int.compare_eq_gt.2 hgt, Nat.compare_eq_gt.2 (magnitude_lt_of_exponent_lt hq hp hgt)]
    rfl

theorem Parts.magnitude_eq_zero (hp : p.Canonical) (h : p.significand = 0) : p.magnitude = 0 := by
  obtain ⟨-, -, -, hcases⟩ := hp
  have hexponent : p.exponent = -1074 := by omega
  rw [magnitude, h, hexponent]
  rfl

/-! Ranks -/

/-- A finite number is a zero, or above it, or below it. -/
theorem unpacked_finite (hp : p.Canonical) :
    ((View.finite p).unpacked = .zero (signOf p.negative) ∧ signed p.negative p.magnitude = 0) ∨
      (∃ h, (View.finite p).unpacked = .finite .positive p.significand p.exponent h ∧
        signed p.negative p.magnitude = p.magnitude ∧ 0 < p.magnitude) ∨
      ∃ h, (View.finite p).unpacked = .finite .negative p.significand p.exponent h ∧
        signed p.negative p.magnitude = -p.magnitude ∧ 0 < p.magnitude := by
  rw [View.unpacked]
  by_cases hzero : p.significand = 0
  · refine .inl ⟨dif_pos hzero, ?_⟩
    rw [Parts.magnitude_eq_zero hp hzero]
    cases p.negative <;> rfl
  · have hpos : 0 < p.magnitude := by
      rw [Parts.magnitude]
      omega
    rw [dif_neg hzero]
    cases p.negative with
    | false => exact .inr (.inl ⟨Nat.pos_of_ne_zero hzero, rfl, signed_false _, hpos⟩)
    | true => exact .inr (.inr ⟨Nat.pos_of_ne_zero hzero, rfl, signed_true _, hpos⟩)

theorem compare_finite (hp : p.Canonical) (hq : q.Canonical) :
    UnpackedFloat.compare (View.finite p).unpacked (View.finite q).unpacked =
      some (compare (signed p.negative p.magnitude) (signed q.negative q.magnitude)) := by
  have hmagnitude := Parts.compare_magnitude hp hq
  rcases unpacked_finite hp with ⟨hu, hi⟩ | ⟨_, hu, hi, hpos⟩ | ⟨_, hu, hi, hpos⟩ <;>
    rcases unpacked_finite hq with ⟨hv, hj⟩ | ⟨_, hv, hj, hpos'⟩ | ⟨_, hv, hj, hpos'⟩ <;>
    rw [hu, hv, hi, hj]
  · rfl
  · exact congrArg some (Int.compare_eq_lt.2 (by omega)).symm
  · exact congrArg some (Int.compare_eq_gt.2 (by omega)).symm
  · exact congrArg some (Int.compare_eq_gt.2 (by omega)).symm
  · refine congrArg some (hmagnitude.trans ?_)
    rw [Nat.compare_eq_ite_lt, Int.compare_eq_ite_lt]
    simp only [Int.ofNat_lt]
  · exact congrArg some (Int.compare_eq_gt.2 (by omega)).symm
  · exact congrArg some (Int.compare_eq_lt.2 (by omega)).symm
  · exact congrArg some (Int.compare_eq_lt.2 (by omega)).symm
  · refine congrArg some ((congrArg Ordering.swap hmagnitude).trans ?_)
    rw [Nat.compare_swap, Nat.compare_eq_ite_lt, Int.compare_eq_ite_lt]
    simp only [Int.neg_lt_neg_iff, Int.ofNat_lt]

/-- An infinity is beyond every finite number on its side. -/
theorem compare_infinity_finite (hp : p.Canonical) :
    UnpackedFloat.compare (.infinity (signOf a)) (View.finite p).unpacked =
      some (compare (signed a infiniteMagnitude) (signed p.negative p.magnitude)) := by
  have hlt := p.magnitude_lt hp
  rcases unpacked_finite hp with ⟨hu, hi⟩ | ⟨_, hu, hi, -⟩ | ⟨_, hu, hi, -⟩ <;> rw [hu, hi]
  all_goals
    cases a with
    | false => exact congrArg some (Int.compare_eq_gt.2 (by rw [signed_false]; omega)).symm
    | true => exact congrArg some (Int.compare_eq_lt.2 (by rw [signed_true]; omega)).symm

theorem compare_finite_infinity (hp : p.Canonical) :
    UnpackedFloat.compare (View.finite p).unpacked (.infinity (signOf a)) =
      some (compare (signed p.negative p.magnitude) (signed a infiniteMagnitude)) := by
  have hlt := p.magnitude_lt hp
  rcases unpacked_finite hp with ⟨hu, hi⟩ | ⟨_, hu, hi, -⟩ | ⟨_, hu, hi, -⟩ <;> rw [hu, hi]
  all_goals
    cases a with
    | false => exact congrArg some (Int.compare_eq_lt.2 (by rw [signed_false]; omega)).symm
    | true => exact congrArg some (Int.compare_eq_gt.2 (by rw [signed_true]; omega)).symm

theorem compare_infinities : UnpackedFloat.compare (.infinity (signOf a)) (.infinity (signOf b)) =
    some (compare (signed a infiniteMagnitude) (signed b infiniteMagnitude)) := by
  revert a b
  decide

theorem compare_nan (u : UnpackedFloat) :
    UnpackedFloat.compare .notANumber u = none ∧ UnpackedFloat.compare u .notANumber = none := by
  cases u with
  | infinity s => cases s <;> exact ⟨rfl, rfl⟩
  | finite s => cases s <;> exact ⟨rfl, rfl⟩
  | _ => exact ⟨rfl, rfl⟩

/-- Numbers compare as their ranks do. -/
theorem order_eq_compare (x y : Float) : order x y = (rank? x).bind fun i => (rank? y).map fun j => compare i j := by
  have hcanonical : ∀ p, view x = .finite p → p.Canonical := fun _ => canonical_of_view
  have hcanonical' : ∀ p, view y = .finite p → p.Canonical := fun _ => canonical_of_view
  unfold order rank?
  generalize view x = u at hcanonical ⊢
  generalize view y = v at hcanonical' ⊢
  cases u with
  | nan => exact (compare_nan _).1
  | infinite a =>
    cases v with
    | nan => exact (compare_nan _).2
    | infinite b => exact compare_infinities
    | finite q => exact compare_infinity_finite (hcanonical' q rfl)
  | finite p =>
    cases v with
    | nan => exact (compare_nan _).2
    | infinite b => exact compare_finite_infinity (hcanonical p rfl)
    | finite q => exact compare_finite (hcanonical p rfl) (hcanonical' q rfl)

/-! Comparisons -/

theorem order_swap (x y : Float) : (order x y).map Ordering.swap = order y x := by
  rw [order_eq_compare, order_eq_compare]
  cases rank? x <;> cases rank? y <;> simp [Int.compare_swap]

theorem beq_comm (x y : Float) : (x == y) = (y == x) := by
  rw [beq_eq_order, beq_eq_order, ← order_swap x y]
  rcases order x y with _ | _ | _ | _ <;> rfl

theorem beq_iff_rank? : (x == y) = true ↔ ∃ i, rank? x = some i ∧ rank? y = some i := by
  rw [beq_eq_order, order_eq_compare, beq_iff_eq]
  cases rank? x <;> cases rank? y <;> simp
  exact eq_comm

theorem lt_iff_rank? : x < y ↔ ∃ i j, rank? x = some i ∧ rank? y = some j ∧ i < j := by
  rw [lt_iff_order, order_eq_compare]
  cases rank? x <;> cases rank? y <;> simp [Int.compare_eq_lt]

theorem le_iff_rank? : x ≤ y ↔ ∃ i j, rank? x = some i ∧ rank? y = some j ∧ i ≤ j := by
  rw [le_iff_order, order_eq_compare]
  cases rank? x <;> cases rank? y <;> simp [Int.isLE_compare]

protected theorem le_refl (h : x.isFinite = true) : x ≤ x := by
  obtain ⟨i, hi⟩ := exists_rank? h
  exact le_iff_rank?.2 ⟨i, i, hi, hi, Int.le_refl i⟩

protected theorem le_trans (hxy : x ≤ y) (hyz : y ≤ z) : x ≤ z := by
  obtain ⟨i, j, hi, hj, hij⟩ := le_iff_rank?.1 hxy
  obtain ⟨j', k, hj', hk, hjk⟩ := le_iff_rank?.1 hyz
  obtain rfl : j = j' := Option.some.inj (hj.symm.trans hj')
  exact le_iff_rank?.2 ⟨i, k, hi, hk, Int.le_trans hij hjk⟩

protected theorem le_of_lt (h : x < y) : x ≤ y := by
  obtain ⟨i, j, hi, hj, hij⟩ := lt_iff_rank?.1 h
  exact le_iff_rank?.2 ⟨i, j, hi, hj, Int.le_of_lt hij⟩

/-- Of two finite numbers one is not above the other. -/
protected theorem le_of_not_lt (hx : x.isFinite = true) (hy : y.isFinite = true) (h : ¬ x < y) : y ≤ x := by
  obtain ⟨i, hi⟩ := exists_rank? hx
  obtain ⟨j, hj⟩ := exists_rank? hy
  refine le_iff_rank?.2 ⟨j, i, hj, hi, Int.not_lt.1 fun hij => h ?_⟩
  exact lt_iff_rank?.2 ⟨i, j, hi, hj, hij⟩

/-- Finite numbers are between the infinities. -/
theorem infinity_lt (h : x.isFinite = true) : infinity true < x ∧ x < infinity false := by
  obtain ⟨p, hview⟩ := (isFinite_eq_view x).1 h
  have hx : rank? x = some (signed p.negative p.magnitude) := by rw [rank?, hview, View.rank?]
  have hlt := p.magnitude_lt (canonical_of_view hview)
  have hsigned := signed_between p.negative hlt
  exact ⟨lt_iff_rank?.2 ⟨_, _, rank?_infinity true, hx, hsigned.1⟩,
    lt_iff_rank?.2 ⟨_, _, hx, rank?_infinity false, hsigned.2⟩⟩

end PolicyEngine.Number
