import Mathlib.Algebra.Group.Nat.Defs
import PolicyEngine.Number.Binary

/-! The bits of a number and its view determine each other, and sign, order and finiteness of numbers
can be read off their views. Everything rests on packing a bit pattern again after it was unpacked. -/
namespace PolicyEngine.Number
open Float.Model Float.Model.UnpackedFloat

/-- The format of numbers. -/
abbrev format : Format := .binary64

abbrev signBits (b : BitVec 64) : BitVec 1 := @unpackSign format b

abbrev exponentBits (b : BitVec 64) : BitVec 11 := @unpackExponent format b

abbrev mantissaBits (b : BitVec 64) : BitVec 52 := @unpackMantissa format b

theorem toNat_packComponents (s : Sign) (e : BitVec 11) (m : BitVec 52) :
    (packComponents format s e m).toNat = s.toBitVec.toNat * 2 ^ 63 + e.toNat * 2 ^ 52 + m.toNat := by
  have he := e.isLt
  have hm := m.isLt
  simp only [packComponents, BitVec.toNat_append]
  rw [← Nat.shiftLeft_add_eq_or_of_lt he, ← Nat.shiftLeft_add_eq_or_of_lt hm]
  simp only [Nat.shiftLeft_eq]
  omega

theorem toNat_mantissaBits (b : BitVec 64) : (mantissaBits b).toNat = b.toNat % 2 ^ 52 := by
  simp [unpackMantissa]

theorem toNat_exponentBits (b : BitVec 64) : (exponentBits b).toNat = b.toNat / 2 ^ 52 % 2 ^ 11 := by
  simp [unpackExponent, Nat.shiftRight_eq_div_pow]

theorem toNat_signBits (b : BitVec 64) : (signBits b).toNat = b.toNat / 2 ^ 63 := by
  have hlt := b.isLt
  change ((b.extractLsb 63 63).cast _).toNat = _
  rw [BitVec.toNat_cast, BitVec.extractLsb_toNat, Nat.shiftRight_eq_div_pow]
  omega

theorem toBitVec_ofBitVec (b : BitVec 1) : (Sign.ofBitVec b).toBitVec = b := by
  revert b
  decide

/-- A pattern is put together again from its three fields. -/
theorem packComponents_fields (b : BitVec 64) :
    packComponents format (.ofBitVec (signBits b)) (exponentBits b) (mantissaBits b) = b := by
  apply BitVec.eq_of_toNat_eq
  rw [toNat_packComponents, toBitVec_ofBitVec, toNat_signBits, toNat_exponentBits, toNat_mantissaBits]
  have hlt := b.isLt
  omega

theorem pack_normal (s : Sign) (m k : Nat) (hpos : 0 < m) (hlow : 2 ^ 52 ≤ m) (hhigh : m < 2 ^ 53)
    (hk : k < 2047) :
    UnpackedFloat.pack format (.finite s m ((k : Int) - 1075) hpos) =
      packComponents format s (BitVec.ofNat 11 k) (BitVec.ofNat 52 m) := by
  have hlog : m.log2 + 1 = 53 := by
    rw [(Nat.log2_eq_iff (by omega)).2 ⟨hlow, hhigh⟩]
  have hbias : ((k : Int) - 1075 + (1023 : Nat) + (52 : Nat)).toNat = k := by omega
  change (if 2 ^ 11 ≤ ((k : Int) - 1075 + (1023 : Nat) + (52 : Nat)).toNat + 1 then packedInfinity format s
    else if m.log2 + 1 = 53 then packComponents format s
      (BitVec.ofNat 11 ((k : Int) - 1075 + (1023 : Nat) + (52 : Nat)).toNat) (BitVec.ofNat 52 m)
    else packComponents format s 0#11 (BitVec.ofNat 52 m)) = _
  rw [hbias, if_neg (by omega), if_pos hlog]

theorem pack_subnormal (s : Sign) (m : Nat) (hpos : 0 < m) (hhigh : m < 2 ^ 52) :
    UnpackedFloat.pack format (.finite s m (-1074) hpos) =
      packComponents format s 0#11 (BitVec.ofNat 52 m) := by
  have hlog : m.log2 < 52 := (Nat.log2_lt (by omega)).2 hhigh
  change (if 2 ^ 11 ≤ (-1074 + (1023 : Nat) + (52 : Nat) : Int).toNat + 1 then packedInfinity format s
    else if m.log2 + 1 = 53 then packComponents format s 1#11 (BitVec.ofNat 52 m)
    else packComponents format s 0#11 (BitVec.ofNat 52 m)) = _
  rw [if_neg (by decide), if_neg (by omega)]

/-- The leading bit of a normal significand is not stored. -/
theorem toNat_append_mantissaBits (b : BitVec 64) :
    (1#1 ++ mantissaBits b).toNat = 2 ^ 52 + (mantissaBits b).toNat := by
  rw [BitVec.toNat_append, ← Nat.shiftLeft_add_eq_or_of_lt (mantissaBits b).isLt]
  rfl

/-- Patterns that are not a second way to spell NaN are packed as they were unpacked. -/
theorem pack_unpack {b : BitVec 64} (h : format.Valid b) :
    UnpackedFloat.pack format (UnpackedFloat.unpack format b) = b := by
  have hfields := packComponents_fields b
  have hmantissa : (mantissaBits b).toNat < 2 ^ 52 := (mantissaBits b).isLt
  have hexponent : (exponentBits b).toNat < 2 ^ 11 := (exponentBits b).isLt
  unfold UnpackedFloat.unpack
  dsimp only
  by_cases hinf : exponentBits b = -1#11
  · rw [if_pos hinf]
    by_cases hzero : mantissaBits b = 0#52
    · rw [if_pos hzero]
      rw [hinf, hzero] at hfields
      exact hfields
    · rw [if_neg hzero]
      exact (h.eq_packedNaN hinf hzero).symm
  · rw [if_neg hinf]
    by_cases hsub : exponentBits b = 0#11
    · rw [if_pos hsub]
      by_cases hzero : mantissaBits b = 0#52
      · rw [dif_pos hzero]
        rw [hsub, hzero] at hfields
        exact hfields
      · rw [dif_neg hzero]
        have hpos : 0 < (mantissaBits b).toNat := by
          refine Nat.pos_of_ne_zero fun h0 => hzero ?_
          exact BitVec.eq_of_toNat_eq h0
        have hpack := pack_subnormal (.ofBitVec (signBits b)) _ hpos hmantissa
        rw [BitVec.ofNat_toNat, BitVec.setWidth_eq, ← hsub, hfields] at hpack
        change UnpackedFloat.pack format
          (.finite _ _ (((exponentBits b).toNat : Int) - ((1023 : Nat) + (52 : Nat)) + 1) _) = b
        rw [hsub]
        exact hpack
    · rw [if_neg hsub]
      have hne : (exponentBits b).toNat ≠ 2047 := fun h => hinf (BitVec.eq_of_toNat_eq h)
      have hm := toNat_append_mantissaBits b
      have hpack := pack_normal (.ofBitVec (signBits b)) (1#1 ++ mantissaBits b).toNat (exponentBits b).toNat
        (by omega) (by omega) (by omega) (by omega)
      have hdrop : BitVec.ofNat 52 (1#1 ++ mantissaBits b).toNat = mantissaBits b := by
        apply BitVec.eq_of_toNat_eq
        rw [BitVec.toNat_ofNat, hm]
        omega
      rw [BitVec.ofNat_toNat, BitVec.setWidth_eq, hdrop, hfields] at hpack
      exact hpack

theorem toBits_ofBits {u : UInt64} (h : format.Valid u.toBitVec) : (Float.ofBits u).toBits = u := by
  change UInt64.ofBitVec (UnpackedFloat.pack format (UnpackedFloat.unpack format u.toBitVec)) = u
  rw [pack_unpack h]

theorem ofBits_toBits (x : Float) : Float.ofBits x.toBits = x := by
  have hbits : (Float.ofBits x.toBits).toBits = x.toBits := toBits_ofBits x.toModel.valid
  obtain ⟨⟨u, hu⟩⟩ := x
  exact congrArg Float.ofModel (Float.Model.mk.injEq .. ▸ hbits)

/-! Views -/

def signOf (negative : Bool) : Sign := if negative then .negative else .positive

/-- A view as the model of `Float` has it. -/
def View.unpacked : View → UnpackedFloat
  | .nan => .notANumber
  | .infinite negative => .infinity (signOf negative)
  | .finite p =>
    if h : p.significand = 0 then .zero (signOf p.negative)
    else .finite (signOf p.negative) p.significand p.exponent (Nat.pos_of_ne_zero h)

theorem ofBitVec_signBits (b : BitVec 64) :
    Sign.ofBitVec (signBits b) = signOf (decide (2 ^ 63 ≤ b.toNat)) := by
  have hsign := toNat_signBits b
  have hlt := b.isLt
  by_cases h : 2 ^ 63 ≤ b.toNat
  · have hone : signBits b = 1#1 := by
      apply BitVec.eq_of_toNat_eq
      change (signBits b).toNat = 1
      omega
    rw [hone, decide_eq_true h]
    rfl
  · have hzero : signBits b = 0#1 := by
      apply BitVec.eq_of_toNat_eq
      change (signBits b).toNat = 0
      omega
    rw [hzero, decide_eq_false h]
    rfl

/-- The view, read off the three fields of a pattern. -/
def viewBits (b : BitVec 64) : View :=
  if exponentBits b = -1#11 then
    if mantissaBits b = 0#52 then .infinite (decide (2 ^ 63 ≤ b.toNat)) else .nan
  else if exponentBits b = 0#11 then
    .finite ⟨decide (2 ^ 63 ≤ b.toNat), (mantissaBits b).toNat, -1074⟩
  else .finite ⟨decide (2 ^ 63 ≤ b.toNat), 2 ^ 52 + (mantissaBits b).toNat, ((exponentBits b).toNat : Int) - 1075⟩

theorem view_eq_viewBits (x : Float) : view x = viewBits x.toBits.toBitVec := by
  have hmantissa : mantissaBits x.toBits.toBitVec = 0#52 ↔ x.toBits.toNat % 2 ^ 52 = 0 := by
    rw [← BitVec.toNat_inj, toNat_mantissaBits]
    rfl
  have hinf : exponentBits x.toBits.toBitVec = -1#11 ↔ x.toBits.toNat / 2 ^ 52 % 2 ^ 11 = 2047 := by
    rw [← BitVec.toNat_inj, toNat_exponentBits]
    rfl
  have hsub : exponentBits x.toBits.toBitVec = 0#11 ↔ x.toBits.toNat / 2 ^ 52 % 2 ^ 11 = 0 := by
    rw [← BitVec.toNat_inj, toNat_exponentBits]
    rfl
  simp only [viewBits, hmantissa, hinf, hsub, toNat_mantissaBits, toNat_exponentBits]
  rfl

theorem finite_congr {s t : Sign} {m n : Nat} {e f : Int} {hm : 0 < m} {hn : 0 < n} (hs : s = t) (hmn : m = n)
    (he : e = f) : UnpackedFloat.finite s m e hm = .finite t n f hn := by
  subst hs hmn he
  rfl

theorem unpack_toModel (x : Float) : x.toModel.unpack = (view x).unpacked := by
  change UnpackedFloat.unpack format x.toBits.toBitVec = _
  rw [view_eq_viewBits]
  generalize x.toBits.toBitVec = b
  have hsign := ofBitVec_signBits b
  unfold UnpackedFloat.unpack viewBits
  dsimp only
  by_cases hinf : exponentBits b = -1#11
  · rw [if_pos hinf, if_pos hinf]
    by_cases hzero : mantissaBits b = 0#52
    · rw [if_pos hzero, if_pos hzero]
      exact congrArg UnpackedFloat.infinity hsign
    · rw [if_neg hzero, if_neg hzero]
      rfl
  · rw [if_neg hinf, if_neg hinf]
    by_cases hsub : exponentBits b = 0#11
    · rw [if_pos hsub, if_pos hsub, View.unpacked]
      by_cases hzero : mantissaBits b = 0#52
      · rw [dif_pos hzero, dif_pos (by rw [hzero]; rfl)]
        exact congrArg UnpackedFloat.zero hsign
      · have hne : (mantissaBits b).toNat ≠ 0 := fun h => hzero (BitVec.eq_of_toNat_eq h)
        rw [dif_neg hzero, dif_neg hne]
        refine finite_congr hsign rfl ?_
        change ((exponentBits b).toNat : Int) - ((1023 : Nat) + (52 : Nat)) + 1 = -1074
        rw [hsub]
        rfl
    · rw [if_neg hsub, if_neg hsub, View.unpacked, dif_neg (by simp)]
      exact finite_congr hsign (toNat_append_mantissaBits b) rfl

theorem pack_view (x : Float) : Float.ofModel (Float.Model.pack (view x).unpacked) = x := by
  rw [← unpack_toModel]
  exact ofBits_toBits x

theorem eq_of_view_eq {x y : Float} (h : view x = view y) : x = y := by
  rw [← pack_view x, ← pack_view y, h]

theorem isFinite_eq_view (x : Float) : x.isFinite = true ↔ ∃ p, view x = .finite p := by
  change x.toModel.unpack.isFinite = true ↔ _
  rw [unpack_toModel]
  cases view x with
  | nan =>
    refine ⟨fun h => ?_, fun ⟨p, h⟩ => ?_⟩ <;> cases h
  | infinite negative =>
    refine ⟨fun h => ?_, fun ⟨p, h⟩ => ?_⟩ <;> cases h
  | finite p =>
    refine ⟨fun _ => ⟨p, rfl⟩, fun _ => ?_⟩
    rw [View.unpacked]
    by_cases h : p.significand = 0
    · rw [dif_pos h]
      rfl
    · rw [dif_neg h]
      rfl

/-! Magnitudes -/

/-- The parts of a finite number with this sign whose other bits are `m`. -/
def Parts.ofMagnitude (negative : Bool) (m : Nat) : Parts :=
  if m / 2 ^ 52 = 0 then ⟨negative, m, -1074⟩
  else ⟨negative, 2 ^ 52 + m % 2 ^ 52, ((m / 2 ^ 52 : Nat) : Int) - 1075⟩

/-- The bits other than the sign. -/
def Parts.magnitude (p : Parts) : Nat := (p.exponent + 1074).toNat * 2 ^ 52 + p.significand

/-- Parts that a pattern can have: a significand with its leading bit, or the least exponent. -/
def Parts.Canonical (p : Parts) : Prop :=
  p.significand < 2 ^ 53 ∧ -1074 ≤ p.exponent ∧ p.exponent ≤ 971 ∧
    (2 ^ 52 ≤ p.significand ∨ p.exponent = -1074)

theorem Parts.ofMagnitude_magnitude {p : Parts} (h : p.Canonical) :
    Parts.ofMagnitude p.negative p.magnitude = p := by
  obtain ⟨negative, significand, exponent⟩ := p
  obtain ⟨hlt, hlow, hhigh, hcases⟩ := h
  simp only at hlt hlow hhigh hcases
  change (if ((exponent + 1074).toNat * 2 ^ 52 + significand) / 2 ^ 52 = 0 then
      Parts.mk negative ((exponent + 1074).toNat * 2 ^ 52 + significand) (-1074)
    else ⟨negative, 2 ^ 52 + ((exponent + 1074).toNat * 2 ^ 52 + significand) % 2 ^ 52,
      (((exponent + 1074).toNat * 2 ^ 52 + significand) / 2 ^ 52 : Nat) - 1075⟩) = _
  by_cases hsub : significand < 2 ^ 52
  · have hexponent : exponent = -1074 := by omega
    rw [if_pos (by omega), hexponent]
    simp
  · have hquot : ((exponent + 1074).toNat * 2 ^ 52 + significand) / 2 ^ 52 = (exponent + 1075).toNat := by omega
    rw [if_neg (by omega), hquot, Parts.mk.injEq]
    exact ⟨rfl, by omega, by omega⟩

theorem Parts.magnitude_lt {p : Parts} (h : p.Canonical) : p.magnitude < infiniteMagnitude := by
  obtain ⟨hlt, hlow, hhigh, hcases⟩ := h
  change (p.exponent + 1074).toNat * 2 ^ 52 + p.significand < 2047 * 2 ^ 52
  omega

theorem canonical_of_view {x : Float} {p : Parts} (h : view x = .finite p) : p.Canonical := by
  rw [view_eq_viewBits] at h
  generalize x.toBits.toBitVec = b at h
  have hmantissa : (mantissaBits b).toNat < 2 ^ 52 := (mantissaBits b).isLt
  have hexponent : (exponentBits b).toNat < 2 ^ 11 := (exponentBits b).isLt
  unfold viewBits at h
  split at h
  · split at h <;> cases h
  · next hinf =>
    have hne : (exponentBits b).toNat ≠ 2047 := fun h => hinf (BitVec.eq_of_toNat_eq h)
    split at h
    · cases h
      exact ⟨Nat.lt_trans hmantissa (by decide), Int.le_refl _, by simp only; omega, .inr rfl⟩
    · next hsub =>
      have hpos : (exponentBits b).toNat ≠ 0 := fun h => hsub (BitVec.eq_of_toNat_eq h)
      cases h
      refine ⟨?_, ?_, ?_, .inl ?_⟩ <;> simp only <;> omega

theorem toNat_signed (negative : Bool) {m : Nat} (h : m ≤ infiniteMagnitude) :
    (UInt64.ofNat (if negative then Nat.pow 2 63 + m else m)).toBitVec.toNat =
      if negative then 2 ^ 63 + m else m := by
  change m ≤ 2047 * 2 ^ 52 at h
  change (if negative then 2 ^ 63 + m else m) % 2 ^ 64 = _
  apply Nat.mod_eq_of_lt
  split <;> omega

theorem view_ofMagnitude (negative : Bool) {m : Nat} (h : m < infiniteMagnitude) :
    view (ofMagnitude negative m) = .finite (.ofMagnitude negative m) := by
  have hnat := toNat_signed negative (Nat.le_of_lt h)
  change m < 2047 * 2 ^ 52 at h
  generalize hu : UInt64.ofNat (if negative then Nat.pow 2 63 + m else m) = u at hnat
  have hmantissa : (mantissaBits u.toBitVec).toNat = m % 2 ^ 52 := by
    rw [toNat_mantissaBits, hnat]
    split <;> omega
  have hexponent : (exponentBits u.toBitVec).toNat = m / 2 ^ 52 := by
    rw [toNat_exponentBits, hnat]
    split <;> omega
  have hsign : decide (2 ^ 63 ≤ u.toBitVec.toNat) = negative := by
    rw [hnat]
    cases negative with
    | false => simpa using by omega
    | true => simp
  have hinf : exponentBits u.toBitVec ≠ -1#11 := by
    intro hall
    rw [hall] at hexponent
    change 2047 = _ at hexponent
    omega
  have hvalid : format.Valid u.toBitVec := ⟨fun hall _ => absurd hall hinf⟩
  have hbits : ofMagnitude negative m = Float.ofBits u := by rw [ofMagnitude, hu]
  rw [hbits, view_eq_viewBits, toBits_ofBits hvalid, viewBits, if_neg hinf, hsign, hmantissa, hexponent,
    Parts.ofMagnitude]
  by_cases hsub : m / 2 ^ 52 = 0
  · have hzero : exponentBits u.toBitVec = 0#11 := by
      apply BitVec.eq_of_toNat_eq
      rw [hexponent, hsub]
      rfl
    rw [if_pos hzero, if_pos hsub, Nat.mod_eq_of_lt (by omega)]
  · have hpos : exponentBits u.toBitVec ≠ 0#11 := by
      intro hzero
      rw [hzero] at hexponent
      exact hsub hexponent.symm
    rw [if_neg hpos, if_neg hsub]

theorem isFinite_ofMagnitude (negative : Bool) {m : Nat} (h : m < infiniteMagnitude) :
    (ofMagnitude negative m).isFinite = true := (isFinite_eq_view _).2 ⟨_, view_ofMagnitude negative h⟩

/-- A finite number is what its parts say. -/
theorem ofMagnitude_of_view {x : Float} {p : Parts} (h : view x = .finite p) :
    ofMagnitude p.negative p.magnitude = x := by
  have hcanonical := canonical_of_view h
  apply eq_of_view_eq
  rw [view_ofMagnitude _ (Parts.magnitude_lt hcanonical), Parts.ofMagnitude_magnitude hcanonical, h]

/-- The parts under the other sign. -/
def Parts.negate (p : Parts) : Parts := ⟨!p.negative, p.significand, p.exponent⟩

theorem neg_unpacked (p : Parts) : (View.finite p).unpacked.neg = (View.finite p.negate).unpacked := by
  obtain ⟨negative, significand, exponent⟩ := p
  rw [Parts.negate, View.unpacked, View.unpacked]
  by_cases h : significand = 0
  · rw [dif_pos h, dif_pos h]
    cases negative <;> rfl
  · rw [dif_neg h, dif_neg h]
    cases negative <;> rfl

theorem Parts.negate_ofMagnitude (negative : Bool) (m : Nat) :
    (Parts.ofMagnitude negative m).negate = Parts.ofMagnitude (!negative) m := by
  unfold Parts.ofMagnitude
  split <;> rfl

theorem neg_ofMagnitude (negative : Bool) {m : Nat} (h : m < infiniteMagnitude) :
    -ofMagnitude negative m = ofMagnitude (!negative) m := by
  change Float.ofModel (Float.Model.pack (ofMagnitude negative m).toModel.unpack.neg) = _
  rw [unpack_toModel, view_ofMagnitude negative h, neg_unpacked, Parts.negate_ofMagnitude,
    ← view_ofMagnitude _ h, pack_view]

end PolicyEngine.Number
