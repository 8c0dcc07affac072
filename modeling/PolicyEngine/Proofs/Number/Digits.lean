import Mathlib.Algebra.Group.Nat.Defs
import PolicyEngine.Number.Text

/-! Digits in base ten: what they are worth side by side, and where a run of them ends. -/
namespace PolicyEngine.Number

theorem isDigit_of_mem_digitsOf {n : Nat} {c : Char} (h : c ∈ digitsOf n) : c.isDigit :=
  Nat.isDigit_of_mem_toDigits (by decide) (by decide) h

theorem digitsOf_ne_nil (n : Nat) : digitsOf n ≠ [] := Nat.toDigits_ne_nil

theorem notMem_digitsOf {c : Char} (hc : c.isDigit = false) (n : Nat) : c ∉ digitsOf n := by
  intro hmem
  rw [isDigit_of_mem_digitsOf hmem] at hc
  cases hc

theorem isDigit_of_mem_zeros {n : Nat} {c : Char} (h : c ∈ zeros n) : c.isDigit := by
  rw [List.eq_of_mem_replicate h]
  decide

theorem digitsValue_append (ds es : List Char) :
    digitsValue (ds ++ es) = digitsValue ds * 10 ^ es.length + digitsValue es := by
  unfold digitsValue
  rw [Nat.ofDigitChars_append, Nat.ofDigitChars_eq_ofDigitChars_zero, Nat.mul_comm]

theorem digitsValue_zeros (n : Nat) : digitsValue (zeros n) = 0 := by
  unfold digitsValue zeros
  rw [Nat.ofDigitChars_replicate_zero, Nat.mul_zero]

theorem digitRun_of_all {ds : List Char} (rest : List Char) (h : ∀ c ∈ ds, c.isDigit)
    (hrest : ∀ c ∈ rest.head?, c.isDigit = false) : digitRun (ds ++ rest) = (ds, rest) := by
  unfold digitRun
  rw [List.takeWhile_append_of_pos h, List.dropWhile_append_of_pos h]
  cases rest with
  | nil => simp
  | cons c cs =>
    have hc : c.isDigit = false := hrest c rfl
    simp [hc]

/-- The texts of a natural number: digits in base ten with an optional plus. -/
theorem naturalBelow?_eq_some_iff {bound n : Nat} {text : List Char} : naturalBelow? bound text = some n ↔
    ∃ sign digits, text = sign ++ digits ∧ (sign = [] ∨ sign = ['+']) ∧ digits ≠ [] ∧ (∀ c ∈ digits, c.isDigit) ∧
      digitsValue digits = n ∧ n < bound := by
  have hread : ∀ digits : List Char,
      (if (digits.isEmpty || !digits.all Char.isDigit) = true then none
        else if digitsValue digits < bound then some (digitsValue digits) else none) = some n ↔
      digits ≠ [] ∧ (∀ c ∈ digits, c.isDigit) ∧ digitsValue digits = n ∧ n < bound := by
    intro digits
    rw [Option.ite_none_left_eq_some, Option.ite_none_right_eq_some, Option.some.injEq, Bool.or_eq_true, not_or,
      List.isEmpty_iff, Bool.not_eq_true', Bool.not_eq_false, List.all_eq_true, and_assoc]
    constructor
    · rintro ⟨hne, hall, hlt, rfl⟩
      exact ⟨hne, hall, rfl, hlt⟩
    · rintro ⟨hne, hall, rfl, hlt⟩
      exact ⟨hne, hall, hlt, rfl⟩
  constructor
  · intro h
    unfold naturalBelow? at h
    split at h
    · next rest => exact ⟨['+'], rest, rfl, .inr rfl, (hread rest).1 h⟩
    · exact ⟨[], text, rfl, .inl rfl, (hread text).1 h⟩
  · rintro ⟨sign, digits, rfl, rfl | rfl, h⟩
    · rw [List.nil_append]
      unfold naturalBelow?
      split
      · exact absurd (h.2.1 '+' List.mem_cons_self) (by decide)
      · exact (hread digits).2 h
    · exact (hread digits).2 h

/-- A natural number is read from its digits. -/
theorem naturalBelow?_digitsOf {bound n : Nat} (h : n < bound) : naturalBelow? bound (digitsOf n) = some n :=
  naturalBelow?_eq_some_iff.2 ⟨[], digitsOf n, rfl, .inl rfl, digitsOf_ne_nil n,
    fun _ hc => isDigit_of_mem_digitsOf hc, digitsValue_digitsOf n, h⟩

end PolicyEngine.Number
