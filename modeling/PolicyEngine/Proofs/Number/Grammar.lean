import PolicyEngine.Proofs.Number.Digits

/-! Numerals: a minus, digits, digits behind a point, and an exponent, all but the first digits optional. A numeral is
read as the decimal that it writes. -/
namespace PolicyEngine.Number

structure IsDigits (cs : List Char) : Prop where
  nonempty : cs ≠ []
  isDigit : ∀ c ∈ cs, c.isDigit = true

inductive WritesMinus : List Char → Bool → Prop
  | absent : WritesMinus [] false
  | present : WritesMinus ['-'] true

/-- Only an exponent can have a plus. -/
inductive WritesSign : List Char → Bool → Prop
  | minus {cs : List Char} {negative : Bool} (h : WritesMinus cs negative) : WritesSign cs negative
  | plus : WritesSign ['+'] false

/-- The digits of a fraction, with a point in front where there are any. -/
inductive WritesFraction : List Char → List Char → Prop
  | absent : WritesFraction [] []
  | present {digits : List Char} (hdigits : IsDigits digits) : WritesFraction ('.' :: digits) digits

inductive WritesExponent : List Char → Int → Prop
  | absent : WritesExponent [] 0
  | present {mark : Char} {sign digits : List Char} {negative : Bool} (hmark : mark = 'e' ∨ mark = 'E')
      (hsign : WritesSign sign negative) (hdigits : IsDigits digits) :
      WritesExponent (mark :: (sign ++ digits)) (if negative then -(digitsValue digits : Int) else digitsValue digits)

/-- The numerals, each with the decimal that it writes. -/
inductive Writes : List Char → Decimal → Prop
  | numeral {minus whole fraction digits exponent : List Char} {negative : Bool} {k : Int}
      (hminus : WritesMinus minus negative) (hwhole : IsDigits whole) (hfraction : WritesFraction fraction digits)
      (hexponent : WritesExponent exponent k) :
      Writes (minus ++ whole ++ fraction ++ exponent) ⟨negative, digitsValue (whole ++ digits), k - digits.length⟩

theorem IsDigits.head {cs : List Char} (h : IsDigits cs) (rest : List Char) :
    ∃ c more, cs ++ rest = c :: more ∧ c.isDigit = true := by
  obtain ⟨c, more, rfl⟩ := List.exists_cons_of_ne_nil h.nonempty
  exact ⟨c, more ++ rest, rfl, h.isDigit c List.mem_cons_self⟩

theorem WritesExponent.head {cs : List Char} {k : Int} (h : WritesExponent cs k) :
    ∀ c ∈ cs.head?, c = 'e' ∨ c = 'E' := by
  cases h with
  | absent => simp
  | present hmark => simpa using hmark

/-- What stands behind the digits in front is no digit. -/
theorem isDigit_of_head {cs digits rest : List Char} (h : WritesFraction cs digits)
    (hrest : ∀ c ∈ rest.head?, c.isDigit = false) : ∀ c ∈ (cs ++ rest).head?, c.isDigit = false := by
  cases h with
  | absent => exact hrest
  | present => simp

/-! The parts of a numeral as they are read -/

theorem takeSign_of_isDigit {c : Char} (h : c.isDigit = true) (cs : List Char) :
    takeSign (c :: cs) = (false, c :: cs) := by
  have hsign : c ≠ '-' ∧ c ≠ '+' := by
    constructor <;> rintro rfl <;> cases h
  unfold takeSign
  split
  · next heq => exact absurd (List.cons.inj heq).1 hsign.1
  · next heq => exact absurd (List.cons.inj heq).1 hsign.2
  · rfl

theorem takeSign_of_writes {sign digits : List Char} {negative : Bool} (h : WritesSign sign negative)
    (hdigits : IsDigits digits) (rest : List Char) :
    takeSign (sign ++ (digits ++ rest)) = (negative, digits ++ rest) := by
  cases h with
  | plus => rfl
  | minus h =>
    cases h with
    | present => rfl
    | absent =>
      obtain ⟨c, more, heq, hc⟩ := hdigits.head rest
      rw [heq]
      exact takeSign_of_isDigit hc more

theorem takeFraction_of_writes {cs digits rest : List Char} (h : WritesFraction cs digits)
    (hrest : ∀ c ∈ rest.head?, c = 'e' ∨ c = 'E') : takeFraction (cs ++ rest) = (digits, rest) := by
  cases h with
  | absent =>
    rw [List.nil_append]
    unfold takeFraction
    split
    · exact absurd (hrest '.' rfl) (by decide)
    · rfl
  | present hdigits =>
    refine digitRun_of_all rest hdigits.isDigit fun c hc => ?_
    rcases hrest c hc with rfl | rfl <;> rfl

theorem exponentOf?_of_writes {cs : List Char} {k : Int} (h : WritesExponent cs k) : exponentOf? cs = some k := by
  cases h with
  | absent => rfl
  | @present mark sign digits negative hmark hsign hdigits =>
    have hread := takeSign_of_writes hsign hdigits []
    have hall : (digits.isEmpty || !digits.all Char.isDigit) = false := by
      simp [hdigits.nonempty, List.all_eq_true.2 hdigits.isDigit]
    rw [List.append_nil] at hread
    simp only [exponentOf?, if_pos hmark, hread, hall, Bool.false_eq_true, if_false]

theorem Writes.ofText? {cs : List Char} {d : Decimal} (h : Writes cs d) : Decimal.ofText? cs = some d := by
  cases h with
  | @numeral minus whole fraction digits exponent negative k hminus hwhole hfraction hexponent =>
    have hmark : ∀ c ∈ exponent.head?, c.isDigit = false := fun c hc => by
      rcases hexponent.head c hc with rfl | rfl <;> rfl
    have hsign := takeSign_of_writes (.minus hminus) hwhole (fraction ++ exponent)
    have hrun := digitRun_of_all (fraction ++ exponent) hwhole.isDigit (isDigit_of_head hfraction hmark)
    have hread := takeFraction_of_writes hfraction hexponent.head
    rw [List.append_assoc, List.append_assoc]
    simp only [Decimal.ofText?, hsign, hrun, hread, exponentOf?_of_writes hexponent, Option.map_some,
      List.isEmpty_eq_false_iff.2 hwhole.nonempty, Bool.false_and, Bool.false_eq_true, if_false]

end PolicyEngine.Number
