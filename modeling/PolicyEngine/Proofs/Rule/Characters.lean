import PolicyEngine.Document.Text
import PolicyEngine.Rule.Lexer

/-! The classes of characters that the lexer tells apart: which of them exclude each other, and where runs of
path characters end. Paths are made of runs that go on inside parentheses as they do outside. -/
namespace PolicyEngine

/-- What is true of all characters of a list is decided on the list, not on all characters there are. -/
instance (priority := high) decidableForallMem (p : Char → Prop) [DecidablePred p] (cs : List Char) :
    Decidable (∀ c ∈ cs, p c) := List.decidableBAll p cs

namespace Text

/-- The code points that ranges span. -/
def Ranges.points (ranges : Ranges) : List Nat :=
  ranges.flatMap fun (low, high) => List.range' low (high + 1 - low)

theorem Ranges.mem_points_of_has {ranges : Ranges} {n : Nat} (h : ranges.has n = true) :
    n ∈ ranges.points := by
  induction ranges with
  | nil => cases h
  | cons range rest ih =>
    obtain ⟨low, high⟩ := range
    simp only [points, List.flatMap_cons, List.mem_append, List.mem_range'_1]
    simp only [has] at h
    split at h
    · cases h
    · split at h
      · left
        omega
      · exact .inr (ih h)

/-- No letter is blank. -/
theorem isBlank_of_isLetter {c : Char} (h : isLetter c = true) : isBlank c = false := by
  have hpoints : ∀ n ∈ blankRanges.points, letterRanges.has n = false := by decide +kernel
  cases hblank : isBlank c with
  | false => rfl
  | true =>
    have hfalse := hpoints c.toNat (Ranges.mem_points_of_has hblank)
    exact absurd (hfalse.symm.trans h) (by decide)

theorem isBlank_of_graphic {c : Char} (hlow : 33 ≤ c.toNat) (hhigh : c.toNat ≤ 126) : isBlank c = false := by
  have hpoints : ∀ n ∈ blankRanges.points, n < 33 ∨ 126 < n := by decide
  cases hblank : isBlank c with
  | false => rfl
  | true =>
    have := hpoints c.toNat (Ranges.mem_points_of_has hblank)
    omega

end Text

namespace Lexer
open Text (isBlank isLetter)
open Value (isQuote)

/-! Characters -/

theorem isQuote_iff {c : Char} : isQuote c = true ↔ c = '"' ∨ c = '\'' := by simp [isQuote]

theorem isDigit_of_isQuote {c : Char} (h : isQuote c = true) : c.isDigit = false := by
  rcases isQuote_iff.1 h with rfl | rfl <;> decide

theorem isDelimiter_of_isLetter {c : Char} (h : isLetter c = true) : isDelimiter c = false := by
  have hblank := Text.isBlank_of_isLetter h
  have hmark : ∀ m ∈ ['=', '!', '<', '>', '(', ')', ','], isLetter m = false := by decide
  cases hc : isDelimiter c with
  | false => rfl
  | true =>
    simp only [isDelimiter, hblank, Bool.false_or, decide_eq_true_eq] at hc
    exact absurd (hmark c hc) (by simp [h])

theorem isOperator_of_isLetter {c : Char} (h : isLetter c = true) : isOperator c = false := by
  have hmark : ∀ m ∈ ['+', '-', '*', '/'], isLetter m = false := by decide
  cases hc : isOperator c with
  | false => rfl
  | true =>
    simp only [isOperator, decide_eq_true_eq] at hc
    exact absurd (hmark c hc) (by simp [h])

theorem bounds_of_isAlpha {c : Char} (h : c.isAlpha = true) :
    (65 ≤ c.toNat ∧ c.toNat ≤ 90) ∨ (97 ≤ c.toNat ∧ c.toNat ≤ 122) := by
  have hcases : (decide (65 ≤ c.val ∧ c.val ≤ 90) || (decide (97 ≤ c.val) && decide (c.val ≤ 122))) = true := h
  simpa [UInt32.le_iff_toNat_le] using hcases

theorem isLetter_of_isAlpha {c : Char} (h : c.isAlpha = true) : isLetter c = true := by
  have hascii : ∀ n < 123, (65 ≤ n ∧ n ≤ 90) ∨ (97 ≤ n ∧ n ≤ 122) → Text.letterRanges.has n = true := by
    decide
  have hbounds := bounds_of_isAlpha h
  exact hascii c.toNat (by omega) hbounds

theorem isDelimiter_of_isDigit {c : Char} (h : c.isDigit = true) : isDelimiter c = false := by
  rw [Char.isDigit_iff_toNat] at h
  simp only [Char.reduceToNat] at h
  have hblank : isBlank c = false := Text.isBlank_of_graphic (by omega) (by omega)
  cases hc : isDelimiter c with
  | false => rfl
  | true =>
    simp only [isDelimiter, hblank, Bool.false_or, decide_eq_true_eq, List.mem_cons, List.not_mem_nil,
      or_false] at hc
    rcases hc with rfl | rfl | rfl | rfl | rfl | rfl | rfl <;> simp at h

theorem isOperator_of_isDigit {c : Char} (h : c.isDigit = true) : isOperator c = false := by
  rw [Char.isDigit_iff_toNat] at h
  cases hc : isOperator c with
  | false => rfl
  | true =>
    simp only [isOperator, decide_eq_true_eq, List.mem_cons, List.not_mem_nil, or_false] at hc
    rcases hc with rfl | rfl | rfl | rfl <;> simp at h

/-- A character that is neither a delimiter nor an operator belongs to paths everywhere. -/
theorem isPathChar_of_plain {c : Char} (hdelimiter : isDelimiter c = false) (hoperator : isOperator c = false)
    (depth : Nat) (next : Option Char) : isPathChar depth c next = true := by
  have hminus : c ≠ '-' := by
    rintro rfl
    exact absurd hoperator (by decide)
  simp [isPathChar, hdelimiter, hminus, hoperator]

theorem isPathChar_of_isLetter {c : Char} (h : isLetter c = true) (depth : Nat) (next : Option Char) :
    isPathChar depth c next = true :=
  isPathChar_of_plain (isDelimiter_of_isLetter h) (isOperator_of_isLetter h) depth next

theorem isPathChar_zero (c : Char) (next : Option Char) : isPathChar 0 c next = !isDelimiter c := by
  unfold isPathChar
  cases isDelimiter c <;> simp

theorem isDelimiter_of_isPathChar {depth : Nat} {c : Char} {next : Option Char}
    (h : isPathChar depth c next = true) : isDelimiter c = false := by
  unfold isPathChar at h
  split at h
  · cases h
  · next hc => simpa using hc

/-- What follows a path character matters only for a minus, which asks for it. -/
theorem isPathChar_of_none {depth : Nat} {c : Char} (h : isPathChar depth c none = true) (next : Option Char) :
    isPathChar depth c next = true := by
  unfold isPathChar at h ⊢
  split
  · next hc => simp [hc] at h
  · next hc =>
    rw [if_neg hc] at h
    split
    · next hminus =>
      rw [if_pos hminus] at h
      simp only [Option.any_none, Bool.or_false] at h
      simp [h]
    · next hminus =>
      rw [if_neg hminus] at h
      exact h

theorem isPathChar_none {depth : Nat} {c next : Char} (hletter : isLetter next = false) (hscore : next ≠ '_')
    (h : isPathChar depth c (some next) = true) : isPathChar depth c none = true := by
  unfold isPathChar at h ⊢
  simpa [hletter, hscore] using h

theorem isPathChar_succ (depth : Nat) (c : Char) (next : Option Char) :
    isPathChar (depth + 1) c next = isPathChar 1 c next := by
  simp [isPathChar]

/-! Closed runs -/

/-- A text that a path takes to its end. -/
def Closed (depth : Nat) (cs : List Char) : Prop := pathRun depth cs = cs

theorem closed_nil (depth : Nat) : Closed depth [] := rfl

theorem closed_cons {depth : Nat} {c : Char} {cs : List Char} :
    Closed depth (c :: cs) ↔ isPathChar depth c cs.head? = true ∧ Closed depth cs := by
  unfold Closed
  rw [pathRun]
  split
  · next h => simp [h]
  · next h => simp [h]

theorem closed_of_plain (depth : Nat) {cs : List Char}
    (h : ∀ c ∈ cs, isDelimiter c = false ∧ isOperator c = false) : Closed depth cs := by
  induction cs with
  | nil => exact closed_nil depth
  | cons c cs ih =>
    obtain ⟨hdelimiter, hoperator⟩ := h c List.mem_cons_self
    exact closed_cons.2 ⟨isPathChar_of_plain hdelimiter hoperator _ _, ih fun d hd => h d (List.mem_cons_of_mem _ hd)⟩

/-- The run that a path takes is closed: a minus in it has its letter in it. -/
theorem closed_pathRun (depth : Nat) (cs : List Char) : Closed depth (pathRun depth cs) := by
  induction cs with
  | nil => rfl
  | cons c cs ih =>
    rw [pathRun]
    split
    · next h =>
      refine closed_cons.2 ⟨?_, ih⟩
      cases cs with
      | nil => exact h
      | cons d ds =>
        rw [pathRun]
        split
        · exact h
        · next hd =>
          refine isPathChar_none ?_ ?_ h
          · cases hletter : isLetter d with
            | false => rfl
            | true => exact absurd (isPathChar_of_isLetter hletter depth ds.head?) hd
          · rintro rfl
            exact hd (isPathChar_of_plain (by decide) (by decide) depth ds.head?)
    · exact closed_nil depth

theorem Closed.append {depth : Nat} {cs ds : List Char} (hcs : Closed depth cs) (hds : Closed depth ds) :
    Closed depth (cs ++ ds) := by
  induction cs with
  | nil => exact hds
  | cons c cs ih =>
    obtain ⟨hc, hrest⟩ := closed_cons.1 hcs
    refine closed_cons.2 ⟨?_, ih hrest⟩
    cases cs with
    | nil => exact isPathChar_of_none hc _
    | cons d cs => exact hc

theorem Closed.right {depth : Nat} {cs ds : List Char} (h : Closed depth (cs ++ ds)) : Closed depth ds := by
  induction cs with
  | nil => exact h
  | cons c cs ih => exact ih (closed_cons.1 h).2

/-- A closed run may be cut before a character that ends names. -/
theorem Closed.left {depth : Nat} {cs ds : List Char} (h : Closed depth (cs ++ ds))
    (hcut : ∀ d ∈ ds.head?, isLetter d = false ∧ d ≠ '_') : Closed depth cs := by
  induction cs with
  | nil => exact closed_nil depth
  | cons c cs ih =>
    obtain ⟨hc, hrest⟩ := closed_cons.1 h
    refine closed_cons.2 ⟨?_, ih hrest⟩
    cases cs with
    | cons d cs => exact hc
    | nil =>
      cases ds with
      | nil => exact hc
      | cons d ds =>
        obtain ⟨hletter, hscore⟩ := hcut d rfl
        exact isPathChar_none hletter hscore hc

theorem Closed.outside {depth : Nat} {cs : List Char} (h : Closed depth cs) : Closed 0 cs := by
  induction cs with
  | nil => exact closed_nil 0
  | cons c cs ih =>
    obtain ⟨hc, hrest⟩ := closed_cons.1 h
    refine closed_cons.2 ⟨?_, ih hrest⟩
    rw [isPathChar_zero, isDelimiter_of_isPathChar hc]
    rfl

theorem closed_succ {depth : Nat} {cs : List Char} : Closed (depth + 1) cs ↔ Closed 1 cs := by
  induction cs with
  | nil => exact ⟨fun _ => rfl, fun _ => rfl⟩
  | cons c cs ih => rw [closed_cons, closed_cons, isPathChar_succ, ih]

/-- A closed run is what a path takes of a text, where no path goes on behind it. -/
theorem Closed.pathRun_of_stop {depth : Nat} {cs rest : List Char} (h : Closed depth cs)
    (hstop : pathRun depth rest = []) : pathRun depth (cs ++ rest) = cs := by
  induction cs with
  | nil => exact hstop
  | cons c cs ih =>
    obtain ⟨hc, hclosed⟩ := closed_cons.1 h
    have hnext : isPathChar depth c (cs ++ rest).head? = true := by
      cases cs with
      | nil => exact isPathChar_of_none hc _
      | cons d cs => exact hc
    rw [List.cons_append, pathRun, if_pos hnext, ih hclosed]

/-- A closed run before a delimiter is what a path takes of the text. -/
theorem Closed.pathRun_append {depth : Nat} {cs rest : List Char} (h : Closed depth cs)
    (hrest : ∀ c ∈ rest.head?, isDelimiter c = true) : pathRun depth (cs ++ rest) = cs := by
  refine h.pathRun_of_stop ?_
  cases rest with
  | nil => rfl
  | cons c rest =>
    have hc : isPathChar depth c rest.head? = false := by
      unfold isPathChar
      rw [if_pos (hrest c rfl)]
    rw [pathRun, hc]
    rfl

end Lexer

end PolicyEngine
