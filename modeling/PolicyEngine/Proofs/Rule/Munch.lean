import PolicyEngine.Proofs.Number.Grammar
import PolicyEngine.Proofs.Number.Range
import PolicyEngine.Proofs.Rule.Spacing

/-! Numbers in rule texts are as long as they can be. What is taken where a number starts is a numeral, and every
numeral that stands there is a start of it; so a point or an exponent that lacks its digits is left to what follows. -/
namespace PolicyEngine.Lexer

open Number (digitRun Decimal IsDigits WritesMinus WritesSign WritesFraction WritesExponent Writes overflowBound)

/-- A reader that takes no less than any text of a grammar that it starts at, and no more where the text behind cannot
go on with it. -/
structure Munches (P : List Char → Prop) (goesOn : Char → Bool) (run : List Char → List Char × List Char) : Prop where
  whole {cs : List Char} (h : P cs) (ds : List Char) : cs <+: (run (cs ++ ds)).1
  exact {cs ds : List Char} (h : P cs) (hds : ∀ d ∈ ds.head?, goesOn d = false) : run (cs ++ ds) = (cs, ds)

/-- The texts of one grammar followed by those of another. -/
def InTurn (P Q : List Char → Prop) (cs : List Char) : Prop := ∃ front back, cs = front ++ back ∧ P front ∧ Q back

/-- One of some marks with a text of a grammar behind it, or nothing. -/
def Marked (marks : List Char) (P : List Char → Prop) (cs : List Char) : Prop :=
  cs = [] ∨ ∃ mark back, cs = mark :: back ∧ mark ∈ marks ∧ P back

theorem Marked.head {marks : List Char} {P : List Char → Prop} {cs : List Char} (h : Marked marks P cs) :
    ∀ c ∈ cs.head?, c ∈ marks := by
  rcases h with rfl | ⟨mark, back, rfl, hmark, -⟩
  · simp
  · simpa using hmark

namespace Munches

variable {P Q : List Char → Prop} {goesOn goesOn' : Char → Bool} {run first second : List Char → List Char × List Char}

/-- Runs in turn. The second must not start with what the first goes on with. -/
theorem inTurn (hfirst : Munches P goesOn first) (hsecond : Munches Q goesOn' second)
    (hstart : ∀ cs, Q cs → ∀ c ∈ cs.head?, goesOn c = false) :
    Munches (InTurn P Q) (fun c => goesOn c || goesOn' c) (Lexer.inTurn first second) where
  whole := by
    rintro _ ⟨front, back, rfl, hfront, hback⟩ ds
    rw [List.append_assoc]
    cases back with
    | nil =>
      rw [List.append_nil]
      exact (hfirst.whole hfront ds).trans (List.prefix_append _ _)
    | cons c back =>
      have hrun : first (front ++ (c :: back ++ ds)) = (front, c :: back ++ ds) :=
        hfirst.exact hfront fun d hd => hstart _ hback d hd
      rw [Lexer.inTurn, hrun]
      exact (List.prefix_append_right_inj front).2 (hsecond.whole hback ds)
  exact := by
    rintro _ ds ⟨front, back, rfl, hfront, hback⟩ hds
    have hrun : first (front ++ (back ++ ds)) = (front, back ++ ds) := by
      refine hfirst.exact hfront fun d hd => ?_
      cases back with
      | nil => exact (Bool.or_eq_false_iff.1 (hds d hd)).1
      | cons c back => exact hstart _ hback d hd
    have hrun' := hsecond.exact hback fun d hd => (Bool.or_eq_false_iff.1 (hds d hd)).2
    rw [Lexer.inTurn, List.append_assoc, hrun, hrun']

/-- A mark is taken where the text behind it goes on with the grammar. -/
theorem marked {marks : List Char} {continues : List Char → Bool} (h : Munches P goesOn run)
    (hcontinues : ∀ cs ds, P cs → continues (cs ++ ds) = true) :
    Munches (Marked marks P) (fun c => decide (c ∈ marks) || goesOn c) (Lexer.marked marks continues run) where
  whole := by
    rintro _ (rfl | ⟨mark, back, rfl, hmark, hback⟩) ds
    · exact List.nil_prefix
    · rw [List.cons_append, Lexer.marked, if_pos ⟨hmark, hcontinues back ds hback⟩]
      exact List.cons_prefix_cons.2 ⟨rfl, h.whole hback ds⟩
  exact := by
    rintro _ ds (rfl | ⟨mark, back, rfl, hmark, hback⟩) hds
    · exact marked_of_notMem fun d hd => by simpa using (Bool.or_eq_false_iff.1 (hds d hd)).1
    · rw [List.cons_append, Lexer.marked, if_pos ⟨hmark, hcontinues back ds hback⟩,
        h.exact hback fun d hd => (Bool.or_eq_false_iff.1 (hds d hd)).2]

end Munches

/-! Numerals -/

theorem munches_noRun : Munches (· = []) (fun _ => false) noRun where
  whole := by
    rintro _ rfl ds
    exact List.nil_prefix
  exact := by
    rintro _ ds rfl _
    rfl

theorem munches_digitRun : Munches IsDigits Char.isDigit digitRun where
  whole := by
    intro cs h ds
    unfold digitRun
    rw [List.takeWhile_append_of_pos h.isDigit]
    exact List.prefix_append _ _
  exact := fun h hds => Number.digitRun_of_all _ h.isDigit hds

theorem isEmpty_digitRun {digits : List Char} (h : IsDigits digits) (ds : List Char) :
    (digitRun (digits ++ ds)).1.isEmpty = false := by
  obtain ⟨c, more, heq, hc⟩ := h.head ds
  simp [heq, digitRun, hc]

/-- Digits are none of some other marks. -/
theorem not_mark_of_isDigit {marks : List Char} (hmarks : ∀ c ∈ marks, c.isDigit = false) {c : Char}
    (h : c.isDigit = true) : (decide (c ∈ marks) || false) = false := by
  have hmem : c ∉ marks := fun hmem => by
    rw [hmarks c hmem] at h
    cases h
  simp [hmem]

theorem munches_signRun : Munches (Marked ['+', '-'] (· = [])) (fun c => decide (c ∈ ['+', '-']) || false) signRun := by
  rw [signRun_eq]
  exact munches_noRun.marked fun _ _ _ => rfl

theorem munches_fractionRun :
    Munches (Marked ['.'] IsDigits) (fun c => decide (c ∈ ['.']) || c.isDigit) fractionRun := by
  rw [fractionRun_eq]
  exact munches_digitRun.marked fun cs ds h => by rw [isEmpty_digitRun h, Bool.not_false]

theorem munches_exponentRun : ∃ goesOn, Munches (Marked ['e', 'E'] (InTurn (Marked ['+', '-'] (· = [])) IsDigits))
    goesOn exponentRun := by
  rw [exponentRun_eq]
  have hsigned := munches_signRun.inTurn munches_digitRun fun cs h c hc =>
    not_mark_of_isDigit (by decide) (h.isDigit c (List.mem_of_mem_head? hc))
  refine ⟨_, hsigned.marked ?_⟩
  rintro _ ds ⟨sign, digits, rfl, hsign, hdigits⟩
  have hrun : signRun (sign ++ (digits ++ ds)) = (sign, digits ++ ds) := by
    obtain ⟨d, more, heq, hd⟩ := hdigits.head ds
    refine munches_signRun.exact hsign fun c hc => not_mark_of_isDigit (by decide) ?_
    rw [heq] at hc
    exact Option.some.inj hc ▸ hd
  rw [List.append_assoc, hrun, isEmpty_digitRun hdigits, Bool.not_false]

/-- Numerals as they are put together. -/
def Numeral : List Char → Prop :=
  InTurn (InTurn (InTurn (Marked ['-'] (· = [])) IsDigits) (Marked ['.'] IsDigits))
    (Marked ['e', 'E'] (InTurn (Marked ['+', '-'] (· = [])) IsDigits))

theorem munches_numeralRun : ∃ goesOn, Munches Numeral goesOn numeralRun := by
  have hminus : Munches (Marked ['-'] (· = [])) _ (marked ['-'] (fun _ => true) noRun) :=
    munches_noRun.marked fun _ _ _ => rfl
  have hwhole := hminus.inTurn munches_digitRun fun cs h c hc =>
    not_mark_of_isDigit (by decide) (h.isDigit c (List.mem_of_mem_head? hc))
  have hfraction := hwhole.inTurn munches_fractionRun fun cs h c hc => by
    rw [List.mem_singleton.1 (h.head c hc)]
    decide
  obtain ⟨goesOn, hexponent⟩ := munches_exponentRun
  refine ⟨_, hfraction.inTurn hexponent fun cs h c hc => ?_⟩
  have hmarks : ∀ m ∈ ['e', 'E'],
      ((decide (m ∈ ['-']) || false || m.isDigit) || (decide (m ∈ ['.']) || m.isDigit)) = false := by decide
  exact hmarks c (h.head c hc)

theorem marked_of_minus {cs : List Char} {negative : Bool} (h : WritesMinus cs negative) :
    Marked ['-'] (· = []) cs := by
  cases h with
  | absent => exact .inl rfl
  | present => exact .inr ⟨'-', [], rfl, List.mem_cons_self, rfl⟩

theorem marked_of_sign {cs : List Char} {negative : Bool} (h : WritesSign cs negative) :
    Marked ['+', '-'] (· = []) cs := by
  cases h with
  | plus => exact .inr ⟨'+', [], rfl, List.mem_cons_self, rfl⟩
  | minus h =>
    cases h with
    | absent => exact .inl rfl
    | present => exact .inr ⟨'-', [], rfl, by decide, rfl⟩

theorem marked_of_fraction {cs digits : List Char} (h : WritesFraction cs digits) : Marked ['.'] IsDigits cs := by
  cases h with
  | absent => exact .inl rfl
  | present hdigits => exact .inr ⟨'.', digits, rfl, List.mem_cons_self, hdigits⟩

theorem marked_of_exponent {cs : List Char} {k : Int} (h : WritesExponent cs k) :
    Marked ['e', 'E'] (InTurn (Marked ['+', '-'] (· = [])) IsDigits) cs := by
  cases h with
  | absent => exact .inl rfl
  | present hmark hsign hdigits =>
    exact .inr ⟨_, _, rfl, by simpa using hmark, _, _, rfl, marked_of_sign hsign, hdigits⟩

theorem numeral_of_writes {cs : List Char} {d : Decimal} (h : Writes cs d) : Numeral cs := by
  cases h with
  | numeral hminus hwhole hfraction hexponent =>
    exact ⟨_, _, rfl, ⟨_, _, rfl, ⟨_, _, rfl, marked_of_minus hminus, hwhole⟩, marked_of_fraction hfraction⟩,
      marked_of_exponent hexponent⟩

/-- A numeral that a text starts with is no longer than what is taken. -/
theorem prefix_numberRun {cs numeral : List Char} {d : Decimal} (h : Writes numeral d) (hstart : numeral <+: cs) :
    numeral <+: numberRun cs := by
  obtain ⟨ds, rfl⟩ := hstart
  obtain ⟨goesOn, hmunches⟩ := munches_numeralRun
  rw [numberRun_eq]
  exact hmunches.whole (numeral_of_writes h) ds

/-! What is taken -/

/-- A number starts with a digit, or with a minus in front of one. -/
def StartsNumeral (cs : List Char) : Prop := ∃ c rest, c.isDigit = true ∧ (cs = c :: rest ∨ cs = '-' :: c :: rest)

theorem isDigits_digitRun {cs : List Char} (h : (digitRun cs).1.isEmpty = false) : IsDigits (digitRun cs).1 :=
  ⟨List.isEmpty_eq_false_iff.1 h, fun _ hc => Number.isDigit_of_mem_digitRun hc⟩

theorem writes_fractionRun (cs : List Char) : ∃ digits, WritesFraction (fractionRun cs).1 digits := by
  unfold fractionRun
  split
  · simp only
    split
    · exact ⟨[], .absent⟩
    · next hdigits => exact ⟨_, .present (isDigits_digitRun (by simpa using hdigits))⟩
  · exact ⟨[], .absent⟩

theorem writes_signRun (cs : List Char) : ∃ negative, WritesSign (signRun cs).1 negative := by
  unfold signRun
  split
  · split
    · next hc =>
      rcases hc with rfl | rfl
      · exact ⟨false, .plus⟩
      · exact ⟨true, .minus .present⟩
    · exact ⟨false, .minus .absent⟩
  · exact ⟨false, .minus .absent⟩

theorem writes_exponentRun (cs : List Char) : ∃ k, WritesExponent (exponentRun cs).1 k := by
  unfold exponentRun
  split
  · next e cs =>
    split
    · next hmark =>
      simp only
      split
      · exact ⟨0, .absent⟩
      · next hdigits =>
        obtain ⟨negative, hsign⟩ := writes_signRun cs
        exact ⟨_, .present hmark hsign (isDigits_digitRun (by simpa using hdigits))⟩
    · exact ⟨0, .absent⟩
  · exact ⟨0, .absent⟩

theorem writes_numberRun {cs : List Char} (h : StartsNumeral cs) : ∃ d, Writes (numberRun cs) d := by
  obtain ⟨c, rest, hc, hcs⟩ := h
  have hwhole : IsDigits (digitRun (c :: rest)).1 := isDigits_digitRun (by simp [digitRun, hc])
  obtain ⟨digits, hfraction⟩ := writes_fractionRun (digitRun (c :: rest)).2
  obtain ⟨k, hexponent⟩ := writes_exponentRun (fractionRun (digitRun (c :: rest)).2).2
  rcases hcs with rfl | rfl
  · have hminus : c ≠ '-' := by
      rintro rfl
      cases hc
    rw [numberRun_of_ne_minus hminus]
    exact ⟨_, .numeral .absent hwhole hfraction hexponent⟩
  · rw [numberRun_minus]
    exact ⟨_, .numeral .present hwhole hfraction hexponent⟩

/-! Numbers of a text -/

theorem startsNumeral_of_startsNumber {previous : Option Token} {c : Char} {rest : List Char}
    (h : startsNumber previous c rest.head? = true) : StartsNumeral (c :: rest) := by
  rcases isDigit_or_minus_of_startsNumber h with hdigit | ⟨rfl, hnext⟩
  · exact ⟨c, rest, hdigit, .inl rfl⟩
  · cases rest with
    | nil => cases hnext
    | cons d rest => exact ⟨d, rest, hnext, .inr rfl⟩

/-- A number stands where a numeral starts, is as long as it can be, and no word goes on behind it. -/
theorem exists_numberRun {text number : String} {before after : List Lexeme} {l : Lexeme}
    (h : lex text = .ok (before ++ l :: after)) (hnumber : l.token = .number number) :
    ∃ front back, text.toList = front ++ number.toList ++ back ∧ l.offset = byteSize front ∧
      StartsNumeral (number.toList ++ back) ∧ numberRun (number.toList ++ back) = number.toList ∧
      ∀ c ∈ back.head?, isWordChar (depthBehind 0 (before.map Lexeme.token)) c = false := by
  obtain ⟨front, c, rest, previous, count, htext, -, hoffset, -, hscan⟩ := exists_scan h
  rw [hnumber] at hscan
  obtain ⟨run, hrun, rfl⟩ : ∃ run, number? (depthBehind 0 (before.map Lexeme.token)) previous c rest = some run ∧
      number = String.ofList run := by
    cases scanned_of_scan hscan with
    | number hread => exact ⟨_, hread, rfl⟩
    | mark hsymbol => exact absurd hsymbol (symbol?_ne_some rfl)
  obtain ⟨hstarts, htaken, hword⟩ := number?_eq_some_iff.1 hrun
  have happend := numberRun_append (c :: rest)
  rw [htaken] at happend
  rw [← htaken, drop_numberRun] at hword
  rw [String.toList_ofList]
  refine ⟨front, (numeralRun (c :: rest)).2, ?_, ?_, ?_, ?_, ?_⟩
  · rw [htext, List.append_assoc, happend]
  · rw [hoffset, Nat.zero_add]
  · rw [happend]
    exact startsNumeral_of_startsNumber hstarts
  · rw [happend, htaken]
  · intro d hd
    rw [hd] at hword
    exact hword

/-- Numbers are as long as they can be. Where a number starts, the longest numeral that starts there is taken. So the
number lexemes of a text are numerals, no word goes on behind them, and they read as numbers unless they overflow. -/
theorem numberRun_longest :
    (∀ cs, StartsNumeral cs → (∃ d, Writes (numberRun cs) d) ∧ numberRun cs <+: cs ∧
      ∀ numeral d, Writes numeral d → numeral <+: cs → numeral <+: numberRun cs) ∧
    ∀ text before l after number, lex text = .ok (before ++ l :: after) → l.token = .number number →
      ∃ front back d, text.toList = front ++ number.toList ++ back ∧ l.offset = byteSize front ∧
        Writes number.toList d ∧ numberRun (number.toList ++ back) = number.toList ∧
        (∀ c ∈ back.head?, isWordChar (depthBehind 0 (before.map Lexeme.token)) c = false) ∧
        (Number.ofText? number = none ↔ overflowBound ≤ d.value) := by
  refine ⟨fun cs hcs => ⟨writes_numberRun hcs, ?_, fun numeral d => prefix_numberRun⟩, ?_⟩
  · exact ⟨_, numberRun_append cs⟩
  · intro text before l after number hlex hnumber
    obtain ⟨front, back, htext, hoffset, hstarts, hrun, hword⟩ := exists_numberRun hlex hnumber
    obtain ⟨d, hwrites⟩ := writes_numberRun hstarts
    rw [hrun] at hwrites
    exact ⟨front, back, d, htext, hoffset, hwrites, hrun, hword, Number.ofText?_eq_none_iff hwrites.ofText?⟩

/-- A point and an exponent without digits behind them are left, and `1e309` is a number that overflows. -/
theorem numberRun_longest_overflow :
    numberRun "2.5e+.7".toList = "2.5".toList ∧
      (∀ numeral d, Writes numeral d → numeral <+: "2.5e+.7".toList → numeral <+: "2.5".toList) ∧
      ∃ ls, lex "EXP(7-1e309) > 2" = .ok ls ∧ (∃ l ∈ ls, l.token = .number "1e309" ∧ l.offset = 6) ∧
        ∃ d, Writes "1e309".toList d ∧ overflowBound ≤ d.value := by
  have hstarts : StartsNumeral "2.5e+.7".toList := ⟨'2', ".5e+.7".toList, rfl, .inl rfl⟩
  have hrun : numberRun "2.5e+.7".toList = "2.5".toList := by decide
  have hlexed : (lex "EXP(7-1e309) > 2").toOption.any
      (fun ls => ls.any fun l => l.token = .number "1e309" && l.offset == 6) = true := by decide +kernel
  obtain ⟨hlongest, hnumbers⟩ := numberRun_longest
  obtain ⟨ls, hlex, hany⟩ := exists_eq_ok_of_any hlexed
  obtain ⟨l, hl, hboth⟩ := List.any_eq_true.1 hany
  obtain ⟨htoken, hoffset⟩ : l.token = .number "1e309" ∧ l.offset = 6 := by simpa using hboth
  obtain ⟨before, after, hls⟩ := List.append_of_mem hl
  obtain ⟨front, back, d, -, -, hwrites, -, -, hoverflow⟩ := hnumbers _ before l after _ (hls ▸ hlex) htoken
  refine ⟨hrun, hrun ▸ (hlongest _ hstarts).2.2, ls, hlex, ⟨l, hl, htoken, hoffset⟩, d, hwrites, hoverflow.1 ?_⟩
  decide +kernel

end PolicyEngine.Lexer
