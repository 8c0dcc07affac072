import Mathlib.Data.List.TakeWhile
import PolicyEngine.Proofs.Rule.Tiling

/-! Tokens do not depend on the blanks between them. A token is read again from its own text alone; so the texts of
lexemes may be put one behind the other with other blanks, and the same tokens are read from them. -/
namespace PolicyEngine

open Text (isBlank)

namespace Lexer

open Number (digitRun)

/-! Numbers read again -/

/-- A reader that takes a run again from its own text, with any text behind it that the run does not go on with. -/
def Repeats (goesOn : Char → Bool) (run : List Char → List Char × List Char) : Prop :=
  ∀ cs ds, (∀ d ∈ ds.head?, goesOn d = false) → run ((run cs).1 ++ ds) = ((run cs).1, ds)

variable {p q : Char → Bool} {run first second : List Char → List Char × List Char}

theorem Repeats.mono (h : Repeats p run) (himp : ∀ c, q c = false → p c = false) : Repeats q run := by
  intro cs ds hds
  apply h
  intro d hd
  exact himp d (hds d hd)

theorem repeats_digitRun : Repeats Char.isDigit digitRun := by
  intro cs ds hds
  apply Number.digitRun_of_all ds _ hds
  intro c hc
  exact Number.isDigit_of_mem_digitRun hc

/-- The first run does not go on where the second starts, nor behind both. -/
theorem Repeats.inTurn (hfirst : Repeats p first) (hsecond : Repeats q second)
    (hstart : ∀ cs, ∀ c ∈ (second cs).1.head?, p c = false) :
    Repeats (fun c => p c || q c) (inTurn first second) := by
  intro cs ds hds
  have hboth : ∀ d ∈ ds.head?, p d = false ∧ q d = false := fun d hd => Bool.or_eq_false_iff.1 (hds d hd)
  have hnext : ∀ d ∈ ((second (first cs).2).1 ++ ds).head?, p d = false := by
    intro d hd
    cases hrun : (second (first cs).2).1 with
    | nil =>
      rw [hrun] at hd
      exact (hboth d hd).1
    | cons c cs' =>
      rw [hrun] at hd
      cases hd
      apply hstart (first cs).2
      rw [hrun]
      rfl
  simp only [Lexer.inTurn, List.append_assoc, hfirst _ _ hnext, hsecond _ _ fun d hd => (hboth d hd).2]

theorem Repeats.marked {marks : List Char} {goesOn : List Char → Bool}
    (hrun : ∀ cs ds, goesOn cs = true → (∀ d ∈ ds.head?, p d = false) →
      goesOn ((run cs).1 ++ ds) = true ∧ run ((run cs).1 ++ ds) = ((run cs).1, ds)) :
    Repeats (fun c => decide (c ∈ marks) || p c) (marked marks goesOn run) := by
  intro cs ds hds
  have hboth : ∀ d ∈ ds.head?, d ∉ marks ∧ p d = false := by
    intro d hd
    simpa using hds d hd
  have hnone : Lexer.marked marks goesOn run ds = ([], ds) := marked_of_notMem fun d hd => (hboth d hd).1
  cases cs with
  | nil => exact hnone
  | cons c cs =>
    by_cases htaken : c ∈ marks ∧ goesOn cs = true
    · obtain ⟨hgoesOn, hagain⟩ := hrun cs ds htaken.2 fun d hd => (hboth d hd).2
      simp only [Lexer.marked, if_pos htaken, List.cons_append, if_pos (And.intro htaken.1 hgoesOn), hagain]
    · simp only [Lexer.marked, if_neg htaken, List.nil_append]
      exact hnone

theorem mem_marks_of_marked {marks : List Char} {goesOn : List Char → Bool} (cs : List Char) :
    ∀ c ∈ (marked marks goesOn run cs).1.head?, c ∈ marks := by
  intro c hc
  cases cs with
  | nil => cases hc
  | cons d cs =>
    rw [marked] at hc
    split at hc
    · next htaken =>
      cases hc
      exact htaken.1
    · cases hc

theorem repeats_fractionRun : Repeats (fun c => decide (c ∈ ['.']) || c.isDigit) fractionRun := by
  rw [fractionRun_eq]
  apply Repeats.marked
  intro cs ds hgoesOn hds
  simp only [repeats_digitRun cs ds hds]
  exact ⟨hgoesOn, trivial⟩

theorem repeats_signRun : Repeats (fun c => decide (c ∈ ['+', '-']) || false) signRun := by
  rw [signRun_eq]
  apply Repeats.marked
  intro cs ds _ _
  exact ⟨rfl, rfl⟩

/-- An exponent has digits, so that a sign behind it is none of its own. -/
theorem repeats_exponentRun : Repeats (fun c => decide (c ∈ ['e', 'E']) || c.isDigit) exponentRun := by
  rw [exponentRun_eq]
  apply Repeats.marked
  intro cs ds hgoesOn hds
  have hdigits := repeats_digitRun (signRun cs).2 ds hds
  have hsign : signRun ((signRun cs).1 ++ ((digitRun (signRun cs).2).1 ++ ds)) =
      ((signRun cs).1, (digitRun (signRun cs).2).1 ++ ds) := by
    apply repeats_signRun
    intro d hd
    cases hrun : (digitRun (signRun cs).2).1 with
    | nil => simp [hrun] at hgoesOn
    | cons c digits =>
      rw [hrun] at hd
      cases hd
      have hdigit : d.isDigit = true := Number.isDigit_of_mem_digitRun (hrun ▸ List.mem_cons_self)
      have hplus : d ≠ '+' := by
        rintro rfl
        exact absurd hdigit (by decide)
      have hminus : d ≠ '-' := by
        rintro rfl
        exact absurd hdigit (by decide)
      simp [hplus, hminus]
  simp only [inTurn, List.append_assoc, hsign, hdigits]
  exact ⟨hgoesOn, trivial⟩

/-- A number without its sign, and the text behind. -/
def unsignedRun : List Char → List Char × List Char := inTurn (inTurn digitRun fractionRun) exponentRun

theorem repeats_unsignedRun (depth : Nat) : Repeats (isWordChar depth) unsignedRun := by
  have hfraction : ∀ cs, ∀ c ∈ (fractionRun cs).1.head?, c.isDigit = false := by
    intro cs c hc
    rw [fractionRun_eq] at hc
    rw [List.mem_singleton.1 (mem_marks_of_marked cs c hc)]
    decide
  have hexponent : ∀ cs, ∀ c ∈ (exponentRun cs).1.head?,
      (c.isDigit || (decide (c ∈ ['.']) || c.isDigit)) = false := by
    intro cs c hc
    rw [exponentRun_eq] at hc
    have hmarks : ∀ m ∈ ['e', 'E'], (m.isDigit || (decide (m ∈ ['.']) || m.isDigit)) = false := by decide
    exact hmarks c (mem_marks_of_marked cs c hc)
  apply ((repeats_digitRun.inTurn repeats_fractionRun hfraction).inTurn repeats_exponentRun hexponent).mono
  intro c hc
  have hdigit : c.isDigit = false := by
    cases hdigit : c.isDigit with
    | false => rfl
    | true =>
      rw [isWordChar_of_isDigit hdigit] at hc
      cases hc
  have hmark : ∀ m ∈ ['.', 'e', 'E'], c ≠ m := by
    rintro m hm rfl
    have hword : ∀ m ∈ ['.', 'e', 'E'], isDelimiter m = false ∧ isOperator m = false ∧ m ≠ '[' ∧ m ≠ ']' := by decide
    simp [isWordChar, hword c hm] at hc
  simp [hdigit, hmark]

theorem numberRun_minus (cs : List Char) : numberRun ('-' :: cs) = '-' :: (unsignedRun cs).1 := rfl

theorem numberRun_of_ne_minus {c : Char} (h : c ≠ '-') (cs : List Char) :
    numberRun (c :: cs) = (unsignedRun (c :: cs)).1 := by
  simp [numberRun, unsignedRun, inTurn, h]

theorem unsignedRun_of_isDigit {c : Char} (h : c.isDigit = true) (cs : List Char) :
    ∃ more, (unsignedRun (c :: cs)).1 = c :: more := by
  simp [unsignedRun, inTurn, digitRun, h]

variable {depth count : Nat} {previous : Option Token} {c : Char} {cs ds rest text : List Char}

theorem isDigit_or_minus_of_startsNumber {next : Option Char} (h : startsNumber previous c next = true) :
    c.isDigit = true ∨ c = '-' ∧ next.any Char.isDigit = true := by
  unfold startsNumber at h
  rw [Bool.or_eq_true, Bool.and_eq_true, Bool.and_eq_true, decide_eq_true_eq] at h
  exact h.imp_right fun hminus => hminus.1

/-- A number is read again from its text, where no word goes on behind it. -/
theorem numberRun_again (hstarts : startsNumber previous c cs.head? = true)
    (hds : ∀ d ∈ ds.head?, isWordChar depth d = false) :
    numberRun (numberRun (c :: cs) ++ ds) = numberRun (c :: cs) := by
  by_cases hminus : c = '-'
  · subst hminus
    rw [numberRun_minus, List.cons_append, numberRun_minus, repeats_unsignedRun depth cs ds hds]
  · have hdigit : c.isDigit = true := (isDigit_or_minus_of_startsNumber hstarts).resolve_right fun h => hminus h.1
    have hagain := repeats_unsignedRun depth (c :: cs) ds hds
    obtain ⟨more, hmore⟩ := unsignedRun_of_isDigit hdigit cs
    rw [numberRun_of_ne_minus hminus, hmore, List.cons_append, numberRun_of_ne_minus hminus, ← List.cons_append,
      ← hmore, hagain]

theorem number?_eq_some_iff : number? depth previous c cs = some text ↔
    startsNumber previous c cs.head? = true ∧ numberRun (c :: cs) = text ∧
      ((c :: cs).drop text.length).head?.any (isWordChar depth) = false := by
  unfold number?
  constructor
  · intro h
    split at h
    · next hstarts =>
      simp only at h
      split at h
      · cases h
      · next hword =>
        cases h
        exact ⟨hstarts, rfl, by simpa using hword⟩
    · cases h
  · rintro ⟨hstarts, rfl, hword⟩
    simp only [if_pos hstarts, hword]
    rfl

theorem startsNumber_append (h : startsNumber previous c cs.head? = true) (ds : List Char) :
    startsNumber previous c (cs ++ ds).head? = true := by
  cases cs with
  | nil =>
    have hdigit : c.isDigit = true := (isDigit_or_minus_of_startsNumber h).resolve_right fun h => by cases h.2
    simp [startsNumber, hdigit]
  | cons d cs => exact h

/-- A minus in front of a number stands before a digit of that number. -/
theorem startsNumber_numberRun (h : startsNumber previous c cs.head? = true) (hrun : numberRun (c :: cs) = c :: text) :
    startsNumber previous c text.head? = true := by
  rcases isDigit_or_minus_of_startsNumber h with hdigit | ⟨rfl, hnext⟩
  · simp [startsNumber, hdigit]
  · cases cs with
    | nil => cases hnext
    | cons d cs =>
      obtain ⟨more, hmore⟩ := unsignedRun_of_isDigit hnext cs
      rw [numberRun_minus, hmore] at hrun
      cases hrun
      exact h

theorem number?_alone (h : number? depth previous c rest = some text) :
    number? depth previous c (rest.take (text.length - 1)) = some text := by
  have htext := number?_take h
  obtain ⟨hstarts, hrun, -⟩ := number?_eq_some_iff.1 h
  have hnil : ∀ d ∈ ([] : List Char).head?, isWordChar depth d = false := by simp
  have hagain := numberRun_again hstarts hnil
  rw [hrun, List.append_nil] at hagain
  apply number?_eq_some_iff.2
  rw [htext, List.drop_length]
  exact ⟨startsNumber_numberRun hstarts (hrun.trans htext.symm), hagain, rfl⟩

/-- What is no number because a word goes on behind it is none when the word ends there. -/
theorem number?_alone_of_word (hword : ∀ d ∈ c :: cs, isWordChar depth d = true)
    (hrest : ∀ d ∈ rest.head?, isWordChar depth d = false) (h : number? depth previous c (cs ++ rest) = none) :
    number? depth previous c cs = none := by
  cases halone : number? depth previous c cs with
  | none => rfl
  | some text =>
    obtain ⟨hstarts, rfl, hstop⟩ := number?_eq_some_iff.1 halone
    -- a number made of word characters only takes the whole word, so it would have been one before
    have hwhole : numberRun (c :: cs) = c :: cs := by
      have happend := numberRun_append (c :: cs)
      rw [drop_numberRun] at hstop
      cases hafter : (numeralRun (c :: cs)).2 with
      | nil => rwa [hafter, List.append_nil] at happend
      | cons d after =>
        have hmem : d ∈ c :: cs := by
          rw [← happend, hafter]
          exact List.mem_append_right _ List.mem_cons_self
        simp [hafter, hword d hmem] at hstop
    have hagain := numberRun_again hstarts hrest
    rw [hwhole, List.cons_append] at hagain
    have hsome : number? depth previous c (cs ++ rest) = some (c :: cs) := by
      apply number?_eq_some_iff.2
      refine ⟨startsNumber_append hstarts rest, hagain, ?_⟩
      rw [← List.cons_append, List.drop_left]
      cases rest with
      | nil => rfl
      | cons d rest => exact hrest d rfl
    rw [h] at hsome
    cases hsome

/-! Tokens read again -/

/-- No mark starts with a character that words go on with. -/
theorem symbol?_of_isWordChar (h : isWordChar depth c = true) (next : Option Char) : symbol? depth c next = none := by
  unfold isWordChar isDelimiter isOperator at h
  simp only [Bool.and_eq_true, Bool.not_eq_true', Bool.or_eq_false_iff, decide_eq_false_iff_not, List.mem_cons,
    List.not_mem_nil, or_false, not_or] at h
  obtain ⟨⟨⟨-, hdelimiter⟩, hbracket⟩, hoperator⟩ := h
  unfold symbol?
  by_cases hdepth : depth = 0
  · simp [hdelimiter, hbracket, hdepth]
  · have hopen : 0 < depth := Nat.pos_of_ne_zero hdepth
    simp only [hopen, decide_true, Bool.true_and, decide_eq_false_iff_not, not_or] at hoperator
    simp [hdelimiter, hbracket, hoperator]

/-- A mark that is no number is none when nothing but an equals sign is behind it. -/
theorem number?_of_mark {found : Token × Nat} {next : Option Char} (h : symbol? depth c next = some found)
    (hnext : ∀ d ∈ cs.head?, d = '=') : number? depth previous c cs = none := by
  have hdigit : c.isDigit = false := by
    cases hdigit : c.isDigit with
    | false => rfl
    | true =>
      rw [symbol?_of_isWordChar (isWordChar_of_isDigit hdigit depth)] at h
      cases h
  have hdigits : cs.head?.any Char.isDigit = false := by
    cases cs with
    | nil => rfl
    | cons d cs =>
      rw [hnext d rfl]
      rfl
  simp [number?, startsNumber, hdigit, hdigits]

/-- Behind its first character, a mark is spelled with equals signs only. -/
theorem eq_of_mem_tail_symbol? {token : Token} : ∀ mark ∈ token.symbol?, ∀ d ∈ mark.toList.tail, d = '=' := by
  intro mark hmark
  cases token <;> cases hmark <;> decide

/-- A mark is none of another length when nothing is behind it. -/
theorem symbol?_alone {token : Token} (h : symbol? depth c rest.head? = some (token, count)) :
    symbol? depth c (rest.take count).head? = some (token, count) ∧ ∀ d ∈ (rest.take count).head?, d = '=' := by
  obtain ⟨more, after, rfl, hcount, hspelled⟩ := spells_of_symbol? depth c rest _ h
  obtain rfl : count = more.length := hcount
  rw [List.take_left]
  have hmore := eq_of_mem_tail_symbol? _ hspelled
  rw [String.toList_ofList, List.tail_cons] at hmore
  cases more with
  | cons m more => exact ⟨h, fun d hd => hmore d (List.mem_of_mem_head? hd)⟩
  | nil =>
    refine ⟨?_, by simp⟩
    by_cases hnext : after.head? = some '='
    · have hsingle : ∀ m ∈ ['=', '!', '<', '>'], c ≠ m := by
        rintro m hm rfl
        simp only [List.mem_cons, List.not_mem_nil, or_false] at hm
        rcases hm with rfl | rfl | rfl | rfl <;> simp [symbol?, hnext] at h
      simp only [List.mem_cons, List.not_mem_nil, or_false, forall_eq_or_imp, forall_eq] at hsingle
      simpa [symbol?, hsingle] using h
    · simpa [symbol?, hnext] using h

theorem pathRun_alone (depth : Nat) (cs : List Char) :
    pathRun depth (cs.take (pathRun depth cs).length) = pathRun depth cs := by
  rw [← List.prefix_iff_eq_take.1 (isPrefix_pathRun depth cs)]
  exact closed_pathRun depth cs

/-- A word that is no number is none when it stands alone. -/
theorem number?_takeWhile (hword : isWordChar depth c = true) (h : number? depth previous c rest = none) :
    number? depth previous c (rest.takeWhile (isWordChar depth)) = none := by
  have hall : ∀ d ∈ rest.takeWhile (isWordChar depth), isWordChar depth d = true :=
    fun d hd => List.all_eq_true.1 List.all_takeWhile d hd
  have hstop : ∀ d ∈ (rest.dropWhile (isWordChar depth)).head?, isWordChar depth d = false := by
    rw [← drop_takeWhile]
    exact takeWhile_stop
  have hsplit : rest.takeWhile (isWordChar depth) ++ rest.dropWhile (isWordChar depth) = rest :=
    List.takeWhile_append_dropWhile
  rw [← hsplit] at h
  exact number?_alone_of_word (List.forall_mem_cons.2 ⟨hword, hall⟩) hstop h

/-- A token is read from its own text alone. -/
theorem scan_alone {token : Token} (h : scan depth previous c rest = .ok (token, count)) :
    scan depth previous c (rest.take count) = .ok (token, count) := by
  have hpoint : (rest.take count).head? = some '.' → rest.head? = some '.' := by
    intro hhead
    cases rest with
    | nil => simp at hhead
    | cons d rest =>
      cases count with
      | zero => simp at hhead
      | succ count => exact hhead
  unfold scan at h ⊢
  split at h
  · next hquote =>
    obtain ⟨⟨content, n⟩, hrun, heq⟩ := map_eq_ok_iff.1 h
    cases heq
    have hagain := (quotedRun_append hrun).2 []
    rw [List.append_nil] at hagain
    rw [if_pos hquote, hagain]
    rfl
  · next hquote =>
    rw [if_neg hquote]
    split at h
    · next hpath =>
      obtain ⟨after, rfl⟩ := List.head?_eq_some_iff.1 hpath.2
      cases h
      simp only [List.tail_cons, List.take_succ_cons, List.head?_cons, hpath.1, and_self, if_true, pathRun_alone]
    · next hpath =>
      rw [if_neg fun hdollar => hpath ⟨hdollar.1, hpoint hdollar.2⟩]
      split at h
      · next text hsome =>
        cases h
        rw [number?_alone hsome]
      · next hnumber =>
        split at h
        · next found hfound =>
          cases h
          obtain ⟨hagain, hnext⟩ := symbol?_alone hfound
          rw [number?_of_mark hfound hnext, hagain]
        · next hsymbol =>
          split at h
          · next hword =>
            cases h
            rw [← List.prefix_iff_eq_take.1 (List.takeWhile_prefix _), number?_takeWhile hword hnumber,
              symbol?_of_isWordChar hword, if_pos hword, List.takeWhile_idem]
          · cases h

/-- Where no token goes on behind the text of a token, the token is read there. -/
theorem scan_take_append {token : Token} (h : scan depth previous c rest = .ok (token, count)) (hds : Ends ds) :
    scan depth previous c (rest.take count ++ ds) = .ok (token, (rest.take count).length) := by
  have hlength : (rest.take count).length = count := List.length_take_of_le (scan_alike rfl h (Alike.refl _)).1
  have hends : Alike ((rest.take count).drop count) ds := by
    rw [List.drop_eq_nil_of_le hlength.le]
    exact .stop ends_nil hds
  have hbehind := (scan_alike rfl (scan_alone h) hends).2
  rw [List.take_of_length_le hlength.le] at hbehind
  rw [hlength]
  exact hbehind

end Lexer

/-! Other blanks -/

/-- Texts in a row in a longer one, with blanks around them: any at both ends, at least one between two of them. -/
inductive Spaced : List (List Char) → List Char → Prop
  | nil {blanks : List Char} (blank : ∀ c ∈ blanks, isBlank c = true) : Spaced [] blanks
  | last {text : List Char} (front : List Char) (blank : ∀ c ∈ front, isBlank c = true) : Spaced [text] (front ++ text)
  | cons {text rest : List Char} {b : Char} {texts : List (List Char)} (front : List Char)
      (blank : ∀ c ∈ front, isBlank c = true) (between : isBlank b = true) (tail : Spaced texts rest) :
      Spaced (text :: texts) (front ++ text ++ b :: rest)

namespace Spaced

open Lexer (Ends)

variable {text cs : List Char} {texts : List (List Char)} {b : Char}

theorem blank_cons (hb : isBlank b = true) (h : Spaced texts cs) : Spaced texts (b :: cs) := by
  cases h with
  | nil blank => exact .nil (List.forall_mem_cons.2 ⟨hb, blank⟩)
  | last front blank => exact .last (b :: front) (List.forall_mem_cons.2 ⟨hb, blank⟩)
  | cons front blank between tail => exact .cons (b :: front) (List.forall_mem_cons.2 ⟨hb, blank⟩) between tail

/-- Behind the first text is the end, or a blank: no token goes on there. -/
theorem of_cons (h : Spaced (text :: texts) cs) : ∃ front behind, cs = front ++ (text ++ behind) ∧
    (∀ c ∈ front, isBlank c = true) ∧ Ends behind ∧ Spaced texts behind := by
  cases h with
  | last front blank =>
    refine ⟨front, [], by rw [List.append_nil], blank, Lexer.ends_nil, .nil ?_⟩
    simp
  | @cons _ rest b _ front blank between tail =>
    have hends : Ends (b :: rest) := by
      apply Lexer.ends_cons
      constructor
      · simp [Lexer.isDelimiter, between]
      · rintro rfl
        exact absurd between (by decide)
    exact ⟨front, b :: rest, List.append_assoc _ _ _, blank, hends, tail.blank_cons between⟩

end Spaced

/-- The text of the source at the place of a lexeme. -/
def Lexeme.slice (text : String) (l : Lexeme) : String := String.Pos.Raw.extract text ⟨l.offset⟩ ⟨l.stop⟩

theorem Tiles.slice_eq {text : String} {start : Nat} {ls : List Lexeme} (h : Tiles text start ls) :
    ∀ l ∈ ls, l.slice text = String.ofList l.text := by
  induction ls generalizing start with
  | nil => simp
  | cons l ls ih =>
    obtain ⟨-, -, hcovers, -, hrest⟩ := h
    exact List.forall_mem_cons.2 ⟨hcovers.extract, ih hrest⟩

namespace Lexer

/-- The texts of lexemes are lexed as the same tokens with other blanks, by induction on the lexemes: at each the same
token stands in front and the same parentheses are open. -/
theorem lexFrom_spaced {offset depth : Nat} {previous : Option Token} {gap cs ds : List Char} {ls : List Lexeme}
    (h : lexFrom offset depth previous gap cs = .ok ls) (hspaced : Spaced (ls.map Lexeme.text) ds)
    (offset' : Nat) (gap' : List Char) :
    ∃ ms, lexFrom offset' depth previous gap' ds = .ok ms ∧ ms.map Lexeme.token = ls.map Lexeme.token := by
  induction ls generalizing offset depth previous gap cs ds offset' gap' with
  | nil =>
    cases hspaced with
    | nil blank =>
      have hnil := lexFrom_blanks blank offset' depth previous gap' []
      rw [List.append_nil, lexFrom] at hnil
      exact ⟨[], hnil, rfl⟩
  | cons l ls ih =>
    obtain ⟨blanks, c, rest, token, count, -, -, hc, hscan, rfl, hrest⟩ := of_lexFrom_cons h
    obtain ⟨front, behind, rfl, hfront, hends, htail⟩ := hspaced.of_cons
    obtain ⟨ms, hms, htokens⟩ := ih hrest htail (offset' + byteSize front + byteSize (c :: rest.take count)) []
    refine ⟨⟨token, gap' ++ front, c :: rest.take count, offset' + byteSize front⟩ :: ms, ?_, ?_⟩
    · rw [lexFrom_blanks hfront, List.cons_append, lexFrom_of_scan hc (scan_take_append hscan hends), hms]
      rfl
    · rw [List.map_cons, List.map_cons, htokens]

/-- Tokens do not depend on spacing: the slices of the tokens of a text, with other blanks between and around them,
are a text of the same tokens. -/
theorem lex_spaced {s t : String} {ls : List Lexeme} (h : lex s = .ok ls)
    (hspaced : Spaced (ls.map fun l => (l.slice s).toList) t.toList) :
    ∃ ms, lex t = .ok ms ∧ ms.map Lexeme.token = ls.map Lexeme.token := by
  have htexts : (ls.map fun l => (l.slice s).toList) = ls.map Lexeme.text := by
    apply List.map_congr_left
    intro l hl
    rw [(tiles_of_lex h).slice_eq l hl, String.toList_ofList]
  rw [htexts] at hspaced
  exact lexFrom_spaced h hspaced 0 []

/-- Marks that the blanks move away from what would turn them into signs, words or parts of a path. -/
theorem lex_spaced_exp : ∃ ls ms, lex "EXP($.a-1)>=-2" = .ok ls ∧ lex " EXP ( $.a - 1 )  >=\n-2" = .ok ms ∧
    ms.map Lexeme.token = ls.map Lexeme.token := by
  have hlex : (lex "EXP($.a-1)>=-2").toOption.any (fun ls => decide (ls.map (fun l =>
      (l.slice "EXP($.a-1)>=-2").toList) = [['E', 'X', 'P'], ['('], ['$', '.', 'a'], ['-'], ['1'], [')'], ['>', '='],
        ['-', '2']])) = true := by decide +kernel
  obtain ⟨ls, hls, hslices⟩ := exists_eq_ok_of_any hlex
  have hspaced : Spaced [['E', 'X', 'P'], ['('], ['$', '.', 'a'], ['-'], ['1'], [')'], ['>', '='], ['-', '2']]
      " EXP ( $.a - 1 )  >=\n-2".toList :=
    .cons [' '] (by decide) (by decide) <| .cons [] (by decide) (by decide) <|
      .cons [] (by decide) (by decide) <| .cons [] (by decide) (by decide) <|
      .cons [] (by decide) (by decide) <| .cons [] (by decide) (by decide) <|
      .cons [' '] (by decide) (by decide) <| .last [] (by decide)
  rw [← of_decide_eq_true hslices] at hspaced
  obtain ⟨ms, hms, htokens⟩ := lex_spaced hls hspaced
  exact ⟨ls, ms, hls, hms, htokens⟩

end Lexer

end PolicyEngine
