import PolicyEngine.Proofs.Rule.Spelling

/-! How far the lexer looks ahead of a token: no further than the next quote character, and both quote characters
are the same to it. Nor does it look past a delimiter, other than an equals sign; and none of them is told apart
from another, or from the end of the text. -/
namespace PolicyEngine.Lexer

open Number (digitRun)
open Text (isBlank)
open Value (isQuote)

/-- Where no token goes on: at the end of the text, or before a delimiter that is part of no longer operator. -/
def Ends (cs : List Char) : Prop := ∀ c ∈ cs.head?, isDelimiter c = true ∧ c ≠ '='

theorem ends_nil : Ends [] := by simp [Ends]

theorem ends_cons {c : Char} (h : isDelimiter c = true ∧ c ≠ '=') (cs : List Char) : Ends (c :: cs) := by
  intro d hd
  cases hd
  exact h

/-- Texts that are equal up to a quote character in each, or up to where no token goes on. -/
inductive Alike : List Char → List Char → Prop
  | cons (c : Char) {cs ds : List Char} (h : Alike cs ds) : Alike (c :: cs) (c :: ds)
  | quote {c d : Char} (hc : isQuote c = true) (hd : isQuote d = true) (cs ds : List Char) :
      Alike (c :: cs) (d :: ds)
  | stop {cs ds : List Char} (hcs : Ends cs) (hds : Ends ds) : Alike cs ds

namespace Alike

theorem refl (cs : List Char) : Alike cs cs := by
  induction cs with
  | nil => exact stop ends_nil ends_nil
  | cons c cs ih => exact cons c ih

theorem append (front : List Char) {cs ds : List Char} (h : Alike cs ds) : Alike (front ++ cs) (front ++ ds) := by
  induction front with
  | nil => exact h
  | cons c front ih => exact cons c ih

/-- Tests that do not tell the quote characters apart and that no delimiter meets come out the same on the next
character. -/
theorem any_head? {p : Char → Bool} (hp : p '"' = p '\'') (hstop : ∀ c, isDelimiter c = true → c ≠ '=' → p c = false)
    {cs ds : List Char} (h : Alike cs ds) : ds.head?.any p = cs.head?.any p := by
  have hends : ∀ {cs : List Char}, Ends cs → cs.head?.any p = false := by
    intro cs hcs
    cases cs with
    | nil => rfl
    | cons c cs => exact hstop c (hcs c rfl).1 (hcs c rfl).2
  cases h with
  | cons c h => rfl
  | quote hc hd cs ds =>
    rw [isQuote_iff] at hc hd
    rcases hc with rfl | rfl <;> rcases hd with rfl | rfl <;> simp [hp]
  | stop hcs hds => rw [hends hcs, hends hds]

theorem head?_eq_some_iff {m : Char} (hquote : isQuote m = false) (hstop : isDelimiter m = true → m = '=')
    {cs ds : List Char} (h : Alike cs ds) : ds.head? = some m ↔ cs.head? = some m := by
  have hp : decide ('"' = m) = decide ('\'' = m) := by
    have hne : ¬ ('"' = m) ∧ ¬ ('\'' = m) := by constructor <;> rintro rfl <;> exact absurd hquote (by decide)
    simp [hne.1, hne.2]
  have hdelimiter : ∀ c, isDelimiter c = true → c ≠ '=' → decide (c = m) = false := by
    intro c hc hne
    refine decide_eq_false ?_
    rintro rfl
    exact hne (hstop hc)
  have hany := h.any_head? (p := fun c => decide (c = m)) hp hdelimiter
  cases hcs : cs.head? <;> cases hds : ds.head? <;> simp_all

end Alike

/-! Runs of numbers -/

/-- Readers of a run that do not look past a quote. -/
structure Steady (run : List Char → List Char × List Char) : Prop where
  append (cs : List Char) : (run cs).1 ++ (run cs).2 = cs
  alike {cs ds : List Char} (h : Alike cs ds) : (run ds).1 = (run cs).1 ∧ Alike (run cs).2 (run ds).2

/-- A run after another. -/
def inTurn (first second : List Char → List Char × List Char) (cs : List Char) : List Char × List Char :=
  ((first cs).1 ++ (second (first cs).2).1, (second (first cs).2).2)

/-- One of some marks with a run after it, if the text behind the mark goes on as it has to. -/
def marked (marks : List Char) (goesOn : List Char → Bool) (run : List Char → List Char × List Char) :
    List Char → List Char × List Char
  | [] => ([], [])
  | c :: cs => if c ∈ marks ∧ goesOn cs = true then (c :: (run cs).1, (run cs).2) else ([], c :: cs)

def noRun (cs : List Char) : List Char × List Char := ([], cs)

/-- A number, and the text behind. -/
def numeralRun : List Char → List Char × List Char :=
  inTurn (inTurn (inTurn (marked ['-'] (fun _ => true) noRun) digitRun) fractionRun) exponentRun

theorem numberRun_eq (cs : List Char) : numberRun cs = (numeralRun cs).1 := by
  cases cs with
  | nil => rfl
  | cons c cs =>
    unfold numberRun numeralRun inTurn marked noRun
    by_cases hc : c = '-'
    · subst hc
      rfl
    · simp [hc]

theorem signRun_eq : signRun = marked ['+', '-'] (fun _ => true) noRun := by
  funext cs
  cases cs with
  | nil => rfl
  | cons c cs => simp [signRun, marked, noRun]

theorem fractionRun_eq : fractionRun = marked ['.'] (fun cs => !(digitRun cs).1.isEmpty) digitRun := by
  funext cs
  cases cs with
  | nil => rfl
  | cons c cs =>
    unfold fractionRun marked
    by_cases hc : c = '.'
    · subst hc
      cases hdigits : (digitRun cs).1.isEmpty <;> simp [hdigits]
    · simp [hc]

theorem exponentRun_eq : exponentRun =
    marked ['e', 'E'] (fun cs => !(digitRun (signRun cs).2).1.isEmpty) (inTurn signRun digitRun) := by
  funext cs
  cases cs with
  | nil => rfl
  | cons c cs =>
    unfold exponentRun marked inTurn
    by_cases hc : c = 'e' ∨ c = 'E'
    · cases hdigits : (digitRun (signRun cs).2).1.isEmpty <;> simp [hc, hdigits]
    · simp [hc]

theorem steady_noRun : Steady noRun := ⟨fun _ => rfl, fun h => ⟨rfl, h⟩⟩

theorem digitRun_of_ends {cs : List Char} (h : Ends cs) : digitRun cs = ([], cs) := by
  cases cs with
  | nil => rfl
  | cons c cs => simp [digitRun, isDigit_of_isDelimiter (h c rfl).1]

theorem steady_digitRun : Steady digitRun where
  append := Number.digitRun_append
  alike h := by
    induction h with
    | stop hcs hds =>
      rw [digitRun_of_ends hcs, digitRun_of_ends hds]
      exact ⟨rfl, .stop hcs hds⟩
    | cons c h ih =>
      unfold digitRun at ih ⊢
      cases hc : c.isDigit with
      | true => simpa [List.takeWhile_cons, List.dropWhile_cons, hc] using ih
      | false => simpa [List.takeWhile_cons, List.dropWhile_cons, hc] using h.cons c
    | quote hc hd cs ds =>
      simpa [digitRun, List.takeWhile_cons, List.dropWhile_cons, isDigit_of_isQuote hc, isDigit_of_isQuote hd] using
        Alike.quote hc hd cs ds

theorem Steady.inTurn {first second : List Char → List Char × List Char} (hfirst : Steady first)
    (hsecond : Steady second) : Steady (inTurn first second) where
  append cs := by
    change (first cs).1 ++ (second (first cs).2).1 ++ (second (first cs).2).2 = cs
    rw [List.append_assoc, hsecond.append, hfirst.append]
  alike h := by
    obtain ⟨hrun, hafter⟩ := hfirst.alike h
    obtain ⟨hrun', hafter'⟩ := hsecond.alike hafter
    refine ⟨?_, hafter'⟩
    unfold Lexer.inTurn
    rw [hrun, hrun']

theorem marked_of_notMem {marks : List Char} {goesOn : List Char → Bool} {run : List Char → List Char × List Char}
    {cs : List Char} (h : ∀ c ∈ cs.head?, c ∉ marks) : marked marks goesOn run cs = ([], cs) := by
  cases cs with
  | nil => rfl
  | cons c cs => rw [marked, if_neg fun hmark => h c rfl hmark.1]

/-- Quotes and delimiters are no marks, so that what is decided at a mark is decided on both sides. -/
theorem Steady.marked {marks : List Char} {goesOn : List Char → Bool} {run : List Char → List Char × List Char}
    (hmarks : ∀ c ∈ marks, isQuote c = false ∧ isDelimiter c = false)
    (hgoesOn : ∀ cs ds, Alike cs ds → goesOn ds = goesOn cs) (hrun : Steady run) :
    Steady (marked marks goesOn run) where
  append cs := by
    cases cs with
    | nil => rfl
    | cons c cs =>
      rw [Lexer.marked]
      split
      · exact congrArg (c :: ·) (hrun.append cs)
      · rfl
  alike h := by
    have hquote : ∀ {c : Char} (cs : List Char), isQuote c = true → ∀ d ∈ (c :: cs).head?, d ∉ marks := by
      rintro c cs hc d hd hmem
      cases hd
      rw [(hmarks c hmem).1] at hc
      cases hc
    have hends : ∀ {cs : List Char}, Ends cs → ∀ d ∈ cs.head?, d ∉ marks := by
      intro cs hcs d hd hmem
      have hdelimiter := (hcs d hd).1
      rw [(hmarks d hmem).2] at hdelimiter
      cases hdelimiter
    cases h with
    | cons c h =>
      obtain ⟨hrun', hafter⟩ := hrun.alike h
      rw [Lexer.marked, Lexer.marked, hgoesOn _ _ h, hrun']
      split
      · exact ⟨rfl, hafter⟩
      · exact ⟨rfl, h.cons c⟩
    | quote hc hd cs ds =>
      rw [marked_of_notMem (hquote cs hc), marked_of_notMem (hquote ds hd)]
      exact ⟨rfl, .quote hc hd cs ds⟩
    | stop hcs hds =>
      rw [marked_of_notMem (hends hcs), marked_of_notMem (hends hds)]
      exact ⟨rfl, .stop hcs hds⟩

theorem steady_signRun : Steady signRun := by
  rw [signRun_eq]
  exact steady_noRun.marked (by decide) (fun _ _ _ => rfl)

theorem steady_fractionRun : Steady fractionRun := by
  rw [fractionRun_eq]
  refine steady_digitRun.marked (by decide) fun cs ds h => ?_
  rw [(steady_digitRun.alike h).1]

theorem steady_exponentRun : Steady exponentRun := by
  rw [exponentRun_eq]
  refine (steady_signRun.inTurn steady_digitRun).marked (by decide) fun cs ds h => ?_
  rw [(steady_digitRun.alike (steady_signRun.alike h).2).1]

theorem steady_numeralRun : Steady numeralRun := by
  have hminus : Steady (marked ['-'] (fun _ => true) noRun) := steady_noRun.marked (by decide) fun _ _ _ => rfl
  exact ((hminus.inTurn steady_digitRun).inTurn steady_fractionRun).inTurn steady_exponentRun

theorem numberRun_append (cs : List Char) : numberRun cs ++ (numeralRun cs).2 = cs := by
  rw [numberRun_eq]
  exact steady_numeralRun.append cs

theorem drop_numberRun (cs : List Char) : cs.drop (numberRun cs).length = (numeralRun cs).2 := by
  have hdrop : (numberRun cs ++ (numeralRun cs).2).drop (numberRun cs).length = (numeralRun cs).2 := List.drop_left
  rwa [numberRun_append] at hdrop

/-- Numbers end before the first quote, so that texts which are alike start with the same number, and what follows
it is alike. -/
theorem Alike.numberRun {cs ds : List Char} (h : Alike cs ds) : Lexer.numberRun ds = Lexer.numberRun cs ∧
    Alike (cs.drop (Lexer.numberRun cs).length) (ds.drop (Lexer.numberRun ds).length) := by
  rw [drop_numberRun, drop_numberRun, numberRun_eq, numberRun_eq]
  exact steady_numeralRun.alike h

/-! Tokens -/

theorem number?_alike {depth : Nat} {previous previous' : Option Token} {c : Char} {cs ds : List Char}
    (hprevious : previous'.any Token.endsOperand = previous.any Token.endsOperand) (h : Alike cs ds) :
    number? depth previous' c ds = number? depth previous c cs := by
  have hstarts : startsNumber previous' c ds.head? = startsNumber previous c cs.head? := by
    unfold startsNumber
    rw [h.any_head? rfl fun c hc _ => isDigit_of_isDelimiter hc, hprevious]
  obtain ⟨hrun, hafter⟩ := (h.cons c).numberRun
  have hword := hafter.any_head? (p := isWordChar depth) rfl fun c hc _ => isWordChar_of_isDelimiter hc depth
  rw [hrun] at hword
  unfold number?
  rw [hstarts, hrun]
  simp only [hword]

theorem symbol?_alike (depth : Nat) (c : Char) {cs ds : List Char} (h : Alike cs ds) :
    symbol? depth c ds.head? = symbol? depth c cs.head? := by
  have hdoubled : (ds.head? = some '=') = (cs.head? = some '=') :=
    propext (h.head?_eq_some_iff (by decide) fun _ => rfl)
  unfold symbol?
  simp only [hdoubled]

theorem isPrefix_pathRun (depth : Nat) (cs : List Char) : pathRun depth cs <+: cs := by
  induction cs with
  | nil => exact List.nil_prefix
  | cons c cs ih =>
    rw [pathRun]
    split
    · exact List.cons_prefix_cons.2 ⟨rfl, ih⟩
    · exact List.nil_prefix

/-- No path goes on behind the run that a path takes. -/
theorem pathRun_drop (depth : Nat) (cs : List Char) :
    pathRun depth (cs.drop (pathRun depth cs).length) = [] := by
  induction cs with
  | nil => rfl
  | cons c cs ih =>
    rw [pathRun]
    split
    · exact ih
    · next h => rw [List.length_nil, List.drop_zero, pathRun, if_neg h]

/-- Where no path goes on with a text, none goes on with a text that is alike: a path would take quotes. -/
theorem pathRun_alike {depth : Nat} {cs ds : List Char} (h : Alike cs ds) (hcs : pathRun depth cs = []) :
    pathRun depth ds = [] := by
  cases h with
  | stop _ hds =>
    cases ds with
    | nil => rfl
    | cons d ds => rw [pathRun, if_neg (by simp [isPathChar, (hds d rfl).1])]
  | @cons c cs ds h =>
    have hletter : ∀ d, isDelimiter d = true → d ≠ '=' → (Text.isLetter d || decide (d = '_')) = false := by
      intro d hd _
      cases hletter : Text.isLetter d with
      | true =>
        rw [isDelimiter_of_isLetter hletter] at hd
        cases hd
      | false =>
        refine decide_eq_false ?_
        rintro rfl
        exact absurd hd (by decide)
    have hnext : isPathChar depth c ds.head? = isPathChar depth c cs.head? := by
      unfold isPathChar
      rw [h.any_head? rfl hletter]
    rw [pathRun] at hcs ⊢
    rw [hnext]
    split at hcs
    · cases hcs
    · next hstop => rw [if_neg hstop]
  | @quote c d hc hd cs ds =>
    have hplain : isDelimiter c = false ∧ isOperator c = false := by
      rcases isQuote_iff.1 hc with rfl | rfl <;> decide
    rw [pathRun, if_pos (isPathChar_of_plain hplain.1 hplain.2 _ _)] at hcs
    cases hcs

theorem pathRun_take_append {depth : Nat} {cs ds : List Char} (h : Alike (cs.drop (pathRun depth cs).length) ds) :
    pathRun depth (cs.take (pathRun depth cs).length ++ ds) = pathRun depth cs := by
  rw [← List.prefix_iff_eq_take.1 (isPrefix_pathRun depth cs)]
  exact (closed_pathRun depth cs).pathRun_of_stop (pathRun_alike h (pathRun_drop depth cs))

/-- The text behind a word goes on with no word character, nor does a text alike. -/
theorem word_take_append {depth : Nat} {cs ds : List Char}
    (h : Alike (cs.drop (cs.takeWhile (isWordChar depth)).length) ds) :
    (cs.take (cs.takeWhile (isWordChar depth)).length ++ ds).takeWhile (isWordChar depth) =
      cs.takeWhile (isWordChar depth) := by
  have hword : ∀ c ∈ cs.takeWhile (isWordChar depth), isWordChar depth c = true :=
    fun c hc => List.all_eq_true.1 List.all_takeWhile c hc
  have hstop : ds.head?.any (isWordChar depth) = false := by
    rw [h.any_head? rfl fun c hc _ => isWordChar_of_isDelimiter hc depth]
    cases hhead : (cs.drop (cs.takeWhile (isWordChar depth)).length).head? with
    | none => rfl
    | some d => exact takeWhile_stop d hhead
  rw [← List.prefix_iff_eq_take.1 (List.takeWhile_prefix _), List.takeWhile_append_of_pos hword]
  cases ds with
  | nil => exact List.append_nil _
  | cons d ds =>
    have hd : isWordChar depth d = false := hstop
    rw [List.takeWhile_cons, hd]
    exact List.append_nil _

theorem quotedRun_quote (quote : Char) (cs : List Char) : quotedRun quote (quote :: cs) = .ok ([], 1) := by
  rw [quotedRun.eq_def]
  simp only [if_true]

/-- Quoted text ends with its closing quote, whatever follows. -/
theorem quotedRun_append {quote : Char} {cs content : List Char} {count : Nat}
    (h : quotedRun quote cs = .ok (content, count)) :
    count ≤ cs.length ∧ ∀ ds, quotedRun quote (cs.take count ++ ds) = .ok (content, count) := by
  induction cs using quotedRun.induct quote generalizing content count with
  | case1 => cases h
  | case2 rest =>
    rw [quotedRun_quote] at h
    cases h
    exact ⟨Nat.succ_le_succ (Nat.zero_le _), fun ds => quotedRun_quote quote _⟩
  | case3 hquote =>
    rw [quotedRun.eq_def] at h
    simp only [if_neg hquote, if_true] at h
    cases h
  | case4 e rest hquote ih =>
    rw [quotedRun_escape hquote] at h
    obtain ⟨⟨content', count'⟩, hrest, heq⟩ := map_eq_ok_iff.1 h
    cases heq
    obtain ⟨hcount, happend⟩ := ih hrest
    refine ⟨Nat.add_le_add_right hcount 2, fun ds => ?_⟩
    change quotedRun quote ('\\' :: e :: (rest.take count' ++ ds)) = _
    rw [quotedRun_escape hquote, happend]
    rfl
  | case5 c rest hquote hslash ih =>
    rw [quotedRun_plain hquote hslash] at h
    obtain ⟨⟨content', count'⟩, hrest, heq⟩ := map_eq_ok_iff.1 h
    cases heq
    obtain ⟨hcount, happend⟩ := ih hrest
    refine ⟨Nat.succ_le_succ hcount, fun ds => ?_⟩
    change quotedRun quote (c :: (rest.take count' ++ ds)) = _
    rw [quotedRun_plain hquote hslash, happend]
    rfl

theorem length_number?_le {depth : Nat} {previous : Option Token} {c : Char} {rest text : List Char}
    (h : number? depth previous c rest = some text) : text.length - 1 ≤ rest.length := by
  have hlength := congrArg List.length (numberRun_append (c :: rest))
  rw [List.length_append, List.length_cons] at hlength
  unfold number? at h
  split at h
  · simp only at h
    split at h
    · cases h
    · cases h
      omega
  · cases h

theorem symbol?_count_le {depth : Nat} {c : Char} {rest : List Char} {found : Token × Nat}
    (h : symbol? depth c rest.head? = some found) : found.2 ≤ rest.length := by
  obtain ⟨more, after, rfl, hcount, -⟩ := spells_of_symbol? depth c rest _ h
  rw [hcount, List.length_append]
  exact Nat.le_add_right _ _

/-- Strings are what is quoted behind a quote character. -/
theorem quoted_of_scan {depth : Nat} {previous : Option Token} {c : Char} {rest : List Char} {content : String}
    {count : Nat} (h : scan depth previous c rest = .ok (.string content, count)) :
    isQuote c = true ∧ quotedRun c rest = .ok (content.toList, count) := by
  cases scanned_of_scan h with
  | quoted hc run =>
    rw [String.toList_ofList]
    exact ⟨isQuote_iff.2 hc, run⟩
  | mark hsymbol => exact absurd hsymbol (symbol?_ne_some rfl)

/-- A token is scanned again with any text behind it that is alike to the text behind it. -/
theorem scan_alike {depth : Nat} {previous previous' : Option Token} {c : Char} {rest ds : List Char} {token : Token}
    {count : Nat} (hprevious : previous'.any Token.endsOperand = previous.any Token.endsOperand)
    (hscan : scan depth previous c rest = .ok (token, count)) (h : Alike (rest.drop count) ds) :
    count ≤ rest.length ∧ scan depth previous' c (rest.take count ++ ds) = .ok (token, count) := by
  have hrest : Alike rest (rest.take count ++ ds) := by
    have happend := h.append (rest.take count)
    rwa [List.take_append_drop] at happend
  have hnumber : number? depth previous' c (rest.take count ++ ds) = number? depth previous c rest :=
    number?_alike hprevious hrest
  have hsymbol := symbol?_alike depth c hrest
  have hpoint : (rest.take count ++ ds).head? = some '.' ↔ rest.head? = some '.' :=
    hrest.head?_eq_some_iff (by decide) (fun h => absurd h (by decide))
  unfold scan at hscan ⊢
  rw [hnumber, hsymbol]
  simp only [hpoint]
  split at hscan
  · next hquote =>
    obtain ⟨⟨content, n⟩, hrun, heq⟩ := map_eq_ok_iff.1 hscan
    cases heq
    obtain ⟨hcount, happend⟩ := quotedRun_append hrun
    refine ⟨hcount, ?_⟩
    rw [if_pos hquote, happend]
    rfl
  · next hquote =>
    rw [if_neg hquote]
    split at hscan
    · next hpath =>
      rw [if_pos hpath]
      cases rest with
      | nil => cases hpath.2
      | cons d rest =>
        cases hscan
        obtain rfl : d = '.' := Option.some.inj hpath.2
        refine ⟨Nat.succ_le_succ (isPrefix_pathRun depth rest).length_le, ?_⟩
        have hrun := pathRun_take_append h
        simp only [List.tail_cons, List.take_succ_cons, List.cons_append] at hrun ⊢
        rw [hrun]
    · next hpath =>
      rw [if_neg hpath]
      split at hscan
      · next text hsome =>
        cases hscan
        exact ⟨length_number?_le hsome, rfl⟩
      · split at hscan
        · next found hfound =>
          cases hscan
          exact ⟨symbol?_count_le hfound, rfl⟩
        · split at hscan
          · next hword =>
            cases hscan
            refine ⟨(List.takeWhile_prefix _).length_le, ?_⟩
            rw [if_pos hword, word_take_append h]
          · cases hscan

/-- What is in front of a token matters only in whether an operand ends there. -/
theorem scan_previous {depth : Nat} {previous previous' : Option Token}
    (hprevious : previous'.any Token.endsOperand = previous.any Token.endsOperand) (c : Char) (rest : List Char) :
    scan depth previous' c rest = scan depth previous c rest := by
  unfold scan
  rw [number?_alike hprevious (Alike.refl rest)]

theorem lexFrom_of_scan {offset depth : Nat} {previous : Option Token} {gap : List Char} {c : Char}
    {front rest : List Char} {token : Token} (hblank : isBlank c = false)
    (hscan : scan depth previous c (front ++ rest) = .ok (token, front.length)) :
    lexFrom offset depth previous gap (c :: (front ++ rest)) =
      (lexFrom (offset + byteSize (c :: front)) (depthAfter depth token) (some token) [] rest).map
        (⟨token, gap, c :: front, offset⟩ :: ·) := by
  rw [lexFrom, if_neg (by simp [hblank]), hscan]
  simp only [List.take_left, List.drop_left]

end PolicyEngine.Lexer
