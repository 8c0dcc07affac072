import PolicyEngine.Proofs.Rule.Placement

/-! Compound rules put together from the texts of their parts. Where the brackets of the first part are closed, a word
between two texts is found by the lexer and by the parser, and each text is read as the rule that it is alone. -/
namespace PolicyEngine

open Text (isBlank)

namespace Lexer

/-- A letter starts a word, which goes on up to the first character that no word goes on with. -/
theorem lexFrom_word {c : Char} {cs rest : List Char} (hc : c.isAlpha = true) {depth : Nat}
    (hcs : ∀ d ∈ cs, isWordChar depth d = true) (hrest : ∀ d ∈ rest.head?, isWordChar depth d = false) (offset : Nat)
    (previous : Option Token) (gap : List Char) :
    lexFrom offset depth previous gap (c :: (cs ++ rest)) =
      (lexFrom (offset + byteSize (c :: cs)) depth (some (.word (String.ofList (c :: cs)))) [] rest).map
        (⟨.word (String.ofList (c :: cs)), gap, c :: cs, offset⟩ :: ·) := by
  have hrun : (cs ++ rest).takeWhile (isWordChar depth) = cs := by
    rw [List.takeWhile_append_of_pos hcs]
    cases rest with
    | nil => exact List.append_nil cs
    | cons d rest => rw [List.takeWhile_cons_of_neg (by simp [hrest d rfl]), List.append_nil]
  have hscan := scan_of_isAlpha hc depth previous (cs ++ rest)
  rw [hrun] at hscan
  exact lexFrom_of_scan (isBlank_of_isAlpha hc) hscan

/-- A keyword before a blank is a lexeme. -/
theorem lexFrom_keyword {word : String} (halpha : word.toList ≠ [] ∧ ∀ c ∈ word.toList, c.isAlpha = true)
    (offset depth : Nat) (previous : Option Token) (gap cs : List Char) :
    lexFrom offset depth previous gap (word.toList ++ ' ' :: cs) =
      (lexFrom (offset + byteSize word.toList + ' '.utf8Size) depth (some (.word word)) [' '] cs).map
        (⟨.word word, gap, word.toList, offset⟩ :: ·) := by
  obtain ⟨c, front, htext⟩ := List.exists_cons_of_ne_nil halpha.1
  have hall := halpha.2
  rw [htext] at hall
  have hfront : ∀ d ∈ front, isWordChar depth d = true := fun d hd =>
    isWordChar_of_isLetter (isLetter_of_isAlpha (hall d (List.mem_cons_of_mem _ hd))) depth
  have hblank : ∀ d ∈ (' ' :: cs).head?, isWordChar depth d = false := by
    rintro d ⟨⟩
    exact isWordChar_of_isDelimiter (by decide) depth
  rw [htext, List.cons_append, lexFrom_word (hall c List.mem_cons_self) hfront hblank, ← htext, String.ofList_toList]
  congr 1
  rw [lexFrom, if_pos (by decide)]
  rfl

/-- Two texts with a keyword between them. -/
theorem lexFrom_around (word : String) (halpha : word.toList ≠ [] ∧ ∀ c ∈ word.toList, c.isAlpha = true)
    {offset : Nat} {previous : Option Token} {gap cs ds : List Char} {ls ms : List Lexeme}
    (hls : lexFrom offset 0 previous gap cs = .ok ls) (hdepth : depthBehind 0 (ls.map Lexeme.token) = 0)
    (hms : lexFrom 0 0 none [] ds = .ok ms) (hminus : (ds.dropWhile isBlank).head? ≠ some '-') :
    ∃ seam ms', lexFrom offset 0 previous gap (cs ++ ' ' :: (word.toList ++ ' ' :: ds)) = .ok (ls ++ seam :: ms') ∧
      seam.token = .word word ∧ Lexeme.detached ms' = Lexeme.detached ms := by
  obtain ⟨previous', gap', happend⟩ :=
    lexFrom_append hls (ends_cons (show isDelimiter ' ' = true ∧ ' ' ≠ '=' by decide) (word.toList ++ ' ' :: ds))
  obtain ⟨ms', hms', hdetached⟩ := (lexFrom_detached 0
    (offset + byteSize cs + ' '.utf8Size + byteSize word.toList + ' '.utf8Size) 0 none (some (.word word)) [] [' ']
    fun h => absurd h hminus).exists_of_ok hms
  refine ⟨⟨.word word, gap' ++ [' '], word.toList, offset + byteSize cs + ' '.utf8Size⟩, ms', ?_, rfl, hdetached⟩
  rw [happend, hdepth, lexFrom, if_pos (by decide), lexFrom_keyword halpha, hms']
  rfl

end Lexer

namespace Rule

/-! Cuts in the open -/

/-- How many brackets are open behind some tokens, for cuts at words. -/
def nestingBehind (depth : Nat) (ts : List Token) : Nat := ts.foldl nesting depth

/-- Lexemes behind which all brackets are closed, as the lexer counts them and as the parser does. -/
structure Settled (ls : List Lexeme) : Prop where
  depth : Lexer.depthBehind 0 (ls.map Lexeme.token) = 0
  nesting : nestingBehind 0 (ls.map Lexeme.token) = 0

theorem Settled.of_tokens {ls ms : List Lexeme} (h : Settled ls) (htokens : ms.map Lexeme.token = ls.map Lexeme.token) :
    Settled ms :=
  ⟨htokens ▸ h.depth, htokens ▸ h.nesting⟩

theorem splitAtWord_append {word : String} {depth : Nat} {ls : List Lexeme} (h : splitAtWord word depth ls = none)
    (rest : List Lexeme) :
    splitAtWord word depth (ls ++ rest) =
      (splitAtWord word (nestingBehind depth (ls.map Lexeme.token)) rest).map fun (before, found, after) =>
        (ls ++ before, found, after) := by
  induction ls generalizing depth with
  | nil => simp [nestingBehind]
  | cons l ls ih =>
    rw [splitAtWord_cons] at h
    split at h
    · cases h
    · next hword =>
      rw [List.cons_append, splitAtWord_cons, if_neg hword, ih (Option.map_eq_none_iff.1 h), Option.map_map]
      rfl

theorem splitAtWord_append_eq_none_iff {word : String} {depth : Nat} {ls rest : List Lexeme} :
    splitAtWord word depth (ls ++ rest) = none ↔
      splitAtWord word depth ls = none ∧ splitAtWord word (nestingBehind depth (ls.map Lexeme.token)) rest = none := by
  induction ls generalizing depth with
  | nil => exact ⟨fun h => ⟨rfl, h⟩, fun h => h.2⟩
  | cons l ls ih =>
    rw [List.cons_append, splitAtWord_cons, splitAtWord_cons]
    split
    · simp
    · rw [Option.map_eq_none_iff, Option.map_eq_none_iff]
      exact ih

/-- Cuts are made by the tokens alone. -/
theorem splitAtWord_eq_none_of_tokens {word : String} {depth : Nat} {ls ms : List Lexeme}
    (htokens : ms.map Lexeme.token = ls.map Lexeme.token) (h : splitAtWord word depth ls = none) :
    splitAtWord word depth ms = none := by
  induction ls generalizing depth ms with
  | nil =>
    rw [List.map_eq_nil_iff.1 htokens]
    rfl
  | cons l ls ih =>
    obtain ⟨m, ms, rfl, hm, hms⟩ := List.map_eq_cons_iff.1 htokens
    rw [splitAtWord_cons] at h ⊢
    rw [hm]
    split at h
    · cases h
    · next hword => rw [if_neg hword, ih hms (Option.map_eq_none_iff.1 h), Option.map_none]

/-- Behind closed brackets, the word is found. -/
theorem splitAtWord_around {word : String} {ls : List Lexeme} {seam : Lexeme} (ms : List Lexeme)
    (hsettled : Settled ls) (hnone : splitAtWord word 0 ls = none) (hseam : seam.token = .word word) :
    splitAtWord word 0 (ls ++ seam :: ms) = some (ls, seam, ms) := by
  rw [splitAtWord_append hnone, hsettled.nesting, splitAtWord_cons, if_pos ⟨rfl, hseam⟩]
  simp

/-- Behind another word, it is looked for. -/
theorem splitAtWord_cons_other {word other : String} {depth : Nat} {l : Lexeme} (ls : List Lexeme)
    (hl : l.token = .word other) (hne : other ≠ word) :
    splitAtWord word depth (l :: ls) =
      (splitAtWord word depth ls).map fun (before, found, after) => (l :: before, found, after) := by
  rw [splitAtWord_cons, hl, if_neg (by simp [hne])]
  rfl

/-- Only an `OR` is cut at its word. -/
theorem splitAtWord_or_eq_none {stop : Nat} {ls : List Lexeme} {rule : Rule} (h : ofLexemes stop ls = .ok rule)
    (hrule : ∀ left right, rule ≠ .or left right) : splitAtWord "OR" 0 ls = none := by
  cases ls with
  | nil => rfl
  | cons first others =>
    rw [ofLexemes_cons] at h
    split at h
    · split at h
      · cases h
      · obtain ⟨left, -, h⟩ := bind_eq_ok_iff.1 h
        obtain ⟨right, -, h⟩ := bind_eq_ok_iff.1 h
        cases h
        exact absurd rfl (hrule left right)
    · assumption

/-! Compound forms -/

theorem ofLexemes_or_around {stop : Nat} {ls ms : List Lexeme} {seam : Lexeme} {left right : Rule}
    (hsettled : Settled ls) (hseam : seam.token = .word "OR") (hleft : ofLexemes seam.offset ls = .ok left)
    (hright : ofLexemes stop ms = .ok right) (hor : ∀ l r, left ≠ .or l r) :
    ofLexemes stop (ls ++ seam :: ms) = .ok (.or left right) :=
  ofLexemes_or (splitAtWord_around ms hsettled (splitAtWord_or_eq_none hleft hor) hseam) hleft hright

theorem ofLexemes_conditional_around {stop : Nat} {first seam : Lexeme} {ls ms : List Lexeme} {condition action : Rule}
    (hsettled : Settled ls) (hfirst : first.token = .word "IF") (hseam : seam.token = .word "THEN")
    (hcondition : ofLexemes seam.offset ls = .ok condition) (haction : ofLexemes stop ms = .ok action)
    (hor : ∀ l r, condition ≠ .or l r) (hor' : ∀ l r, action ≠ .or l r) (hthen : splitAtWord "THEN" 0 ls = none) :
    ofLexemes stop (first :: (ls ++ seam :: ms)) = .ok (.conditional condition action) := by
  have hwhole : splitAtWord "OR" 0 (first :: (ls ++ seam :: ms)) = none := by
    rw [splitAtWord_cons_other _ hfirst (by decide), splitAtWord_append (splitAtWord_or_eq_none hcondition hor),
      hsettled.nesting, splitAtWord_cons_other _ hseam (by decide), splitAtWord_or_eq_none haction hor']
    rfl
  have hcut : splitAtWord "THEN" 0 (first :: (ls ++ seam :: ms)) = some (first :: ls, seam, ms) := by
    rw [splitAtWord_cons_other _ hfirst (by decide), splitAtWord_around ms hsettled hthen hseam]
    rfl
  exact ofLexemes_conditional hwhole hfirst hcut hcondition haction

/-! Texts -/

theorem ofLexemes_of_parse {text : String} {rule : Rule} {ls : List Lexeme} (h : parse text = .ok rule)
    (hlex : Lexer.lex text = .ok ls) : ofLexemes (byteSize text.toList) ls = .ok rule := by
  obtain ⟨_, hls, hrule⟩ := bind_eq_ok_iff.1 h
  rw [hlex] at hls
  cases hls
  exact hrule

theorem parse_or_of_parse {s t : String} {ls : List Lexeme} {left right : Rule} (hlex : Lexer.lex s = .ok ls)
    (hsettled : Settled ls) (hleft : parse s = .ok left) (hright : parse t = .ok right)
    (hminus : (t.toList.dropWhile isBlank).head? ≠ some '-') (hor : ∀ l r, left ≠ .or l r) :
    parse (s ++ " OR " ++ t) = .ok (.or left right) := by
  obtain ⟨ms, hlex', hright⟩ := bind_eq_ok_iff.1 hright
  obtain ⟨seam, ms', happend, hseam, hdetached⟩ :=
    Lexer.lexFrom_around "OR" (by decide) hlex hsettled.depth hlex' hminus
  have htext : (s ++ " OR " ++ t).toList = s.toList ++ ' ' :: ("OR".toList ++ ' ' :: t.toList) := by
    simp only [String.toList_append, List.append_assoc]
    rfl
  unfold parse Lexer.lex
  rw [htext, happend]
  exact ofLexemes_or_around hsettled hseam (ofLexemes_of_detached (ofLexemes_of_parse hleft hlex) rfl)
    (ofLexemes_of_detached hright hdetached) hor

theorem parse_conditional_of_parse {s t : String} {ls : List Lexeme} {condition action : Rule}
    (hlex : Lexer.lex s = .ok ls) (hsettled : Settled ls) (hcondition : parse s = .ok condition)
    (haction : parse t = .ok action) (hminus : (s.toList.dropWhile isBlank).head? ≠ some '-')
    (hminus' : (t.toList.dropWhile isBlank).head? ≠ some '-') (hor : ∀ l r, condition ≠ .or l r)
    (hor' : ∀ l r, action ≠ .or l r) (hthen : splitAtWord "THEN" 0 ls = none) :
    parse ("IF " ++ s ++ " THEN " ++ t) = .ok (.conditional condition action) := by
  obtain ⟨ms, hlex', haction⟩ := bind_eq_ok_iff.1 haction
  obtain ⟨ls', hls', hdetached⟩ := (Lexer.lexFrom_detached 0 (0 + byteSize "IF".toList + ' '.utf8Size) 0 none
    (some (.word "IF")) [] [' '] fun h => absurd h hminus).exists_of_ok hlex
  have htokens := Lexeme.tokens_of_detached hdetached
  have hsettled' := hsettled.of_tokens htokens
  obtain ⟨seam, ms', happend, hseam, hdetached'⟩ :=
    Lexer.lexFrom_around "THEN" (by decide) hls' hsettled'.depth hlex' hminus'
  have htext : ("IF " ++ s ++ " THEN " ++ t).toList =
      "IF".toList ++ ' ' :: (s.toList ++ ' ' :: ("THEN".toList ++ ' ' :: t.toList)) := by
    simp only [String.toList_append, List.append_assoc]
    rfl
  unfold parse Lexer.lex
  rw [htext, Lexer.lexFrom_keyword (by decide), happend]
  exact ofLexemes_conditional_around hsettled' rfl hseam
    (ofLexemes_of_detached (ofLexemes_of_parse hcondition hlex) hdetached) (ofLexemes_of_detached haction hdetached')
    hor hor' (splitAtWord_eq_none_of_tokens htokens hthen)

/-- Two texts of rules make the text of an `OR`, and of an `IF`, of these rules: if all brackets of the first are
closed, if no part is itself taken apart at the word, and if no minus comes to stand behind one. -/
theorem parse_compound_of_parse {s t : String} {ls : List Lexeme} {left right : Rule} (hleft : parse s = .ok left)
    (hright : parse t = .ok right) (hminus : (s.toList.dropWhile isBlank).head? ≠ some '-')
    (hminus' : (t.toList.dropWhile isBlank).head? ≠ some '-') (hlex : Lexer.lex s = .ok ls) (hsettled : Settled ls)
    (hor : ∀ l r, left ≠ .or l r) :
    parse (s ++ " OR " ++ t) = .ok (.or left right) ∧
      (splitAtWord "THEN" 0 ls = none → (∀ l r, right ≠ .or l r) →
        parse ("IF " ++ s ++ " THEN " ++ t) = .ok (.conditional left right)) :=
  ⟨parse_or_of_parse hlex hsettled hleft hright hminus' hor,
    fun hthen hor' => parse_conditional_of_parse hlex hsettled hleft hright hminus hminus' hor hor' hthen⟩

/-- Brackets of both kinds in the first part, and blanks that belong to a literal in each. -/
theorem parse_compound_stock :
    ∃ left right, parse "COUNT($.items) IN [2, (b  c)]" = .ok left ∧ parse " SET $.note = in  stock" = .ok right ∧
      parse ("COUNT($.items) IN [2, (b  c)]" ++ " OR " ++ " SET $.note = in  stock") = .ok (.or left right) ∧
      parse ("IF " ++ "COUNT($.items) IN [2, (b  c)]" ++ " THEN " ++ " SET $.note = in  stock") =
        .ok (.conditional left right) := by
  have hleft : (parse "COUNT($.items) IN [2, (b  c)]").toOption.any (fun rule => !rule.hasOr) = true := by
    decide +kernel
  have hright : (parse " SET $.note = in  stock").toOption.any (fun rule => !rule.hasOr) = true := by decide +kernel
  have hlex : (Lexer.lex "COUNT($.items) IN [2, (b  c)]").toOption.any (fun ls =>
      decide (Lexer.depthBehind 0 (ls.map Lexeme.token) = 0) && decide (nestingBehind 0 (ls.map Lexeme.token) = 0) &&
        (splitAtWord "THEN" 0 ls).isNone) = true := by decide +kernel
  obtain ⟨left, hleft, hor⟩ := exists_eq_ok_of_any hleft
  obtain ⟨right, hright, hor'⟩ := exists_eq_ok_of_any hright
  obtain ⟨ls, hlex, hfacts⟩ := exists_eq_ok_of_any hlex
  simp only [Bool.and_eq_true, decide_eq_true_eq, Option.isNone_iff_eq_none] at hfacts
  have hsimple : ∀ {rule : Rule}, (!rule.hasOr) = true → ∀ l r, rule ≠ .or l r := by
    rintro rule h l r rfl
    cases h
  obtain ⟨hor_parse, hconditional⟩ := parse_compound_of_parse hleft hright (by decide) (by decide) hlex
    ⟨hfacts.1.1, hfacts.1.2⟩ (hsimple hor)
  exact ⟨left, right, hleft, hright, hor_parse, hconditional hfacts.2 (hsimple hor')⟩

end Rule

end PolicyEngine
