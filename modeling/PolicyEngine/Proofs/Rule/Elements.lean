import PolicyEngine.Proofs.Rule.Composition

/-! Elements of a list as they are rendered: bare, with a comma and a blank between them. They are read back if each
is lexed as itself up to the mark behind it. -/
namespace PolicyEngine

open Text (isBlank)
open Value (isQuote)

namespace Lexer

/-! Marks in quoted text -/

theorem count_escaped {m : Char} (hm : m ∈ [',', ']']) (e : Char) :
    (escaped e).count m = ['\\', e].count m ∧ (escaped e).length ≤ 2 := by
  have hne : m ≠ '\\' ∧ m ≠ 'n' ∧ m ≠ 't' ∧ m ≠ '\n' ∧ m ≠ '\t' := by
    simp only [List.mem_cons, List.not_mem_nil, or_false] at hm
    rcases hm with rfl | rfl <;> decide
  unfold escaped
  split
  · simp [List.count_cons, hne.1.symm]
  · split
    · next he =>
      subst he
      simp [hne.1.symm, hne.2.1.symm, hne.2.2.2.1.symm]
    · split
      · next he =>
        subst he
        simp [hne.1.symm, hne.2.2.1.symm, hne.2.2.2.2.symm]
      · simp

/-- A quoted text has as many marks as its content, and is longer. -/
theorem count_quotedRun {quote m : Char} (hm : m ∈ [',', ']']) (hquote : isQuote quote = true) {cs content : List Char}
    {count : Nat} (h : quotedRun quote cs = .ok (content, count)) :
    (cs.take count).count m = content.count m ∧ content.length < (cs.take count).length := by
  have hne : quote ≠ m := by
    simp only [List.mem_cons, List.not_mem_nil, or_false] at hm
    rcases hm with rfl | rfl <;> rintro rfl <;> cases hquote
  induction cs using quotedRun.induct quote generalizing content count with
  | case1 => cases h
  | case2 rest =>
    rw [quotedRun_quote] at h
    cases h
    simp [hne]
  | case3 hslash =>
    rw [quotedRun.eq_def] at h
    simp only [if_neg hslash, if_true] at h
    cases h
  | case4 e rest hslash ih =>
    rw [quotedRun_escape hslash] at h
    obtain ⟨⟨content', count'⟩, hrest, heq⟩ := map_eq_ok_iff.1 h
    cases heq
    obtain ⟨hcount, hlength⟩ := ih hrest
    obtain ⟨hescaped, hshort⟩ := count_escaped hm e
    constructor
    · rw [List.take_succ_cons, List.take_succ_cons, List.count_append, hescaped, ← hcount, ← List.count_append]
      rfl
    · simp only [List.take_succ_cons, List.length_cons, List.length_append]
      omega
  | case5 c rest hc hslash ih =>
    rw [quotedRun_plain hc hslash] at h
    obtain ⟨⟨content', count'⟩, hrest, heq⟩ := map_eq_ok_iff.1 h
    cases heq
    obtain ⟨hcount, hlength⟩ := ih hrest
    constructor
    · rw [List.take_succ_cons, List.count_cons, List.count_cons, hcount]
    · simp only [List.take_succ_cons, List.length_cons]
      omega

/-- Before a mark, no text is the content of what it starts with: the quotes make that longer, so that the mark would
be inside, and then in the content. -/
theorem not_string_of_lexFrom {offset depth : Nat} {previous : Option Token} {gap cs : List Char} {m : Char}
    (hm : m ∈ [',', ']']) {content : String} {l : Lexeme} {ls : List Lexeme}
    (h : lexFrom offset depth previous gap (content.toList ++ m :: cs) = .ok (l :: ls)) :
    l.token ≠ .string content := by
  obtain ⟨blanks, quote, rest, token, count, htext, hblanks, -, hscan, rfl, -⟩ := of_lexFrom_cons h
  rintro rfl
  obtain ⟨hquote, hrun⟩ := quoted_of_scan hscan
  obtain ⟨hcount, hlength⟩ := count_quotedRun hm hquote hrun
  have hne : isBlank m = false ∧ isQuote m = false := by
    simp only [List.mem_cons, List.not_mem_nil, or_false] at hm
    rcases hm with rfl | rfl <;> decide
  have hwhole : blanks ++ quote :: rest.take count <+: content.toList ++ [m] ++ cs := by
    refine ⟨rest.drop count, ?_⟩
    rw [List.append_assoc, List.cons_append, List.take_append_drop, ← htext, List.append_assoc]
    rfl
  have hprefix : content.toList ++ [m] <+: blanks ++ quote :: rest.take count := by
    refine List.prefix_of_prefix_length_le (List.prefix_append _ cs) hwhole ?_
    simp only [List.length_append, List.length_cons, List.length_nil]
    omega
  have hblank : blanks.count m = 0 := by
    refine List.count_eq_zero.2 fun hmem => ?_
    rw [hblanks m hmem] at hne
    cases hne.1
  have hquoted : quote ≠ m := by
    rintro rfl
    rw [hquote] at hne
    cases hne.2
  have hle := hprefix.count_le m
  rw [List.count_append, List.count_append, hblank, List.count_cons_of_ne hquoted, hcount,
    List.count_singleton_self] at hle
  omega

/-- Brackets and commas are tokens everywhere. -/
theorem lexFrom_punctuation (c : Char) (token : Token)
    (hc : (c, token) ∈ [('[', Token.openBracket), (']', .closeBracket), (',', .comma)]) (offset depth : Nat)
    (previous : Option Token) (gap cs : List Char) :
    lexFrom offset depth previous gap (c :: cs) =
      (lexFrom (offset + c.utf8Size) depth (some token) [] cs).map (⟨token, gap, [c], offset⟩ :: ·) := by
  have hfacts : isBlank c = false ∧ scan depth previous c cs = .ok (token, 0) ∧ depthAfter depth token = depth := by
    simp only [List.mem_cons, Prod.mk.injEq, List.not_mem_nil, or_false] at hc
    rcases hc with ⟨rfl, rfl⟩ | ⟨rfl, rfl⟩ | ⟨rfl, rfl⟩ <;>
      exact ⟨by decide, scan_mark (by decide) (by simp [startsNumber]) (by simp [symbol?]), rfl⟩
  obtain ⟨hblank, hscan, hdepth⟩ := hfacts
  have hlex := @lexFrom_of_scan offset depth previous gap c [] cs token hblank hscan
  rw [hdepth] at hlex
  exact hlex

end Lexer

namespace Rule

open Lexer (lexFrom depthBehind)

/-! Elements in lexemes -/

theorem parseElements_append (stop : Nat) {ls : List Lexeme} {m : Lexeme} (rest : List Lexeme) (hls : ls ≠ [])
    (hplain : ∀ l ∈ ls, endsElement l.token = false) (hm : endsElement m.token = true) :
    parseElements stop (ls ++ m :: rest) =
      if m.token = .comma then
        (parseElements stop rest).map fun (items, after) => (elementText ls :: items, after)
      else .ok ([elementText ls], rest) := by
  have hkeep : ∀ l ∈ ls, (!endsElement l.token) = true := fun l hl => by rw [hplain l hl]; rfl
  have htake : (ls ++ m :: rest).takeWhile (fun l => !endsElement l.token) = ls := by
    rw [List.takeWhile_append_of_pos hkeep, List.takeWhile_cons_of_neg (by simp [hm]), List.append_nil]
  have hdrop : (ls ++ m :: rest).dropWhile (fun l => !endsElement l.token) = m :: rest := by
    rw [List.dropWhile_append_of_pos hkeep, List.dropWhile_cons_of_neg (by simp [hm])]
  rw [parseElements_eq]
  simp only [htake, hdrop, List.isEmpty_eq_false_iff.2 hls, Bool.false_eq_true, if_false]

/-- The first element with the mark behind it: a comma and other elements, or the closing bracket. -/
theorem of_parseElements {stop : Nat} {ls after : List Lexeme} {items : List String}
    (h : parseElements stop ls = .ok (items, after)) :
    ∃ element m rest, ls = element ++ m :: rest ∧ element ≠ [] ∧ (∀ l ∈ element, endsElement l.token = false) ∧
      (m.token = .comma ∧ (∃ more, items = elementText element :: more ∧ parseElements stop rest = .ok (more, after)) ∨
        m.token = .closeBracket ∧ items = [elementText element] ∧ after = rest) := by
  have hsplit := List.takeWhile_append_dropWhile (p := fun l : Lexeme => !endsElement l.token) (l := ls)
  rw [parseElements_eq] at h
  simp only at h
  split at h
  · cases h
  · next hnonempty =>
    have hplain : ∀ l ∈ ls.takeWhile fun l => !endsElement l.token, endsElement l.token = false := fun l hl => by
      simpa using List.all_eq_true.1 List.all_takeWhile l hl
    split at h
    · cases h
    · next m rest hdrop =>
      rw [hdrop] at hsplit
      refine ⟨_, m, rest, hsplit.symm, by simpa using hnonempty, hplain, ?_⟩
      split at h
      · next hcomma =>
        obtain ⟨⟨more, after'⟩, hrest, heq⟩ := map_eq_ok_iff.1 h
        cases heq
        exact .inl ⟨hcomma, more, rfl, hrest⟩
      · next hcomma =>
        cases h
        have hends := List.head?_dropWhile_not (fun l : Lexeme => !endsElement l.token) ls
        rw [hdrop] at hends
        refine .inr ⟨?_, rfl, rfl⟩
        simpa [endsElement, hcomma] using hends

theorem parseElements_ne_nil {stop : Nat} {ls after : List Lexeme} : parseElements stop ls ≠ .ok ([], after) := by
  intro h
  obtain ⟨element, m, rest, -, -, -, ⟨-, more, hitems, -⟩ | ⟨-, hitems, -⟩⟩ := of_parseElements h
  · cases hitems
  · cases hitems

theorem elementText_of_unquoted {ls : List Lexeme} (h : ∀ content, ls.map Lexeme.token ≠ [.string content]) :
    elementText ls = String.ofList (Lexeme.source ls) := by
  unfold elementText
  split
  · exact absurd rfl (h _)
  · rfl

/-- Lexemes that an element is read from as it is written. -/
structure Bare (s : String) (ls : List Lexeme) : Prop where
  nonempty : ls ≠ []
  source : Lexeme.source ls = s.toList
  plain : ∀ l ∈ ls, endsElement l.token = false
  unquoted : ∀ content, ls.map Lexeme.token ≠ [.string content]

namespace Bare

variable {s : String} {ls ms : List Lexeme}

theorem elementText (h : Bare s ls) : Rule.elementText ls = s := by
  rw [elementText_of_unquoted h.unquoted, h.source, String.ofList_toList]

theorem of_detached (h : Bare s ls) (hms : Lexeme.detached ms = Lexeme.detached ls) : Bare s ms := by
  have htokens := Lexeme.tokens_of_detached hms
  refine ⟨?_, ?_, fun m hm => ?_, ?_⟩
  · rintro rfl
    exact h.nonempty (List.map_eq_nil_iff.1 htokens.symm)
  · rw [← Lexeme.source_detached, hms, Lexeme.source_detached, h.source]
  · have htoken : m.token ∈ ls.map Lexeme.token := htokens ▸ List.mem_map_of_mem hm
    obtain ⟨l, hl, heq⟩ := List.mem_map.1 htoken
    rw [← heq]
    exact h.plain l hl
  · rw [htokens]
    exact h.unquoted

/-- An element that is read before a mark is read as it is written: a quoted one would not end there. -/
theorem of_lexFrom {offset depth : Nat} {previous : Option Token} {gap cs : List Char} {m : Char} {others : List Lexeme}
    (hm : m ∈ [',', ']']) (h : lexFrom offset depth previous gap (s.toList ++ m :: cs) = .ok (ls ++ others))
    (hls : ls ≠ []) (hplain : ∀ l ∈ ls, endsElement l.token = false) (htext : Rule.elementText ls = s) : Bare s ls := by
  have hunquoted : ∀ content, ls.map Lexeme.token ≠ [.string content] := by
    intro content htokens
    obtain ⟨⟨token, gap, text, offset⟩, rest, rfl, rfl, hrest⟩ := List.map_eq_cons_iff.1 htokens
    obtain rfl := List.map_eq_nil_iff.1 hrest
    obtain rfl : content = s := htext
    exact Lexer.not_string_of_lexFrom hm h rfl
  refine ⟨hls, ?_, hplain, hunquoted⟩
  rw [← htext, elementText_of_unquoted hunquoted, String.toList_ofList]

end Bare

/-- Elements that are read back in turn, where the parentheses and brackets of each may be closed in a later one: each
is lexed as itself before a comma, and the last before the closing bracket. No `OR` is in the open. -/
inductive Listed : Nat → Nat → List String → Prop
  | last {depth nesting : Nat} {s : String} {ls : List Lexeme} {close : Lexeme}
      (hlex : lexFrom 0 depth none [] (s.toList ++ [']']) = .ok (ls ++ [close])) (hclose : close.token = .closeBracket)
      (bare : Bare s ls) (hor : splitAtWord "OR" nesting ls = none) : Listed depth nesting [s]
  | cons {depth nesting : Nat} {s : String} {ls : List Lexeme} {items : List String}
      (hlex : lexFrom 0 depth none [] s.toList = .ok ls) (bare : Bare s ls) (hor : splitAtWord "OR" nesting ls = none)
      (hitems : Listed (depthBehind depth (ls.map Lexeme.token)) (nestingBehind nesting (ls.map Lexeme.token)) items) :
      Listed depth nesting (s :: items)

/-- Rendered elements up to the closing bracket. -/
def elementChars : List String → List Char
  | [] => [']']
  | [s] => s.toList ++ [']']
  | s :: t :: items => s.toList ++ ',' :: ' ' :: elementChars (t :: items)

theorem toList_render_list (items : List String) :
    (Operand.list items).render.toList = '[' :: elementChars items := by
  have hitems : (Operand.listText items).toList ++ [']'] = elementChars items := by
    unfold Operand.listText
    rw [String.toList_intercalate]
    induction items with
    | nil => rfl
    | cons s items ih =>
      cases items with
      | nil => simp [elementChars]
      | cons t items =>
        rw [List.map_cons] at ih
        rw [List.map_cons, List.map_cons, List.intercalate_cons_cons, elementChars, ← ih, List.append_assoc,
          List.append_assoc]
        rfl
  simp only [Operand.render, String.toList_append, List.append_assoc]
  exact congrArg (List.cons '[') hitems

/-- Whether rendered elements are lexed and parsed as the elements, and not taken apart at an `OR`. -/
def ElementsRead (stop offset depth nesting : Nat) (previous : Option Token) (gap : List Char) (items : List String) :
    Prop :=
  ∃ rest, lexFrom offset depth previous gap (elementChars items) = .ok rest ∧
    splitAtWord "OR" nesting rest = none ∧ parseElements stop rest = .ok (items, [])

theorem splitAtWord_cons_comma {word : String} {nesting : Nat} {m : Lexeme} (rest : List Lexeme)
    (hm : m.token = .comma) : splitAtWord word nesting (m :: rest) = none ↔ splitAtWord word nesting rest = none := by
  rw [splitAtWord_cons, hm, if_neg (by simp), Option.map_eq_none_iff]
  rfl

theorem Listed.elementsRead {depth nesting : Nat} {items : List String} (h : Listed depth nesting items)
    (stop offset : Nat) {previous : Option Token} (hprevious : previous.any Token.endsOperand = false)
    (gap : List Char) : ElementsRead stop offset depth nesting previous gap items := by
  induction h generalizing offset previous gap with
  | @last depth nesting s ls close hlex hclose bare hor =>
    obtain ⟨ms, hms, hdetached⟩ :=
      (Lexer.lexFrom_detached 0 offset depth none previous [] gap fun _ => hprevious).exists_of_ok hlex
    obtain ⟨ls', others, rfl, hls', hothers⟩ := Lexeme.of_detached_append bare.nonempty hdetached
    obtain ⟨m, rest, rfl, hm, hrest⟩ := List.map_eq_cons_iff.1 hothers
    obtain rfl := List.map_eq_nil_iff.1 hrest
    have hclose' : m.token = .closeBracket := hm.trans hclose
    have bare' := bare.of_detached hls'
    refine ⟨_, hms, ?_, ?_⟩
    · have hor' := splitAtWord_eq_none_of_tokens (Lexeme.tokens_of_detached hls') hor
      rw [splitAtWord_append_eq_none_iff]
      refine ⟨hor', ?_⟩
      rw [splitAtWord_cons, if_neg (by simp [hclose'])]
      rfl
    · rw [parseElements_append stop [] bare'.nonempty bare'.plain (by rw [hclose']; rfl), if_neg (by simp [hclose']),
        bare'.elementText]
  | @cons depth nesting s ls items hlex bare hor hitems ih =>
    cases items with
    | nil => cases hitems
    | cons t items =>
      obtain ⟨ls', hls', hdetached⟩ :=
        (Lexer.lexFrom_detached 0 offset depth none previous [] gap fun _ => hprevious).exists_of_ok hlex
      have htokens := Lexeme.tokens_of_detached hdetached
      have bare' := bare.of_detached hdetached
      have hor' := splitAtWord_eq_none_of_tokens htokens hor
      obtain ⟨previous', gap', happend⟩ := Lexer.lexFrom_append hls'
        (Lexer.ends_cons (show Lexer.isDelimiter ',' = true ∧ ',' ≠ '=' by decide) (' ' :: elementChars (t :: items)))
      obtain ⟨rest, hrest, horRest, hparse⟩ := @ih (offset + byteSize s.toList + ','.utf8Size + ' '.utf8Size)
        (some .comma) rfl [' ']
      rw [← htokens] at hrest horRest
      refine ⟨ls' ++ ⟨.comma, gap', [','], offset + byteSize s.toList⟩ :: rest, ?_, ?_, ?_⟩
      · rw [elementChars, happend, Lexer.lexFrom_punctuation ',' .comma (by simp), lexFrom, if_pos (by decide),
          List.nil_append, hrest]
        rfl
      · rw [splitAtWord_append_eq_none_iff, splitAtWord_cons_comma rest rfl]
        exact ⟨hor', horRest⟩
      · rw [parseElements_append stop rest bare'.nonempty bare'.plain rfl, if_pos rfl, hparse, bare'.elementText]
        rfl

/-- What is read back is read element by element, by induction on the elements. -/
theorem listed_of_elementsRead {stop offset depth nesting : Nat} {previous : Option Token} {gap : List Char}
    {items : List String} (hprevious : previous.any Token.endsOperand = false) (hitems : items ≠ [])
    (h : ElementsRead stop offset depth nesting previous gap items) :
    Listed depth nesting items := by
  induction items generalizing offset depth nesting previous gap with
  | nil => exact absurd rfl hitems
  | cons s items ih =>
    obtain ⟨rest, hlex, hor, hparse⟩ := h
    obtain ⟨element, m, others, rfl, hne, hplain, hmark⟩ := of_parseElements hparse
    obtain ⟨horElement, horOthers⟩ := splitAtWord_append_eq_none_iff.1 hor
    cases items with
    | nil =>
      rcases hmark with ⟨-, more, heq, hmore⟩ | ⟨hclose, heq, rfl⟩
      · obtain ⟨-, rfl⟩ := List.cons.inj heq
        exact absurd hmore parseElements_ne_nil
      · have htext := (List.cons.inj heq).1
        have bare := Bare.of_lexFrom (m := ']') (by simp) hlex hne hplain htext.symm
        obtain ⟨ms, hms, hdetached⟩ :=
          (Lexer.lexFrom_detached offset 0 depth previous none gap [] fun _ => hprevious.symm).exists_of_ok hlex
        obtain ⟨ls, closing, rfl, hls, hclosing⟩ := Lexeme.of_detached_append hne hdetached
        obtain ⟨close, rest, rfl, hclose', hrest⟩ := List.map_eq_cons_iff.1 hclosing
        obtain rfl := List.map_eq_nil_iff.1 hrest
        exact .last hms (hclose'.trans hclose) (bare.of_detached hls)
          (splitAtWord_eq_none_of_tokens (Lexeme.tokens_of_detached hls) horElement)
    | cons t items =>
      rcases hmark with ⟨hcomma, more, heq, hmore⟩ | ⟨-, heq, -⟩
      · obtain ⟨htext, rfl⟩ := List.cons.inj heq
        have bare := Bare.of_lexFrom (m := ',') (by simp) hlex hne hplain htext.symm
        obtain ⟨offset', previous', hothers, hends⟩ := Lexer.lexFrom_left hne bare.source hlex
        rw [Lexer.lexFrom_punctuation ',' .comma (by simp), lexFrom, if_pos (by decide)] at hothers
        obtain ⟨rest, hrest, heq⟩ := map_eq_ok_iff.1 hothers
        obtain ⟨rfl, rfl⟩ := List.cons.inj heq
        have hitems := ih rfl (by simp) ⟨_, hrest, (splitAtWord_cons_comma rest hcomma).1 horOthers, hmore⟩
        have hlex' := hends (Lexer.ends_cons (by decide) _)
        obtain ⟨ls, hls, hdetached⟩ :=
          (Lexer.lexFrom_detached offset 0 depth previous none gap [] fun _ => hprevious.symm).exists_of_ok hlex'
        have htokens := Lexeme.tokens_of_detached hdetached
        rw [← htokens] at hitems
        exact .cons hls (bare.of_detached hdetached) (splitAtWord_eq_none_of_tokens htokens horElement) hitems
      · cases heq

/-- A letter with word characters behind it. -/
def IsWord (s : String) : Prop :=
  ∃ c cs, s.toList = c :: cs ∧ c.isAlpha = true ∧ ∀ d ∈ cs, Lexer.isWordChar 0 d = true

theorem IsWord.lexFrom {s : String} (h : IsWord s) {rest : List Char}
    (hrest : ∀ d ∈ rest.head?, Lexer.isWordChar 0 d = false) :
    Lexer.lexFrom 0 0 none [] (s.toList ++ rest) =
      (Lexer.lexFrom (byteSize s.toList) 0 (some (.word s)) [] rest).map (⟨.word s, [], s.toList, 0⟩ :: ·) := by
  obtain ⟨c, cs, htext, hc, hcs⟩ := h
  have hlex := Lexer.lexFrom_word hc hcs hrest 0 none []
  rwa [← htext, String.ofList_toList, Nat.zero_add, ← List.cons_append, ← htext] at hlex

/-- Words are read back, `OR` too, which is not in the open. -/
theorem Listed.of_words {items : List String} (hitems : items ≠ []) (h : ∀ s ∈ items, IsWord s) :
    Listed 0 1 items := by
  induction items with
  | nil => exact absurd rfl hitems
  | cons s items ih =>
    have hs := h s List.mem_cons_self
    have bare : Bare s [⟨.word s, [], s.toList, 0⟩] :=
      ⟨by simp, by simp [Lexeme.source], by simp [endsElement], by simp⟩
    cases items with
    | nil =>
      have hmark : ∀ d ∈ [']'].head?, Lexer.isWordChar 0 d = false := by
        rintro d ⟨⟩
        decide
      refine @Listed.last 0 1 s _ ⟨.closeBracket, [], [']'], byteSize s.toList⟩ ?_ rfl bare rfl
      rw [hs.lexFrom hmark, Lexer.lexFrom_punctuation ']' .closeBracket (by simp), Lexer.lexFrom]
      rfl
    | cons t items =>
      refine .cons ?_ bare rfl (ih (by simp) fun u hu => h u (List.mem_cons_of_mem _ hu))
      rw [← List.append_nil s.toList, hs.lexFrom (by simp), Lexer.lexFrom, List.append_nil]
      rfl

end Rule

end PolicyEngine
