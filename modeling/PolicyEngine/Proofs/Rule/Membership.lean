import PolicyEngine.Proofs.Rule.Elements
import PolicyEngine.Proofs.Rule.RoundTrip

/-! Rendered memberships. They are read up to the list as what they are; the list is read back if its elements are, as
they stand there without quotes. -/
namespace PolicyEngine

open Lexer (depthBehind)

/-! Tokens of operands -/

theorem Lexer.depthBehind_append (depth : Nat) (ts us : List Token) :
    depthBehind depth (ts ++ us) = depthBehind (depthBehind depth ts) us := List.foldl_append

namespace Operand

theorem IsTerm.depthBehind_tokens {term : Operand} (hterm : term.IsTerm) (depth : Nat) :
    depthBehind depth (term.tokens false) = depth := by
  induction hterm generalizing depth with
  | path plain => rfl
  | @number x finite =>
    change depthBehind depth [Lexer.numberToken false x] = depth
    rw [Lexer.numberToken_false]
    rfl
  | @exp term hterm ih =>
    change depthBehind (depth + 1) (term.tokens false ++ [.closeParen]) = depth
    rw [Lexer.depthBehind_append, ih]
    rfl
  | @arith left op right hleft hright ihLeft ihRight =>
    change depthBehind (depth + 1) (left.tokens false ++ op.token :: right.tokens false ++ [.closeParen]) = depth
    have hop : ∀ ts, depthBehind (depth + 1) (op.token :: ts) = depthBehind (depth + 1) ts := by
      cases op <;> exact fun _ => rfl
    rw [Lexer.depthBehind_append, Lexer.depthBehind_append, ihLeft, hop, ihRight]
    rfl
  | aggregate plain => rfl

/-- Operands close the parentheses that they open. -/
theorem IsCanonical.depthBehind_tokens {operand : Operand} (hoperand : operand.IsCanonical) (behind : Bool) :
    depthBehind 0 (operand.tokens behind) = 0 := by
  cases hoperand with
  | path plain => rfl
  | @literal v scalar finite =>
    cases v with
    | number x =>
      change depthBehind 0 [Lexer.numberToken behind x] = 0
      rcases Lexer.numberToken_cases behind x with hnumber | hnumber <;> rw [hnumber] <;> rfl
    | _ => rfl
  | call call term =>
    have hdepth := term.depthBehind_tokens 0
    cases term with
    | path plain => cases call
    | number finite => cases call
    | _ => exact hdepth

end Operand

namespace Rule

/-! What an operand leaves -/

theorem suffix_of_expect {stop : Nat} {token : Token} {ls : List Lexeme} {rest : Rest ls}
    (h : expect stop token ls = .ok rest) : rest.1 <:+ ls := by
  obtain ⟨l, hl, -⟩ := of_expect h
  exact ⟨[l], hl.symm⟩

theorem suffix_of_takePath {stop : Nat} {ls : List Lexeme} {p : Path} {rest : Rest ls}
    (h : takePath stop ls = .ok (p, rest)) : rest.1 <:+ ls := by
  obtain ⟨l, text, hl, -⟩ := of_takePath h
  exact ⟨[l], hl.symm⟩

/-- A call leaves the end of what was there. -/
theorem suffix_of_parseCall {stop : Nat} {name : String} {offset : Nat} {ls : List Lexeme} {operand : Operand}
    {rest : Rest ls} (h : parseCall stop name offset ls = .ok (operand, rest)) : rest.1 <:+ ls := by
  refine parseCall_induction (P := fun ls _ rest => rest <:+ ls) (Q := fun ls _ rest => rest <:+ ls)
    ?exp ?arith ?aggregate ?call ?path ?number h
  case exp => exact fun ls term after rest hafter hclose => (suffix_of_expect hclose).trans hafter
  case arith =>
    intro ls left after op right others rest hafter _ hothers hclose
    exact (suffix_of_expect hclose).trans (hothers.trans ((List.tail_suffix after).trans hafter))
  case aggregate =>
    exact fun ls op p after rest htake hclose => (suffix_of_expect hclose).trans (suffix_of_takePath htake)
  case call => exact fun name l paren inner operand rest _ _ hrest => hrest.trans ⟨[l, paren], rfl⟩
  case path => exact fun text l p rest _ _ => List.suffix_cons l rest
  case number => exact fun text l x rest _ _ => List.suffix_cons l rest

theorem suffix_of_parseOperand {stop : Nat} {bounded : Bool} {ls rest : List Lexeme} {operand : Operand}
    (h : parseOperand stop bounded ls = .ok (operand, rest)) : rest <:+ ls := by
  unfold parseOperand at h
  split at h
  · obtain ⟨⟨operand', others⟩, hcall, heq⟩ := map_eq_ok_iff.1 h
    cases heq
    exact (suffix_of_parseCall hcall).trans ⟨[_, _], rfl⟩
  · split at h
    · cases h
    · obtain ⟨p, -, heq⟩ := map_eq_ok_iff.1 h
      cases heq
      exact List.tail_suffix ls
    · next hcut =>
      obtain ⟨x, -, heq⟩ := map_eq_ok_iff.1 h
      cases heq
      exact ⟨_, append_of_cut hcut⟩
    · next hcut =>
      cases h
      exact ⟨_, append_of_cut hcut⟩
    · next hcut =>
      cases h
      exact ⟨_, append_of_cut hcut⟩

/-- An operand is read from its tokens, and nothing else is. -/
theorem parseOperand_append {operand : Operand} (hoperand : operand.IsCanonical) (stop : Nat) {behind : Bool}
    {before after : List Lexeme} (h : ReadsAs (before ++ after) (operand.tokens behind ++ after.map Lexeme.token))
    (hends : EndsOperand true (after.map Lexeme.token)) :
    parseOperand stop true (before ++ after) = .ok (operand, after) := by
  obtain ⟨rest, hparse, hrest⟩ := parseOperand_of_reads hoperand stop h hends
  have hlength : rest.length = after.length := by simpa using congrArg List.length hrest.tokens
  have hsuffix := List.suffix_of_suffix_length_le (suffix_of_parseOperand hparse) (List.suffix_append before after)
    hlength.le
  rw [hparse, hsuffix.eq_of_length hlength]

end Rule

/-! The text up to the list -/

namespace CompareOp

/-- The words of an operator that compares with a list. -/
def words : CompareOp → List Token
  | .notMemberOf => [.word "NOT", .word "IN"]
  | op => [op.token]

/-- Such an operator is lexed as its words, before a blank. -/
theorem exists_lexFrom_symbol {op : CompareOp} (hop : op = .memberOf ∨ op = .notMemberOf) (offset : Nat)
    (previous : Option Token) (gap : List Char) : ∃ ls offset' previous', ls.map Lexeme.token = op.words ∧
      ∀ cs, Lexer.lexFrom offset 0 previous gap (op.symbol.toList ++ ' ' :: cs) =
        (Lexer.lexFrom offset' 0 previous' [' '] cs).map (ls ++ ·) := by
  rcases hop with rfl | rfl
  · exact ⟨[⟨.word "IN", gap, "IN".toList, offset⟩], _, _, rfl,
      fun cs => Lexer.lexFrom_keyword (by decide) offset 0 previous gap cs⟩
  · let behind := offset + byteSize "NOT".toList + ' '.utf8Size
    refine ⟨[⟨.word "NOT", gap, "NOT".toList, offset⟩, ⟨.word "IN", [' '], "IN".toList, behind⟩],
      behind + byteSize "IN".toList + ' '.utf8Size, some (.word "IN"), rfl, fun cs => ?_⟩
    have htext : CompareOp.notMemberOf.symbol.toList ++ ' ' :: cs =
        "NOT".toList ++ ' ' :: ("IN".toList ++ ' ' :: cs) := rfl
    rw [htext, Lexer.lexFrom_keyword (by decide), Lexer.lexFrom_keyword (by decide), map_map]
    rfl

end CompareOp

namespace Rule

open Lexer (lexFrom)

variable {left : Operand} {op : CompareOp} {items : List String}

/-- The rendering of a membership is lexed up to its list, and then as that list. -/
theorem lex_render_membership (hop : op = .memberOf ∨ op = .notMemberOf) (hleft : left.IsCanonical)
    (items : List String) : ∃ before words bracket offset, before.map Lexeme.token = left.tokens false ∧
      words.map Lexeme.token = op.words ∧ bracket.token = .openBracket ∧
      Lexer.lex (compare left op (.list items)).render =
        (lexFrom offset 0 (some .openBracket) [] (elementChars items)).map fun rest =>
          before ++ (words ++ bracket :: rest) := by
  have hspells := @Operand.IsCanonical.spells left hleft none [] [] Lexer.stops_nil fun last =>
    Lexer.spells_nil 0 (some last)
  rw [List.append_nil, List.append_nil] at hspells
  obtain ⟨before, hbefore, htokens⟩ := hspells 0 []
  obtain ⟨previous, gap, happend⟩ := Lexer.lexFrom_append hbefore (Lexer.ends_cons
    (show Lexer.isDelimiter ' ' = true ∧ ' ' ≠ '=' by decide) (op.symbol.toList ++ ' ' :: '[' :: elementChars items))
  rw [htokens, hleft.depthBehind_tokens] at happend
  obtain ⟨words, offset, previous', hwords, hsymbol⟩ :=
    op.exists_lexFrom_symbol hop (0 + byteSize left.render.toList + ' '.utf8Size) previous (gap ++ [' '])
  have htext : (compare left op (.list items)).render.toList =
      left.render.toList ++ ' ' :: (op.symbol.toList ++ ' ' :: '[' :: elementChars items) := by
    rw [← toList_render_list]
    simp only [render, String.toList_append, List.append_assoc]
    rfl
  refine ⟨before, words, ⟨.openBracket, [' '], ['['], offset⟩, offset + '['.utf8Size, htokens, hwords, rfl, ?_⟩
  rw [Lexer.lex, htext, happend, lexFrom, if_pos (by decide), hsymbol,
    Lexer.lexFrom_punctuation '[' .openBracket (by simp), map_map, map_map]
  rfl

/-! The lexemes up to the list -/

section

variable {stop : Nat} {before words rest : List Lexeme} {bracket : Lexeme}

theorem parseCompareOp_words (hop : op = .memberOf ∨ op = .notMemberOf) (stop : Nat) {words : List Lexeme}
    (hwords : words.map Lexeme.token = op.words) (rest : List Lexeme) :
    parseCompareOp stop (words ++ rest) = .ok (op, rest) := by
  rcases hop with rfl | rfl
  · obtain ⟨l, others, rfl, hl, hnil⟩ := List.map_eq_cons_iff.1 hwords
    obtain rfl := List.map_eq_nil_iff.1 hnil
    rw [parseCompareOp, List.cons_append, nextToken, hl]
    rfl
  · obtain ⟨l, others, rfl, hl, hothers⟩ := List.map_eq_cons_iff.1 hwords
    obtain ⟨m, others, rfl, hm, hnil⟩ := List.map_eq_cons_iff.1 hothers
    obtain rfl := List.map_eq_nil_iff.1 hnil
    rw [List.cons_append, List.cons_append, parseCompareOp_not stop _ hl, if_pos (by rw [nextToken, hm])]
    rfl

theorem parseComparison_membership (hop : op = .memberOf ∨ op = .notMemberOf) (hleft : left.IsCanonical)
    (hwords : words.map Lexeme.token = op.words)
    (h : ReadsAs (before ++ (words ++ bracket :: rest))
      (left.tokens false ++ (words ++ bracket :: rest).map Lexeme.token)) :
    parseComparison stop (before ++ (words ++ bracket :: rest)) =
      parseList stop (bracket :: rest) >>= fun (right, after) =>
        (expectEnd after).map fun _ => compare left op right := by
  have hends : EndsOperand true ((words ++ bracket :: rest).map Lexeme.token) := by
    rw [List.map_append, hwords]
    rcases hop with rfl | rfl
    · exact .inr ⟨rfl, _, _, rfl, rfl⟩
    · exact .inr ⟨rfl, _, _, rfl, rfl⟩
  have hparse := parseOperand_append hleft stop h hends
  unfold parseComparison
  rw [hparse]
  simp only [bind, Except.bind, parseCompareOp_words hop stop hwords, if_pos hop]
  cases parseList stop (bracket :: rest) with
  | error e => rfl
  | ok found =>
    obtain ⟨right, after⟩ := found
    simp only
    cases expectEnd after <;> rfl

theorem nullCheckOf?_of_mem {ls : List Lexeme} (h : Token.openBracket ∈ ls.map Lexeme.token) :
    nullCheckOf? ls = none := by
  unfold nullCheckOf?
  split
  · split
    · simp_all
    · simp_all
    · rfl
  · rfl

theorem passes_words (hop : op = .memberOf ∨ op = .notMemberOf) : Passes "OR" 0 op.words := by
  have hword : ∀ text, text ≠ "OR" → Passes "OR" 0 [.word text] :=
    fun text hne => passes_single (by simpa using hne) rfl
  rcases hop with rfl | rfl
  · exact hword "IN" (by decide)
  · exact (hword "NOT" (by decide)).append (hword "IN" (by decide))

/-- The form of a membership does not depend on its list, as long as no `OR` is in the open. -/
theorem ofLexemes_membership_iff (hop : op = .memberOf ∨ op = .notMemberOf) (hleft : left.IsCanonical)
    (hbefore : before.map Lexeme.token = left.tokens false) (hwords : words.map Lexeme.token = op.words)
    (hbracket : bracket.token = .openBracket)
    (hspelled : ∀ l ∈ before ++ (words ++ bracket :: rest), ∀ text, l.token = .word text → l.text = text.toList) :
    ofLexemes stop (before ++ (words ++ bracket :: rest)) = .ok (compare left op (.list items)) ↔
      splitAtWord "OR" 1 rest = none ∧ parseList stop (bracket :: rest) = .ok (.list items, []) := by
  have hreads : ReadsAs (before ++ (words ++ bracket :: rest))
      (left.tokens false ++ (words ++ bracket :: rest).map Lexeme.token) :=
    ⟨by rw [List.map_append, hbefore], hspelled⟩
  have hcut : splitAtWord "OR" 0 (before ++ (words ++ bracket :: rest)) = none ↔ splitAtWord "OR" 1 rest = none := by
    have hpasses := ((passes_operand hleft (by decide) false).append (passes_words hop)) (before ++ words)
      (bracket :: rest) (by rw [List.map_append, hbefore, hwords])
    rw [← List.append_assoc, hpasses, Option.map_eq_none_iff, splitAtWord_cons, hbracket, if_neg (by simp),
      Option.map_eq_none_iff]
    rfl
  have hform : splitAtWord "OR" 0 (before ++ (words ++ bracket :: rest)) = none →
      ofLexemes stop (before ++ (words ++ bracket :: rest)) =
        parseComparison stop (before ++ (words ++ bracket :: rest)) := by
    intro hor
    have hcheck : nullCheckOf? (before ++ (words ++ bracket :: rest)) = none := nullCheckOf?_of_mem (by simp [hbracket])
    obtain ⟨l, others, heq⟩ := hreads.nonempty (by simp [tokens_operand_ne_nil hleft])
    rw [heq] at hreads hor hcheck ⊢
    have hfirst := firstToken_ne hleft hreads
    rw [ofLexemes_plain stop hor ⟨hfirst _ (by decide), hfirst _ (by decide)⟩, hcheck]
  constructor
  · intro h
    have hor := splitAtWord_or_eq_none h (by simp)
    rw [hform hor, parseComparison_membership hop hleft hwords hreads] at h
    obtain ⟨⟨right, after⟩, hlist, h⟩ := bind_eq_ok_iff.1 h
    obtain ⟨_, hend, heq⟩ := map_eq_ok_iff.1 h
    cases heq
    cases after with
    | nil => exact ⟨hcut.1 hor, hlist⟩
    | cons l after => cases hend
  · rintro ⟨hor, hlist⟩
    rw [hform (hcut.2 hor), parseComparison_membership hop hleft hwords hreads, hlist]
    rfl

/-- A list with elements is read as its elements are. -/
theorem parseList_iff (hbracket : bracket.token = .openBracket) (hitems : items ≠ []) {after : List Lexeme} :
    parseList stop (bracket :: rest) = .ok (.list items, after) ↔ parseElements stop rest = .ok (items, after) := by
  have hunfold : parseList stop (bracket :: rest) =
      if nextToken rest = some .closeBracket then .ok (.list [], rest.tail)
      else (parseElements stop rest).map fun read => (.list read.1, read.2) := by
    unfold parseList expect
    simp only [if_pos hbracket]
    rfl
  rw [hunfold]
  constructor
  · intro h
    split at h
    · cases h
      exact absurd rfl hitems
    · obtain ⟨⟨items', after'⟩, hparse, heq⟩ := map_eq_ok_iff.1 h
      cases heq
      exact hparse
  · intro h
    obtain ⟨element, m, others, rfl, hne, hplain, -⟩ := of_parseElements h
    obtain ⟨l, ls, rfl⟩ := List.exists_cons_of_ne_nil hne
    have hclose : nextToken (l :: ls ++ m :: others) ≠ some .closeBracket := by
      intro heq
      have hl := hplain l List.mem_cons_self
      rw [Option.some.inj heq] at hl
      cases hl
    rw [if_neg hclose, h]
    rfl

end

/-! Memberships -/

/-- The rendering of a membership is read as the membership if its list is, and if that is not cut at an `OR`. -/
theorem parse_render_iff_parseList (hop : op = .memberOf ∨ op = .notMemberOf) (hleft : left.IsCanonical)
    (items : List String) : ∃ stop offset bracket, bracket.token = .openBracket ∧
      (parse (compare left op (.list items)).render = .ok (compare left op (.list items)) ↔
        ∃ rest, lexFrom offset 0 (some .openBracket) [] (elementChars items) = .ok rest ∧
          splitAtWord "OR" 1 rest = none ∧ parseList stop (bracket :: rest) = .ok (.list items, [])) := by
  obtain ⟨before, words, bracket, offset, hbefore, hwords, hbracket, hlex⟩ := lex_render_membership hop hleft items
  refine ⟨byteSize (compare left op (.list items)).render.toList, offset, bracket, hbracket, ?_⟩
  have hspelled : ∀ rest, lexFrom offset 0 (some .openBracket) [] (elementChars items) = .ok rest →
      ∀ l ∈ before ++ (words ++ bracket :: rest), ∀ text, l.token = .word text → l.text = text.toList := by
    intro rest hrest
    rw [hrest] at hlex
    exact (Lexer.lexed_of_lex hlex).spelled
  unfold parse
  rw [bind_eq_ok_iff, hlex]
  constructor
  · rintro ⟨ls, hls, hrule⟩
    obtain ⟨rest, hrest, rfl⟩ := map_eq_ok_iff.1 hls
    exact ⟨rest, hrest, (ofLexemes_membership_iff hop hleft hbefore hwords hbracket (hspelled rest hrest)).1 hrule⟩
  · rintro ⟨rest, hrest, hlist⟩
    rw [hrest]
    exact ⟨_, rfl, (ofLexemes_membership_iff hop hleft hbefore hwords hbracket (hspelled rest hrest)).2 hlist⟩

theorem of_isCanonical_membership (h : (compare left op (.list items)).IsCanonical) :
    (op = .memberOf ∨ op = .notMemberOf) ∧ left.IsCanonical := by
  cases h with
  | compare member notMember noCheck hleft hright =>
    cases hright with
    | call call term => cases call
  | membership hop hleft => exact ⟨hop, hleft⟩

/-- A membership is read back from its rendering exactly if its list is empty or its elements are read back where they
stand in it without quotes. -/
theorem parse_render_membership_iff {text : String} {left : Operand} {op : CompareOp} {items : List String}
    (h : parse text = .ok (compare left op (.list items))) :
    parse (compare left op (.list items)).render = .ok (compare left op (.list items)) ↔
      items = [] ∨ Listed 0 1 items := by
  obtain ⟨hop, hleft⟩ := of_isCanonical_membership (isCanonical_of_parse h)
  obtain ⟨stop, offset, bracket, hbracket, hread⟩ := parse_render_iff_parseList hop hleft items
  rw [hread]
  by_cases hitems : items = []
  · subst hitems
    refine ⟨fun _ => .inl rfl, fun _ => ⟨[⟨.closeBracket, [], [']'], offset⟩], ?_, rfl, ?_⟩⟩
    · rw [elementChars, Lexer.lexFrom_punctuation ']' .closeBracket (by simp), lexFrom]
      rfl
    · unfold parseList expect
      simp only [if_pos hbracket]
      rfl
  · constructor
    · rintro ⟨rest, hrest, hor, hlist⟩
      exact .inr (listed_of_elementsRead rfl hitems ⟨rest, hrest, hor, (parseList_iff hbracket hitems).1 hlist⟩)
    · intro hlisted
      obtain ⟨rest, hrest, hor, hparse⟩ :=
        @Listed.elementsRead _ _ _ (hlisted.resolve_left hitems) stop offset (some .openBracket) rfl []
      exact ⟨rest, hrest, hor, (parseList_iff hbracket hitems).2 hparse⟩

/-- Whether a rule compares a path with a list in this way. -/
def isMembership (p : Path) (op : CompareOp) (items : List String) : Rule → Bool
  | .compare (.path q) op' (.list items') => q = p && op' = op && items' = items
  | _ => false

theorem parse_of_isMembership {text : String} {p : Path} {op : CompareOp} {items : List String}
    (h : (parse text).toOption.any (isMembership p op items) = true) :
    parse text = .ok (compare (.path p) op (.list items)) := by
  obtain ⟨rule, hparse, hrule⟩ := exists_eq_ok_of_any h
  unfold isMembership at hrule
  split at hrule
  · simp only [Bool.and_eq_true, decide_eq_true_eq] at hrule
    obtain ⟨⟨rfl, rfl⟩, rfl⟩ := hrule
    exact hparse
  · cases hrule

/-- Words are read back although they were quoted. -/
theorem parse_render_membership_words :
    let rule := compare (.path ⟨"tipo", []⟩) .memberOf (.list ["premium", "OR"])
    parse "$.tipo IN ['premium', 'OR']" = .ok rule ∧ rule.render = "$.tipo IN [premium, OR]" ∧
      Listed 0 1 ["premium", "OR"] ∧ parse rule.render = .ok rule := by
  have hparse := @parse_of_isMembership "$.tipo IN ['premium', 'OR']" ⟨"tipo", []⟩ .memberOf ["premium", "OR"]
    (by decide +kernel)
  have hlisted : Listed 0 1 ["premium", "OR"] := by
    refine .of_words (by simp) (List.forall_mem_cons.2 ⟨?_, List.forall_mem_singleton.2 ?_⟩)
    · exact ⟨'p', "remium".toList, rfl, by decide, by decide⟩
    · exact ⟨'O', "R".toList, rfl, by decide, by decide⟩
  exact ⟨hparse, by decide +kernel, hlisted, (parse_render_membership_iff hparse).2 (.inr hlisted)⟩

/-- A comma in an element makes two of it. -/
theorem parse_render_membership_comma :
    let rule := compare (.path ⟨"a", []⟩) .memberOf (.list ["x, y"])
    parse "$.a IN ['x, y']" = .ok rule ∧ rule.render = "$.a IN [x, y]" ∧
      parse rule.render = .ok (compare (.path ⟨"a", []⟩) .memberOf (.list ["x", "y"])) ∧
      parse rule.render ≠ .ok rule := by
  intro rule
  have hparse := @parse_of_isMembership "$.a IN ['x, y']" ⟨"a", []⟩ .memberOf ["x, y"] (by decide +kernel)
  have hrender : rule.render = "$.a IN [x, y]" := by decide +kernel
  have hback := @parse_of_isMembership "$.a IN [x, y]" ⟨"a", []⟩ .memberOf ["x", "y"] (by decide +kernel)
  rw [hrender]
  exact ⟨hparse, rfl, hback, by simp [hback, rule]⟩

end Rule

end PolicyEngine
