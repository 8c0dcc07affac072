import PolicyEngine.Proofs.Rule.Composition
import PolicyEngine.Proofs.Rule.Tiling

/-! Bare literals of assignments. The value of a `SET` reaches to the end of the rule, so that any lexemes there are one
literal, of the text from the first to the last of them: operators, keywords and brackets among them are characters
of that text. -/
namespace PolicyEngine

open Text (isBlank)

namespace Lexer

variable {offset depth : Nat} {previous : Option Token} {cs : List Char} {ls : List Lexeme}

/-- Blanks that a text starts with are none where it starts with another character. -/
theorem nil_of_blank {blanks : List Char} (hblanks : ∀ c ∈ blanks, isBlank c = true)
    (h : ∀ c ∈ blanks.head?, isBlank c = false) : blanks = [] := by
  cases blanks with
  | nil => rfl
  | cons c blanks =>
    have hblank := hblanks c List.mem_cons_self
    rw [h c rfl] at hblank
    cases hblank

theorem nil_of_blank_end {blanks : List Char} (hblanks : ∀ c ∈ blanks, isBlank c = true)
    (h : ∀ c ∈ blanks.getLast?, isBlank c = false) : blanks = [] := by
  apply List.reverse_eq_nil_iff.1
  apply nil_of_blank
  · intro c hc
    exact hblanks c (List.mem_reverse.1 hc)
  · rwa [List.head?_reverse]

theorem ne_nil_of_lexFrom (h : lexFrom offset depth previous [] cs = .ok ls) (hcs : cs ≠ [])
    (hfirst : ∀ c ∈ cs.head?, isBlank c = false) : ls ≠ [] := by
  rintro rfl
  exact hcs (nil_of_blank (blank_of_lexFrom_nil h) hfirst)

/-- A text without blanks at its ends is the text from its first lexeme to its last. -/
theorem source_of_lexFrom (h : lexFrom offset depth previous [] cs = .ok ls)
    (hfirst : ∀ c ∈ cs.head?, isBlank c = false) (hlast : ∀ c ∈ cs.getLast?, isBlank c = false) :
    Lexeme.source ls = cs := by
  cases ls with
  | nil => exact (nil_of_blank (blank_of_lexFrom_nil h) hfirst).symm
  | cons l ls =>
    obtain ⟨blanks, c, rest, token, count, -, hblanks, -, -, hl, -⟩ := of_lexFrom_cons h
    have hgap : l.gap = blanks := by rw [hl, List.nil_append]
    rw [← List.append_nil (l :: ls)] at h
    obtain ⟨front, back, _, _, rfl, hfront, hback, -⟩ := lexFrom_unappend (fun _ => rfl) h
    rw [List.nil_append, charsOf_cons, hgap] at hfront
    subst hfront
    have hfront : blanks = [] := by
      apply nil_of_blank hblanks
      intro c hc
      apply hfirst
      cases blanks with
      | nil => cases hc
      | cons b blanks => exact hc
    have hbehind : back = [] := by
      apply nil_of_blank_end (blank_of_lexFrom_nil hback)
      intro c hc
      apply hlast
      rw [List.getLast?_append, Option.mem_def.1 hc]
      rfl
    rw [hfront, hbehind, List.append_nil, List.nil_append]

/-- A lone equals sign before a blank is a lexeme. -/
theorem lexFrom_assign (offset depth : Nat) (previous : Option Token) (gap cs : List Char) :
    lexFrom offset depth previous gap ('=' :: ' ' :: cs) =
      (lexFrom (offset + byteSize ['='] + ' '.utf8Size) depth (some .assign) [' '] cs).map
        (⟨.assign, gap, ['='], offset⟩ :: ·) := by
  have hscan : scan depth previous '=' ([] ++ ' ' :: cs) = .ok (.assign, ([] : List Char).length) := by
    simp [scan, number?, startsNumber, symbol?]
  have hlex := @lexFrom_of_scan offset depth previous gap '=' [] (' ' :: cs) .assign (by decide) hscan
  rw [List.nil_append] at hlex
  rw [hlex, lexFrom, if_pos (by decide)]
  rfl

/-- A path starts with no minus. -/
theorem head?_of_lexFrom_path {l : Lexeme} {text : String} (h : lexFrom offset depth previous [] cs = .ok (l :: ls))
    (hl : l.token = .path text) : (cs.dropWhile isBlank).head? ≠ some '-' := by
  obtain ⟨blanks, c, rest, token, count, rfl, hblanks, hc, hscan, rfl, -⟩ := of_lexFrom_cons h
  obtain rfl : token = .path text := hl
  rw [List.dropWhile_append_of_pos hblanks, List.dropWhile_cons_of_neg (by simp [hc])]
  cases scanned_of_scan hscan with
  | path hdollar =>
    rw [hdollar]
    simp
  | mark hsymbol => exact absurd hsymbol (symbol?_ne_some rfl)

/-- The keyword, the path and the mark that an assignment starts with are lexemes, whatever stands behind them. -/
theorem lex_assignment {p text : String} {l : Lexeme} (hp : lex p = .ok [l]) (hl : l.token = .path text) (t : String) :
    ∃ keyword target assign offset, keyword.token = .word "SET" ∧ target.token = .path text ∧
      assign.token = .assign ∧ lex ("SET " ++ p ++ " = " ++ t) =
        (lexFrom offset 0 (some .assign) [' '] t.toList).map fun ls => keyword :: target :: assign :: ls := by
  have htext : ("SET " ++ p ++ " = " ++ t).toList =
      "SET".toList ++ ' ' :: (p.toList ++ ' ' :: '=' :: ' ' :: t.toList) := by
    simp only [String.toList_append, List.append_assoc]
    rfl
  obtain ⟨targets, htargets, hdetached⟩ := (lexFrom_detached 0 (0 + byteSize "SET".toList + ' '.utf8Size) 0 none
    (some (.word "SET")) [] [' '] fun h => absurd h (head?_of_lexFrom_path hp hl)).exists_of_ok hp
  obtain ⟨target, others, rfl, htarget, hothers⟩ := List.map_eq_cons_iff.1 (Lexeme.tokens_of_detached hdetached)
  obtain rfl := List.map_eq_nil_iff.1 hothers
  obtain ⟨previous, gap, happend⟩ := lexFrom_append htargets
    (ends_cons (show isDelimiter ' ' = true ∧ ' ' ≠ '=' by decide) ('=' :: ' ' :: t.toList))
  have hdepth : depthBehind 0 ([target].map Lexeme.token) = 0 := by
    rw [List.map_singleton, htarget, hl]
    rfl
  let start := 0 + byteSize "SET".toList + ' '.utf8Size + byteSize p.toList + ' '.utf8Size
  refine ⟨⟨.word "SET", [], "SET".toList, 0⟩, target, ⟨.assign, gap ++ [' '], ['='], start⟩,
    start + byteSize ['='] + ' '.utf8Size, rfl, htarget.trans hl, rfl, ?_⟩
  rw [lex, htext, lexFrom_keyword (by decide), happend, hdepth, lexFrom, if_pos (by decide), lexFrom_assign, map_map,
    map_map]
  rfl

end Lexer

namespace Rule

variable {stop : Nat} {ls ms : List Lexeme}

/-- Lexemes that are no value of another kind: they start with no path and with no call, and they are not a single number
or quoted text. -/
structure IsBareText (ls : List Lexeme) : Prop where
  path : ∀ text rest, ls.map Lexeme.token ≠ .path text :: rest
  call : ∀ name rest, ls.map Lexeme.token ≠ .word name :: .openParen :: rest
  number : ∀ text, ls.map Lexeme.token ≠ [.number text]
  string : ∀ content, ls.map Lexeme.token ≠ [.string content]

theorem IsBareText.of_tokens (h : IsBareText ls) (htokens : ms.map Lexeme.token = ls.map Lexeme.token) :
    IsBareText ms := by
  constructor
  · rw [htokens]
    exact h.path
  · rw [htokens]
    exact h.call
  · rw [htokens]
    exact h.number
  · rw [htokens]
    exact h.string

/-- A value of an assignment that may be any text is all of it. -/
theorem parseOperand_of_isBareText (hne : ls ≠ []) (h : IsBareText ls) :
    parseOperand stop false ls = .ok (literalOf ls, []) := by
  obtain ⟨⟨token, gap, text, offset⟩, rest, rfl⟩ := List.exists_cons_of_ne_nil hne
  have hcall : ∀ name gap' text' offset' gap'' text'' offset'' inner,
      (⟨token, gap, text, offset⟩ :: rest : List Lexeme) =
        ⟨.word name, gap', text', offset'⟩ :: ⟨.openParen, gap'', text'', offset''⟩ :: inner → False := by
    intro name gap' text' offset' gap'' text'' offset'' inner heq
    exact h.call name (inner.map Lexeme.token) (congrArg (List.map Lexeme.token) heq)
  rw [parseOperand.eq_2 stop false _ hcall]
  cases token with
  | path target => exact absurd rfl (h.path target _)
  | number numeral =>
    cases rest with
    | nil => exact absurd rfl (h.number numeral)
    | cons l rest => rfl
  | string content =>
    cases rest with
    | nil => exact absurd rfl (h.string content)
    | cons l rest => rfl
  | _ => rfl

theorem parseSet_of_isBareText {target assign : Lexeme} {text : String} {path : Path}
    (htarget : target.token = .path text) (hpath : Path.parse text = .ok path) (hassign : assign.token = .assign)
    (hne : ls ≠ []) (h : IsBareText ls) :
    parseSet stop (target :: assign :: ls) = .ok (.set path (literalOf ls)) := by
  obtain ⟨token, gap, chars, offset⟩ := target
  obtain rfl : token = .path text := htarget
  unfold parseSet
  have htake : takePath stop (⟨.path text, gap, chars, offset⟩ :: assign :: ls) =
      .ok (path, ⟨assign :: ls, Nat.lt_succ_self _⟩) := by
    simp only [takePath, pathOf, hpath]
    rfl
  have hexpect : expect stop .assign (assign :: ls) = .ok ⟨ls, Nat.lt_succ_self _⟩ := by
    simp only [expect, if_pos hassign]
  exact bind_eq_ok_iff.2 ⟨_, htake, bind_eq_ok_iff.2 ⟨_, hexpect,
    bind_eq_ok_iff.2 ⟨_, parseOperand_of_isBareText hne h, rfl⟩⟩⟩

/-- An assignment of bare text is not taken apart at an `OR` in parentheses or brackets. -/
theorem ofLexemes_of_isBareText {keyword target assign : Lexeme} {text : String} {path : Path}
    (hkeyword : keyword.token = .word "SET") (htarget : target.token = .path text)
    (hpath : Path.parse text = .ok path) (hassign : assign.token = .assign) (hor : splitAtWord "OR" 0 ls = none)
    (hne : ls ≠ []) (h : IsBareText ls) :
    ofLexemes stop (keyword :: target :: assign :: ls) = .ok (.set path (literalOf ls)) := by
  have hwhole : splitAtWord "OR" 0 (keyword :: target :: assign :: ls) = none := by
    rw [splitAtWord_cons_other _ hkeyword (by decide), splitAtWord_cons, splitAtWord_cons, htarget, hassign,
      if_neg (by simp), if_neg (by simp)]
    simp only [nesting, hor, Option.map_none]
  rw [ofLexemes_set stop hwhole hkeyword]
  exact parseSet_of_isBareText htarget hpath hassign hne h

/-- A text that is no value of another kind is assigned as it stands, whatever it is made of. -/
theorem parse_set_bare {p t text : String} {path : Path} {l : Lexeme} {ls : List Lexeme}
    (hp : Lexer.lex p = .ok [l]) (hl : l.token = .path text) (hpath : Path.parse text = .ok path)
    (ht : Lexer.lex t = .ok ls) (hne : t ≠ "") (hfirst : ∀ c ∈ t.toList.head?, isBlank c = false)
    (hlast : ∀ c ∈ t.toList.getLast?, isBlank c = false) (hor : splitAtWord "OR" 0 ls = none) (h : IsBareText ls) :
    parse ("SET " ++ p ++ " = " ++ t) = .ok (.set path (.literal (.ofLiteral t))) := by
  obtain ⟨keyword, target, assign, offset, hkeyword, htarget, hassign, hlex⟩ := Lexer.lex_assignment hp hl t
  obtain ⟨ls', hls, hdetached⟩ :=
    (Lexer.lexFrom_detached 0 offset 0 none (some .assign) [] [' '] fun _ => rfl).exists_of_ok ht
  rw [hls] at hlex
  have htokens := Lexeme.tokens_of_detached hdetached
  have hchars : t.toList ≠ [] := by
    intro hnil
    exact hne (String.toList_eq_nil_iff.1 hnil)
  have hnonempty : ls' ≠ [] := by
    rintro rfl
    exact Lexer.ne_nil_of_lexFrom ht hchars hfirst (List.map_eq_nil_iff.1 htokens.symm)
  have hsource : Lexeme.source ls' = t.toList := by
    rw [← Lexeme.source_detached, hdetached, Lexeme.source_detached, Lexer.source_of_lexFrom ht hfirst hlast]
  refine bind_eq_ok_iff.2 ⟨_, hlex, ?_⟩
  rw [ofLexemes_of_isBareText hkeyword htarget hpath hassign (splitAtWord_eq_none_of_tokens htokens hor) hnonempty
    (h.of_tokens htokens), literalOf, hsource, String.ofList_toList]

/-- Blanks, an operator and keywords in a literal, an `OR` among them behind a parenthesis that is never closed. -/
theorem parse_set_bare_unbalanced : parse ("SET " ++ "$.note" ++ " = " ++ "(a  THEN -b OR 2 == c] IN") =
    .ok (.set ⟨"note", []⟩ (.literal (.ofLiteral "(a  THEN -b OR 2 == c] IN"))) := by
  have hp : (Lexer.lex "$.note").toOption.any (fun ls => decide (ls.map Lexeme.token = [.path "$.note"])) = true := by
    decide +kernel
  have ht : (Lexer.lex "(a  THEN -b OR 2 == c] IN").toOption.any (fun ls =>
      decide ((ls.map Lexeme.token).head? = some .openParen) && (splitAtWord "OR" 0 ls).isNone) = true := by
    decide +kernel
  obtain ⟨targets, hp, htarget⟩ := exists_eq_ok_of_any hp
  obtain ⟨l, others, rfl, hl, hothers⟩ := List.map_eq_cons_iff.1 (of_decide_eq_true htarget)
  obtain rfl := List.map_eq_nil_iff.1 hothers
  obtain ⟨ls, ht, hfacts⟩ := exists_eq_ok_of_any ht
  have hpath : (Path.parse "$.note").toOption.any (fun path => decide (path = ⟨"note", []⟩)) = true := by decide +kernel
  obtain ⟨path, hpath, heq⟩ := exists_eq_ok_of_any hpath
  obtain rfl := of_decide_eq_true heq
  simp only [Bool.and_eq_true, decide_eq_true_eq, Option.isNone_iff_eq_none] at hfacts
  obtain ⟨hhead, hor⟩ := hfacts
  have hbare : IsBareText ls := by
    constructor <;> intros <;> intro htokens <;> rw [htokens] at hhead <;> cases hhead
  refine parse_set_bare hp hl hpath ht (by decide) ?_ ?_ hor hbare
  · intro c hc
    obtain rfl : '(' = c := Option.some.inj hc
    decide
  · intro c hc
    obtain rfl : 'N' = c := Option.some.inj hc
    decide

end Rule

end PolicyEngine
