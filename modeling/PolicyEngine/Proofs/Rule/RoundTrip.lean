import PolicyEngine.Proofs.Rule.Spelling

/-! A rendered rule parses back to the rule. The parser sees of a lexeme its token, and of a word its spelling, so
each of its steps is followed on any lexemes that read as the tokens of the rule. -/
namespace PolicyEngine
open Lexer (numberToken)

/-- Lexemes of some tokens, with words as they are spelled. -/
structure ReadsAs (ls : List Lexeme) (ts : List Token) : Prop where
  tokens : ls.map Lexeme.token = ts
  word : ∀ l ∈ ls, ∀ text, l.token = .word text → l.text = text.toList

theorem Lexed.spelled {depth : Nat} {ls : List Lexeme} (h : Lexed depth ls) :
    ∀ l ∈ ls, ∀ text, l.token = .word text → l.text = text.toList := by
  induction ls generalizing depth with
  | nil => simp
  | cons first rest ih =>
    intro l hl
    rcases List.mem_cons.1 hl with rfl | hl
    · exact h.1.word
    · exact ih h.2 l hl

theorem ReadsAs.eq_nil {ls : List Lexeme} (h : ReadsAs ls []) : ls = [] := List.map_eq_nil_iff.1 h.tokens

theorem ReadsAs.uncons {ls : List Lexeme} {t : Token} {ts : List Token} (h : ReadsAs ls (t :: ts)) :
    ∃ l rest, ls = l :: rest ∧ l.token = t ∧ ReadsAs rest ts := by
  obtain ⟨l, rest, rfl, htoken, hrest⟩ := List.map_eq_cons_iff.1 h.tokens
  exact ⟨l, rest, rfl, htoken, hrest, fun m hm => h.word m (List.mem_cons_of_mem _ hm)⟩

theorem ReadsAs.unappend {ls : List Lexeme} {ts us : List Token} (h : ReadsAs ls (ts ++ us)) :
    ∃ before after, ls = before ++ after ∧ ReadsAs before ts ∧ ReadsAs after us := by
  obtain ⟨before, after, rfl, hbefore, hafter⟩ := List.map_eq_append_iff.1 h.tokens
  exact ⟨before, after, rfl, ⟨hbefore, fun l hl => h.word l (List.mem_append_left _ hl)⟩,
    hafter, fun l hl => h.word l (List.mem_append_right _ hl)⟩

theorem ReadsAs.nextToken {ls : List Lexeme} {ts : List Token} (h : ReadsAs ls ts) : Rule.nextToken ls = ts.head? := by
  rw [← h.tokens]
  cases ls <;> rfl

theorem ReadsAs.nonempty {ls : List Lexeme} {ts : List Token} (h : ReadsAs ls ts) (hts : ts ≠ []) :
    ∃ l others, ls = l :: others := by
  refine List.exists_cons_of_ne_nil ?_
  rintro rfl
  exact hts h.tokens.symm

namespace Rule

/-! Single steps -/

theorem expect_of_reads {ls : List Lexeme} {t : Token} {ts : List Token} (stop : Nat) (h : ReadsAs ls (t :: ts)) :
    ∃ rest, expect stop t ls = .ok rest ∧ ReadsAs rest.1 ts := by
  obtain ⟨l, rest, rfl, htoken, hrest⟩ := h.uncons
  exact ⟨⟨rest, Nat.lt_succ_self _⟩, if_pos htoken, hrest⟩

theorem pathOf_render {depth : Nat} {p : Path} (h : p.IsPlain depth) (offset : Nat) :
    pathOf p.render offset = .ok p :=
  mapError_eq_ok_iff.2 (Path.parse_render h)

theorem takePath_of_reads {depth : Nat} {ls : List Lexeme} {p : Path} {ts : List Token} (stop : Nat)
    (hplain : p.IsPlain depth) (h : ReadsAs ls (.path p.render :: ts)) :
    ∃ rest, takePath stop ls = .ok (p, rest) ∧ ReadsAs rest.1 ts := by
  obtain ⟨⟨token, gap, text, offset⟩, rest, rfl, rfl, hrest⟩ := h.uncons
  refine ⟨⟨rest, Nat.lt_succ_self _⟩, ?_, hrest⟩
  rw [takePath, pathOf_render hplain]
  rfl

theorem numberOf_display {x : Float} (h : x.isFinite) (offset : Nat) : numberOf (Number.display x) offset = .ok x := by
  rw [numberOf, Number.ofText?_display h]

theorem arithOp?_token (op : ArithOp) : arithOp? (some op.token) = some op := by cases op <;> rfl

/-! Terms -/

/-- Whether the lexemes of a term are parsed as the term. -/
def TermReads (term : Operand) : Prop :=
  ∀ stop ls ts, ReadsAs ls (term.tokens false ++ ts) →
    ∃ rest, parseTerm stop ls = .ok (term, rest) ∧ ReadsAs rest.1 ts

/-- A call by its name and the tokens of its argument. -/
def CallReads (operand : Operand) (name : String) (argument : List Token) : Prop :=
  (∀ behind, operand.tokens behind = .word name :: .openParen :: (argument ++ [.closeParen])) ∧
    ∀ stop offset ls ts, ReadsAs ls (argument ++ .closeParen :: ts) →
      ∃ rest, parseCall stop name offset ls = .ok (operand, rest) ∧ ReadsAs rest.1 ts

theorem callReads_exp {term : Operand} (h : TermReads term) : CallReads (.exp term) "EXP" (term.tokens false) := by
  refine ⟨fun _ => rfl, fun stop offset ls ts hreads => ?_⟩
  obtain ⟨⟨afterTerm, hafter⟩, hterm, hreads⟩ := h stop ls _ hreads
  obtain ⟨⟨rest, hrest⟩, hclose, hreads'⟩ := expect_of_reads stop hreads
  obtain ⟨l, others, rfl, htoken, -⟩ := hreads.uncons
  refine ⟨⟨rest, Nat.lt_trans hrest hafter⟩, ?_, hreads'⟩
  rw [parseCall, if_pos rfl]
  refine bind_eq_ok_iff.2 ⟨_, hterm, ?_⟩
  have hop : arithOp? (nextToken (l :: others)) = none := by rw [nextToken, htoken]; rfl
  simp only [hop]
  exact bind_eq_ok_iff.2 ⟨_, hclose, rfl⟩

theorem callReads_arith {left right : Operand} (hleft : TermReads left) (op : ArithOp) (hright : TermReads right) :
    CallReads (.arith left op right) "EXP" (left.tokens false ++ op.token :: right.tokens false) := by
  refine ⟨fun _ => rfl, fun stop offset ls ts hreads => ?_⟩
  rw [List.append_assoc] at hreads
  obtain ⟨⟨afterLeft, hafterLeft⟩, hterm, hreads⟩ := hleft stop ls _ hreads
  obtain ⟨l, others, rfl, htoken, hreads⟩ := hreads.uncons
  obtain ⟨⟨afterRight, hafterRight⟩, hterm', hreads⟩ := hright stop others _ hreads
  obtain ⟨⟨rest, hrest⟩, hclose, hreads⟩ := expect_of_reads stop hreads
  have hothers : others.length < ls.length := Nat.lt_trans (Nat.lt_succ_self _) hafterLeft
  refine ⟨⟨rest, Nat.lt_trans hrest (Nat.lt_trans hafterRight hothers)⟩, ?_, hreads⟩
  rw [parseCall, if_pos rfl]
  refine bind_eq_ok_iff.2 ⟨_, hterm, ?_⟩
  have hop : arithOp? (nextToken (l :: others)) = some op := by rw [nextToken, htoken, arithOp?_token]
  simp only [hop]
  exact bind_eq_ok_iff.2 ⟨_, hterm', bind_eq_ok_iff.2 ⟨_, hclose, rfl⟩⟩

theorem callReads_aggregate (op : AggregateOp) {depth : Nat} {p : Path} (hplain : p.IsPlain depth) :
    CallReads (.aggregate op p) op.name [.path p.render] := by
  refine ⟨fun _ => rfl, fun stop offset ls ts hreads => ?_⟩
  obtain ⟨⟨afterPath, hafter⟩, htake, hreads⟩ := takePath_of_reads stop hplain hreads
  obtain ⟨⟨rest, hrest⟩, hclose, hreads⟩ := expect_of_reads stop hreads
  have hname : op.name ≠ "EXP" := by cases op <;> decide
  refine ⟨⟨rest, Nat.lt_trans hrest hafter⟩, ?_, hreads⟩
  rw [parseCall, if_neg hname, AggregateOp.ofName?_name]
  exact bind_eq_ok_iff.2 ⟨_, htake, bind_eq_ok_iff.2 ⟨_, hclose, rfl⟩⟩

theorem CallReads.term {operand : Operand} {name : String} {argument : List Token}
    (h : CallReads operand name argument) : TermReads operand := by
  intro stop ls ts hreads
  rw [h.1, List.cons_append, List.cons_append, List.append_assoc] at hreads
  obtain ⟨⟨token, gap, text, offset⟩, others, rfl, rfl, hothers⟩ := hreads.uncons
  obtain ⟨⟨token, gap', text', offset'⟩, inner, rfl, rfl, hinner⟩ := hothers.uncons
  obtain ⟨⟨rest, hrest⟩, hcall, hrestReads⟩ := h.2 stop offset inner ts hinner
  refine ⟨⟨rest, by simp only [List.length_cons]; omega⟩, ?_, hrestReads⟩
  rw [parseTerm, hcall]
  rfl

/-- Terms are parsed from their tokens, by induction on how they were parsed. -/
theorem termReads {term : Operand} (hterm : term.IsTerm) : TermReads term := by
  induction hterm with
  | @path p plain =>
    intro stop ls ts hreads
    obtain ⟨⟨token, gap, text, offset⟩, rest, rfl, rfl, hrest⟩ := ReadsAs.uncons hreads
    refine ⟨⟨rest, Nat.lt_succ_self _⟩, ?_, hrest⟩
    rw [parseTerm, pathOf_render plain]
    rfl
  | @number x finite =>
    intro stop ls ts hreads
    obtain ⟨⟨token, gap, text, offset⟩, rest, rfl, htoken, hrest⟩ := ReadsAs.uncons hreads
    have htoken : token = .number (Number.display x) := htoken.trans (Lexer.numberToken_false x)
    subst htoken
    refine ⟨⟨rest, Nat.lt_succ_self _⟩, ?_, hrest⟩
    rw [parseTerm, numberOf_display finite]
    rfl
  | exp hterm ih => exact (callReads_exp ih).term
  | arith hleft hright ihLeft ihRight => exact (callReads_arith ihLeft _ ihRight).term
  | aggregate plain => exact (callReads_aggregate _ plain).term

theorem exists_callReads {operand : Operand} (hcall : operand.isCall) (hterm : operand.IsTerm) :
    ∃ name argument, CallReads operand name argument := by
  cases hterm with
  | path plain => cases hcall
  | number finite => cases hcall
  | exp hterm => exact ⟨_, _, callReads_exp (termReads hterm)⟩
  | arith hleft hright => exact ⟨_, _, callReads_arith (termReads hleft) _ (termReads hright)⟩
  | aggregate plain => exact ⟨_, _, callReads_aggregate _ plain⟩

/-! Operands -/

/-- Where the lexemes of an operand end: at the end, or before a comparison operator that bounds it. -/
def EndsOperand (bounded : Bool) (ts : List Token) : Prop :=
  ts = [] ∨ bounded = true ∧ ∃ t us, ts = t :: us ∧ startsComparison t us.head? = true

theorem EndsOperand.noParen {bounded : Bool} {ts : List Token} (h : EndsOperand bounded ts) :
    ts.head? ≠ some .openParen := by
  rcases h with rfl | ⟨-, t, us, rfl, hstart⟩
  · simp
  · rintro heq
    cases heq
    cases hstart

/-- An operand of one token is all there is before the next comparison. -/
theorem extent_of_reads {bounded : Bool} {l : Lexeme} {rest : List Lexeme} {ts : List Token}
    (hstart : ∀ next, startsComparison l.token next = false) (hreads : ReadsAs rest ts) (h : EndsOperand bounded ts) :
    (if bounded then beforeComparison (l :: rest) else (l :: rest, [])) = ([l], rest) := by
  rcases h with rfl | ⟨rfl, t, us, rfl, hend⟩
  · rw [hreads.eq_nil]
    cases bounded with
    | false => rfl
    | true => simp [beforeComparison, hstart]
  · obtain ⟨m, others, rfl, rfl, hothers⟩ := hreads.uncons
    rw [← hothers.nextToken] at hend
    simp [beforeComparison, hstart, hend]

theorem startsComparison_word {text : String} (hin : text ≠ "IN") (hnot : text ≠ "NOT") (next : Option Token) :
    startsComparison (.word text) next = false := by
  unfold startsComparison
  split
  all_goals simp_all

/-- Which token a lexeme has decides how an operand that it makes up is read. -/
theorem parseOperand_single (stop : Nat) {bounded : Bool} {l : Lexeme} {rest : List Lexeme} {ts : List Token}
    (hstart : ∀ next, startsComparison l.token next = false) (hreads : ReadsAs rest ts) (h : EndsOperand bounded ts) :
    parseOperand stop bounded (l :: rest) =
      match l.token with
      | .path text => (pathOf text l.offset).map (.path ·, rest)
      | .number text => (numberOf text l.offset).map (.literal <| .number ·, rest)
      | .string content => .ok (.literal (.string content), rest)
      | _ => .ok (literalOf [l], rest) := by
  have hextent := extent_of_reads hstart hreads h
  have hparen := h.noParen
  rw [← hreads.tokens] at hparen
  obtain ⟨token, gap, text, offset⟩ := l
  unfold parseOperand
  split
  · simp_all
  · rw [hextent]
    cases token <;> rfl

/-- The words that rules are cut at or told apart by. -/
def keywords : List String := ["OR", "THEN", "SET", "IF", "IN", "NOT"]

theorem ofText?_of_mem_keywords : ∀ text ∈ "null" :: keywords, Number.ofText? text = none := by decide +kernel

/-- A displayed number is none of the words that are read in their own way. -/
theorem display_ne {x : Float} {text : String} (h : x.isFinite) (hmem : text ∈ "null" :: keywords) :
    Number.display x ≠ text := by
  rintro rfl
  have hnone := ofText?_of_mem_keywords _ hmem
  rw [Number.ofText?_display h] at hnone
  cases hnone

theorem ofLiteral_display {x : Float} (h : x.isFinite) : Value.ofLiteral (Number.display x) = .number x := by
  rw [Value.ofLiteral, if_neg (display_ne h List.mem_cons_self), Number.ofText?_display h]

theorem literalOf_word {l : Lexeme} {text : String} (h : l.text = text.toList) :
    literalOf [l] = .literal (.ofLiteral text) := by
  simp [literalOf, Lexeme.source, h]

/-- A word that an operand is made of starts no comparison and is read as a literal. -/
theorem parseOperand_word (stop : Nat) {bounded : Bool} {l : Lexeme} {rest : List Lexeme} {ts : List Token}
    {text : String} (hword : l.token = .word text ∧ l.text = text.toList) (hplain : text ≠ "IN" ∧ text ≠ "NOT")
    (hreads : ReadsAs rest ts) (h : EndsOperand bounded ts) :
    parseOperand stop bounded (l :: rest) = .ok (.literal (.ofLiteral text), rest) := by
  have hstart : ∀ next, startsComparison l.token next = false := fun next => by
    rw [hword.1]
    exact startsComparison_word hplain.1 hplain.2 next
  rw [parseOperand_single stop hstart hreads h, hword.1]
  simp only [literalOf_word hword.2]

theorem parseOperand_of_reads {operand : Operand} (hoperand : operand.IsCanonical) (stop : Nat) {bounded behind : Bool}
    {ls : List Lexeme} {ts : List Token} (hreads : ReadsAs ls (operand.tokens behind ++ ts))
    (h : EndsOperand bounded ts) :
    ∃ rest, parseOperand stop bounded ls = .ok (operand, rest) ∧ ReadsAs rest ts := by
  cases hoperand with
  | @path p plain =>
    obtain ⟨l, rest, rfl, htoken, hrest⟩ := hreads.uncons
    refine ⟨rest, ?_, hrest⟩
    rw [parseOperand_single stop (by rw [htoken]; exact fun _ => rfl) hrest h, htoken]
    simp only [pathOf_render plain]
    rfl
  | @literal v scalar finite =>
    obtain ⟨l, rest, rfl, htoken, hrest⟩ := hreads.uncons
    have hspelled := hreads.word l List.mem_cons_self
    refine ⟨rest, ?_, hrest⟩
    cases v with
    | null =>
      exact parseOperand_word stop ⟨htoken, hspelled _ htoken⟩ (by decide) hrest h
    | bool b =>
      rw [parseOperand_word stop ⟨htoken, hspelled _ htoken⟩ (by cases b <;> decide) hrest h]
      cases b <;> rfl
    | number x =>
      have hfinite := finite x rfl
      rcases Lexer.numberToken_cases behind x with hnumber | hnumber
      · have hin := display_ne hfinite (show "IN" ∈ "null" :: keywords by decide)
        have hnot := display_ne hfinite (show "NOT" ∈ "null" :: keywords by decide)
        replace htoken := htoken.trans hnumber
        rw [parseOperand_word stop ⟨htoken, hspelled _ htoken⟩ ⟨hin, hnot⟩ hrest h, ofLiteral_display hfinite]
      · replace htoken := htoken.trans hnumber
        rw [parseOperand_single stop (by rw [htoken]; exact fun _ => rfl) hrest h, htoken]
        simp only [numberOf_display hfinite]
        rfl
    | string s =>
      rw [parseOperand_single stop (by rw [htoken]; exact fun _ => rfl) hrest h, htoken]
      rfl
    | array items => cases scalar
    | object fields => cases scalar
  | call call term =>
    obtain ⟨name, argument, htokens, hparse⟩ := exists_callReads call term
    rw [htokens, List.cons_append, List.cons_append, List.append_assoc] at hreads
    obtain ⟨⟨token, gap, text, offset⟩, others, rfl, rfl, hothers⟩ := hreads.uncons
    obtain ⟨⟨token, gap', text', offset'⟩, inner, rfl, rfl, hinner⟩ := hothers.uncons
    obtain ⟨rest, hcall, hrest⟩ := hparse stop offset inner ts hinner
    refine ⟨rest.1, ?_, hrest⟩
    rw [parseOperand, hcall]
    rfl

/-! Words of rules -/

theorem notMem_keywords_of_isTerm {term : Operand} (hterm : term.IsTerm) {text : String}
    (h : .word text ∈ term.tokens false) : text ∉ keywords := by
  induction hterm with
  | path plain => simp [Operand.tokens] at h
  | number finite => simp [Operand.tokens, Operand.valueToken, Lexer.numberToken_false] at h
  | exp hterm ih =>
    simp only [Operand.tokens, List.mem_cons, List.mem_append, Token.word.injEq, reduceCtorEq, List.not_mem_nil,
      or_false, false_or] at h
    rcases h with rfl | h
    · decide
    · exact ih h
  | @arith left op right hleft hright ihLeft ihRight =>
    have hop : Token.word text ≠ op.token := by cases op <;> simp [ArithOp.token]
    simp only [Operand.tokens, List.mem_cons, List.mem_append, Token.word.injEq, reduceCtorEq, hop,
      List.not_mem_nil, or_false, false_or] at h
    rcases h with rfl | h | h
    · decide
    · exact ihLeft h
    · exact ihRight h
  | @aggregate op p plain =>
    simp only [Operand.tokens, List.mem_cons, Token.word.injEq, reduceCtorEq, List.not_mem_nil, or_false] at h
    subst h
    cases op <;> decide

theorem notMem_keywords {operand : Operand} (hoperand : operand.IsCanonical) {behind : Bool} {text : String}
    (h : .word text ∈ operand.tokens behind) : text ∉ keywords := by
  cases hoperand with
  | path plain => simp [Operand.tokens] at h
  | @literal v scalar finite =>
    simp only [Operand.tokens, List.mem_singleton] at h
    cases v with
    | null =>
      cases h
      decide
    | bool b =>
      cases h
      cases b <;> decide
    | number x =>
      rcases Lexer.numberToken_cases behind x with hnumber | hnumber
      · cases h.trans hnumber
        exact fun hmem => display_ne (finite x rfl) (List.mem_cons_of_mem _ hmem) rfl
      · cases h.trans hnumber
    | string s => cases h
    | array items => cases scalar
    | object fields => cases scalar
  | call call term =>
    refine notMem_keywords_of_isTerm term ?_
    cases term with
    | path plain => cases call
    | number finite => cases call
    | _ => exact h

/-! Cuts of rendered rules -/

/-- Whether a cut at a word is looked for behind these tokens. -/
def Passes (word : String) (depth : Nat) (ts : List Token) : Prop :=
  ∀ ls rest, ls.map Lexeme.token = ts →
    splitAtWord word depth (ls ++ rest) =
      (splitAtWord word depth rest).map fun (before, found, after) => (ls ++ before, found, after)

section
variable {word : String} {depth : Nat}

theorem Passes.append {ts us : List Token} (hts : Passes word depth ts) (hus : Passes word depth us) :
    Passes word depth (ts ++ us) := by
  intro ls rest htokens
  obtain ⟨before, after, rfl, hbefore, hafter⟩ := List.map_eq_append_iff.1 htokens
  rw [List.append_assoc, hts _ _ hbefore, hus _ _ hafter, Option.map_map]
  simp only [Function.comp_def, List.append_assoc]

theorem passes_single {t : Token} (hword : t ≠ .word word) (hnesting : nesting depth t = depth) :
    Passes word depth [t] := by
  intro ls rest htokens
  obtain ⟨l, others, rfl, rfl, hnil⟩ := List.map_eq_cons_iff.1 htokens
  rw [List.map_eq_nil_iff.1 hnil, List.cons_append, List.nil_append, splitAtWord_cons, if_neg fun h => hword h.2,
    hnesting]
  rfl

/-- Words inside parentheses do not count. -/
theorem passes_word (text : String) : Passes word (depth + 1) [.word text] := by
  intro ls rest htokens
  obtain ⟨l, others, rfl, htoken, hnil⟩ := List.map_eq_cons_iff.1 htokens
  rw [List.map_eq_nil_iff.1 hnil, List.cons_append, List.nil_append, splitAtWord_cons, if_neg (by simp), htoken]
  rfl

theorem passes_parens {ts : List Token} (h : Passes word (depth + 1) ts) :
    Passes word depth (.openParen :: (ts ++ [.closeParen])) := by
  intro ls rest htokens
  obtain ⟨opening, others, rfl, hopening, hothers⟩ := List.map_eq_cons_iff.1 htokens
  obtain ⟨inner, after, rfl, hinner, hafter⟩ := List.map_eq_append_iff.1 hothers
  obtain ⟨closing, others, rfl, hclosing, hnil⟩ := List.map_eq_cons_iff.1 hafter
  rw [List.map_eq_nil_iff.1 hnil, List.cons_append, splitAtWord_cons, if_neg (by simp [hopening]), hopening, nesting,
    List.append_assoc, h _ _ hinner, List.cons_append, List.nil_append, splitAtWord_cons, if_neg (by simp), hclosing,
    nesting, Nat.add_sub_cancel, Option.map_map, Option.map_map]
  simp only [Function.comp_def, List.cons_append, List.append_assoc, List.nil_append]

theorem passes_call {name : String} {ts : List Token} (hname : Passes word depth [.word name])
    (h : Passes word (depth + 1) ts) : Passes word depth (.word name :: .openParen :: (ts ++ [.closeParen])) :=
  hname.append (passes_parens h)

theorem passes_arithOp (op : ArithOp) : Passes word depth [op.token] := by
  cases op <;> exact passes_single (by simp [ArithOp.token]) rfl

theorem passes_term {term : Operand} (hterm : term.IsTerm) : Passes word (depth + 1) (term.tokens false) := by
  induction hterm generalizing depth with
  | path plain => exact passes_single (by simp) rfl
  | @number x finite =>
    change Passes word (depth + 1) [numberToken false x]
    rw [Lexer.numberToken_false]
    exact passes_single (by simp) rfl
  | exp hterm ih => exact passes_call (passes_word _) ih
  | arith hleft hright ihLeft ihRight =>
    exact passes_call (passes_word _) (ihLeft.append ((passes_arithOp _).append ihRight))
  | aggregate plain => exact passes_call (passes_word _) (passes_single (by simp) rfl)

theorem passes_operand {operand : Operand} (hoperand : operand.IsCanonical) (hword : word ∈ keywords) (behind : Bool) :
    Passes word 0 (operand.tokens behind) := by
  have hname : ∀ name, .word name ∈ operand.tokens behind → Passes word 0 [.word name] := by
    intro name hmem
    refine passes_single ?_ rfl
    rintro ⟨rfl⟩
    exact notMem_keywords hoperand hmem hword
  cases hoperand with
  | path plain => exact passes_single (by simp) rfl
  | @literal v scalar finite =>
    cases v with
    | null => exact hname _ (by simp [Operand.tokens, Operand.valueToken])
    | bool b => exact hname _ (by simp [Operand.tokens, Operand.valueToken])
    | number x =>
      change Passes word 0 [numberToken behind x]
      rcases Lexer.numberToken_cases behind x with hnumber | hnumber
      · rw [hnumber]
        exact hname _ (List.mem_singleton.2 hnumber.symm)
      · rw [hnumber]
        exact passes_single (by simp) rfl
    | string s => exact passes_single (by simp [Operand.valueToken]) rfl
    | array items => cases scalar
    | object fields => cases scalar
  | call call term =>
    cases term with
    | path plain => cases call
    | number finite => cases call
    | exp hterm => exact passes_call (hname _ List.mem_cons_self) (passes_term hterm)
    | arith hleft hright =>
      exact passes_call (hname _ List.mem_cons_self)
        ((passes_term hleft).append ((passes_arithOp _).append (passes_term hright)))
    | aggregate plain => exact passes_call (hname _ List.mem_cons_self) (passes_single (by simp) rfl)

/-- A rule without `OR` has no such word in the open, and without compound forms no `THEN` either. -/
theorem passes_rule {rule : Rule} (hrule : rule.IsCanonical) (hmember : rule.hasMembership = false)
    (htight : rule.hasOr = false) (hword : word = "OR" ∨ word = "THEN" ∧ rule.isConditional = false) (behind : Bool) :
    Passes word 0 (rule.tokens behind) := by
  have hkeyword : word ∈ keywords := by rcases hword with rfl | ⟨rfl, -⟩ <;> decide
  have hother : ∀ text ∈ ["SET", "IF", "null"], Passes word 0 [.word text] := by
    intro text htext
    refine passes_single ?_ rfl
    rintro ⟨rfl⟩
    rcases hword with rfl | ⟨rfl, -⟩ <;> exact absurd htext (by decide)
  induction hrule generalizing behind with
  | or => cases htight
  | set plain hvalue =>
    have hpath : ∀ text, Passes word 0 [.path text] := fun _ => passes_single (by simp) rfl
    have hassign : Passes word 0 [.assign] := passes_single (by simp) rfl
    exact (hother "SET" (by decide)).append ((hpath _).append (hassign.append (passes_operand hvalue hkeyword _)))
  | conditional simple tight tightAction hcondition haction ihCondition ihAction =>
    obtain rfl : word = "OR" := hword.resolve_right (by simp [isConditional])
    have hthen : Passes "OR" 0 [.word "THEN"] := passes_single (by simp) rfl
    obtain ⟨hmemberCondition, hmemberAction⟩ := hasMembership_conditional hmember
    have hconditionPasses := ihCondition hmemberCondition tight (.inl rfl) true
    have hactionPasses := ihAction hmemberAction tightAction (.inl rfl) true
    exact (hother "IF" (by decide)).append (hconditionPasses.append (hthen.append hactionPasses))
  | @nullCheck p negated plain =>
    have hpath : Passes word 0 [.path p.render] := passes_single (by simp) rfl
    have hop : Passes word 0 [if negated then .ne else .eq] := by cases negated <;> exact passes_single (by simp) rfl
    exact hpath.append (hop.append (hother "null" (by decide)))
  | @compare left op right member notMember noCheck hleft hright =>
    have hop : Passes word 0 [op.token] := by
      cases op with
      | memberOf => exact absurd rfl member
      | notMemberOf => exact absurd rfl notMember
      | _ => exact passes_single (by simp [CompareOp.token]) rfl
    exact (passes_operand hleft hkeyword _).append (hop.append (passes_operand hright hkeyword _))
  | membership hop hleft =>
    rw [hasMembership_compare hop] at hmember
    cases hmember

/-- A word behind tokens that it does not cut is cut at. -/
theorem splitAtWord_of_reads {ls : List Lexeme} {ts us : List Token} (hpasses : Passes word 0 ts)
    (h : ReadsAs ls (ts ++ .word word :: us)) :
    ∃ before l after, splitAtWord word 0 ls = some (before, l, after) ∧ ReadsAs before ts ∧ ReadsAs after us := by
  obtain ⟨before, others, rfl, hbefore, hothers⟩ := h.unappend
  obtain ⟨l, after, rfl, htoken, hafter⟩ := hothers.uncons
  refine ⟨before, l, after, ?_, hbefore, hafter⟩
  rw [hpasses _ _ hbefore.tokens, splitAtWord_cons, if_pos ⟨rfl, htoken⟩]
  simp

theorem splitAtWord_eq_none {ls : List Lexeme} {ts : List Token} (hpasses : Passes word 0 ts) (h : ReadsAs ls ts) :
    splitAtWord word 0 ls = none := by
  have hsplit := hpasses ls [] h.tokens
  rw [List.append_nil] at hsplit
  rw [hsplit]
  rfl

end

/-! Rules -/

theorem tokens_operand_ne_nil {operand : Operand} (hoperand : operand.IsCanonical) (behind : Bool) :
    operand.tokens behind ≠ [] := by
  cases hoperand with
  | path plain => simp [Operand.tokens]
  | literal scalar finite => simp [Operand.tokens]
  | call call term => cases term <;> simp [Operand.tokens] at call ⊢

theorem tokens_ne_nil {rule : Rule} (hrule : rule.IsCanonical) (behind : Bool) : rule.tokens behind ≠ [] := by
  cases hrule <;> simp [tokens]

theorem parseSet_of_reads {target : Path} {value : Operand} (plain : target.IsPlain 0) (hvalue : value.IsCanonical)
    (stop : Nat) {ls : List Lexeme} (h : ReadsAs ls (.path target.render :: .assign :: value.tokens false)) :
    parseSet stop ls = .ok (.set target value) := by
  obtain ⟨⟨afterTarget, _⟩, htake, htarget⟩ := takePath_of_reads stop plain h
  obtain ⟨⟨afterAssign, _⟩, hassign, hassigned⟩ := expect_of_reads stop htarget
  rw [← List.append_nil (value.tokens false)] at hassigned
  obtain ⟨rest, hparse, hrest⟩ := parseOperand_of_reads hvalue stop hassigned (show EndsOperand false [] from .inl rfl)
  obtain rfl := hrest.eq_nil
  unfold parseSet
  exact bind_eq_ok_iff.2 ⟨_, htake, bind_eq_ok_iff.2 ⟨_, hassign, bind_eq_ok_iff.2 ⟨_, hparse, rfl⟩⟩⟩

theorem parseCompareOp_of_reads {op : CompareOp} (member : op ≠ .memberOf) (notMember : op ≠ .notMemberOf)
    (stop : Nat) {ls : List Lexeme} {ts : List Token} (h : ReadsAs ls (op.token :: ts)) :
    ∃ rest, parseCompareOp stop ls = .ok (op, rest) ∧ ReadsAs rest ts := by
  obtain ⟨l, rest, rfl, htoken, hrest⟩ := h.uncons
  refine ⟨rest, ?_, hrest⟩
  unfold parseCompareOp
  rw [nextToken, htoken]
  cases op with
  | memberOf => exact absurd rfl member
  | notMemberOf => exact absurd rfl notMember
  | _ => rfl

theorem parseComparison_of_reads {left right : Operand} {op : CompareOp} (member : op ≠ .memberOf)
    (notMember : op ≠ .notMemberOf) (hleft : left.IsCanonical) (hright : right.IsCanonical) (stop : Nat)
    {behind : Bool} {ls : List Lexeme} (h : ReadsAs ls (left.tokens behind ++ op.token :: right.tokens false)) :
    parseComparison stop ls = .ok (.compare left op right) := by
  have hstarts : ∀ next, startsComparison op.token next = true := by
    intro next
    cases op with
    | memberOf => exact absurd rfl member
    | notMemberOf => exact absurd rfl notMember
    | _ => rfl
  obtain ⟨afterLeft, hparseLeft, hop⟩ := parseOperand_of_reads hleft stop h (.inr ⟨rfl, _, _, rfl, hstarts _⟩)
  obtain ⟨afterOp, hparseOp, hvalue⟩ := parseCompareOp_of_reads member notMember stop hop
  rw [← List.append_nil (right.tokens false)] at hvalue
  obtain ⟨rest, hparseRight, hrest⟩ := parseOperand_of_reads hright stop hvalue (show EndsOperand true [] from .inl rfl)
  obtain rfl := hrest.eq_nil
  unfold parseComparison
  refine bind_eq_ok_iff.2 ⟨_, hparseLeft, bind_eq_ok_iff.2 ⟨_, hparseOp, ?_⟩⟩
  simp only [if_neg (not_or.2 ⟨member, notMember⟩)]
  exact bind_eq_ok_iff.2 ⟨_, hparseRight, rfl⟩

theorem nullCheckOf?_of_reads (p : Path) (negated : Bool) {ls : List Lexeme}
    (h : ReadsAs ls [.path p.render, if negated then .ne else .eq, .word "null"]) :
    ∃ offset, nullCheckOf? ls = some (p.render, offset, negated) := by
  obtain ⟨path, others, rfl, hpath, hothers⟩ := h.uncons
  obtain ⟨op, others, rfl, hop, hothers⟩ := hothers.uncons
  obtain ⟨null, others, rfl, hnull, hothers⟩ := hothers.uncons
  obtain rfl := hothers.eq_nil
  refine ⟨path.offset, ?_⟩
  cases negated <;> simp [nullCheckOf?, hpath, hop, hnull]

/-- Tokens of an operand that are one path are a path's. -/
theorem of_tokens_path {operand : Operand} (hoperand : operand.IsCanonical) {behind : Bool} {text : String}
    {ts us : List Token} (h : operand.tokens behind ++ ts = .path text :: us) :
    ∃ p, operand = .path p ∧ ts = us := by
  cases hoperand with
  | @path p plain => exact ⟨p, rfl, (List.cons.inj h).2⟩
  | @literal v scalar finite =>
    have hvalue := (List.cons.inj h).1
    cases v with
    | number x =>
      rcases Lexer.numberToken_cases behind x with hnumber | hnumber <;> cases hnumber.symm.trans hvalue
    | _ => cases hvalue
  | call call term =>
    obtain ⟨name, argument, htokens, -⟩ := exists_callReads call term
    rw [htokens] at h
    cases h

theorem of_tokens_null {operand : Operand} (hoperand : operand.IsCanonical)
    (h : operand.tokens false = [.word "null"]) : operand = .literal .null := by
  cases hoperand with
  | path plain => cases h
  | @literal v scalar finite =>
    cases v with
    | null => rfl
    | bool b => exact absurd h (by cases b <;> decide)
    | number x => cases (Lexer.numberToken_false x).symm.trans (List.cons.inj h).1
    | string s => cases h
    | array items => cases scalar
    | object fields => cases scalar
  | call call term =>
    obtain ⟨name, argument, htokens, -⟩ := exists_callReads call term
    rw [htokens] at h
    cases h

/-- A comparison is taken for a null check only if it is written as one. -/
theorem nullCheckOf?_eq_none {left right : Operand} {op : CompareOp} (noCheck : ¬ IsNullCheck left op right)
    (hleft : left.IsCanonical) (hright : right.IsCanonical) {behind : Bool} {ls : List Lexeme}
    (h : ReadsAs ls (left.tokens behind ++ op.token :: right.tokens false)) : nullCheckOf? ls = none := by
  cases hcheck : nullCheckOf? ls with
  | none => rfl
  | some found =>
    exfalso
    apply noCheck
    unfold nullCheckOf? at hcheck
    split at hcheck
    · next path opLexeme null =>
      have htokens : left.tokens behind ++ op.token :: right.tokens false =
          [path.token, opLexeme.token, null.token] := h.tokens.symm
      split at hcheck
      · next hpath hop hnull =>
        rw [hpath, hop, hnull] at htokens
        obtain ⟨p, rfl, hrest⟩ := of_tokens_path hleft htokens
        obtain ⟨hopToken, hvalue⟩ := List.cons.inj hrest
        refine ⟨⟨p, rfl⟩, .inl ?_, of_tokens_null hright hvalue⟩
        cases op <;> first
          | rfl
          | cases hopToken
      · next hpath hop hnull =>
        rw [hpath, hop, hnull] at htokens
        obtain ⟨p, rfl, hrest⟩ := of_tokens_path hleft htokens
        obtain ⟨hopToken, hvalue⟩ := List.cons.inj hrest
        refine ⟨⟨p, rfl⟩, .inr ?_, of_tokens_null hright hvalue⟩
        cases op <;> first
          | rfl
          | cases hopToken
      · cases hcheck
    · cases hcheck

/-- The first word of a comparison or a null check is none that rules start with. -/
theorem firstToken_ne {operand : Operand} (hoperand : operand.IsCanonical) {behind : Bool} {l : Lexeme}
    {others : List Lexeme} {ts : List Token} (h : ReadsAs (l :: others) (operand.tokens behind ++ ts)) :
    ∀ word ∈ keywords, l.token ≠ .word word := by
  intro word hword heq
  obtain ⟨t, us, htokens⟩ := List.exists_cons_of_ne_nil (tokens_operand_ne_nil hoperand behind)
  have hfirst : l.token = t := by
    have htokens' := h.tokens
    rw [htokens] at htokens'
    exact (List.cons.inj htokens').1
  refine @notMem_keywords _ hoperand behind _ ?_ hword
  rw [htokens, ← heq, hfirst]
  exact List.mem_cons_self

/-- Which form a rule has is decided by its words in the open, and by its first word. -/
theorem ofLexemes_of_reads {rule : Rule} (hrule : rule.IsCanonical) (hmember : rule.hasMembership = false)
    (stop : Nat) {behind : Bool} {ls : List Lexeme} (h : ReadsAs ls (rule.tokens behind)) :
    ofLexemes stop ls = .ok rule := by
  induction hrule generalizing stop behind ls with
  | @or left right tight hleft hright ihLeft ihRight =>
    obtain ⟨hmemberLeft, hmemberRight⟩ := hasMembership_or hmember
    obtain ⟨before, word, after, hcut, hbefore, hafter⟩ :=
      splitAtWord_of_reads (passes_rule hleft hmemberLeft tight (.inl rfl) behind) h
    exact ofLexemes_or hcut (ihLeft hmemberLeft _ hbefore) (ihRight hmemberRight _ hafter)
  | @set target value plain hvalue =>
    have hnone := splitAtWord_eq_none (passes_rule (.set plain hvalue) rfl rfl (.inl rfl) behind) h
    obtain ⟨l, others, rfl, htoken, hothers⟩ := h.uncons
    rw [ofLexemes_set stop hnone htoken]
    exact parseSet_of_reads plain hvalue stop hothers
  | @conditional condition action simple tight tightAction hcondition haction ihCondition ihAction =>
    have hcanonical : (Rule.conditional condition action).IsCanonical :=
      .conditional simple tight tightAction hcondition haction
    have hnone := splitAtWord_eq_none
      (passes_rule hcanonical hmember (by simp [hasOr, tight, tightAction]) (.inl rfl) behind) h
    obtain ⟨hmemberCondition, hmemberAction⟩ := hasMembership_conditional hmember
    have hif : Passes "THEN" 0 [.word "IF"] := passes_single (by simp) rfl
    obtain ⟨before, word, after, hcut, hbefore, hafter⟩ :=
      splitAtWord_of_reads (hif.append (passes_rule hcondition hmemberCondition tight (.inr ⟨rfl, simple⟩) true)) h
    obtain ⟨l, others, rfl, htoken, -⟩ := h.uncons
    obtain ⟨b, bs, rfl, -, hbs⟩ := hbefore.uncons
    obtain rfl : l = b := by
      obtain ⟨hls, -, -⟩ := of_splitAtWord hcut
      exact (List.cons.inj hls).1
    exact ofLexemes_conditional hnone htoken hcut (ihCondition hmemberCondition _ hbs) (ihAction hmemberAction _ hafter)
  | @nullCheck p negated plain =>
    have hnone := splitAtWord_eq_none (passes_rule (.nullCheck plain) rfl rfl (.inl rfl) behind) h
    obtain ⟨offset, hcheck⟩ := nullCheckOf?_of_reads p negated h
    obtain ⟨l, others, rfl, htoken, -⟩ := h.uncons
    rw [ofLexemes_plain stop hnone (by simp [htoken]), hcheck]
    exact map_eq_ok_iff.2 ⟨p, pathOf_render plain offset, rfl⟩
  | @compare left op right member notMember noCheck hleft hright =>
    have hcanonical : (Rule.compare left op right).IsCanonical := .compare member notMember noCheck hleft hright
    have hnone := splitAtWord_eq_none (passes_rule hcanonical hmember rfl (.inl rfl) behind) h
    have hcheck := nullCheckOf?_eq_none noCheck hleft hright h
    obtain ⟨l, others, rfl⟩ := h.nonempty (tokens_ne_nil hcanonical behind)
    have hfirst := firstToken_ne hleft h
    rw [ofLexemes_plain stop hnone ⟨hfirst _ (by decide), hfirst _ (by decide)⟩, hcheck]
    exact parseComparison_of_reads member notMember hleft hright stop h
  | membership hop hleft =>
    rw [hasMembership_compare hop] at hmember
    cases hmember

/-- Parsing takes the rendering of a rule back to the rule, whatever text it was first parsed from. -/
theorem parse_render_of_parse {text : String} {rule : Rule} (h : parse text = .ok rule)
    (hmember : rule.hasMembership = false) : parse rule.render = .ok rule := by
  have hrule := isCanonical_of_parse h
  obtain ⟨ls, hlex, htokens⟩ := hrule.lex_render hmember
  unfold parse
  exact bind_eq_ok_iff.2
    ⟨ls, hlex, ofLexemes_of_reads hrule hmember _ ⟨htokens, (Lexer.lexed_of_lex hlex).spelled⟩⟩

/-- Numbers, indices and quotes may be rendered in another spelling than they were read in. -/
theorem parse_render_discount :
    ∃ rule, parse "IF -2.50 < $.cart.total THEN SET $.note = it's \"fine\" OR EXP($.a-b[007] - -1e2)==$.c" = .ok rule ∧
      rule.hasMembership = false ∧
      rule.render = "IF -2.5 < $.cart.total THEN SET $.note = 'it\\'s \"fine' OR EXP($.a-b[7] - -100) == $.c" ∧
      parse rule.render = .ok rule := by
  have hparse : (parse "IF -2.50 < $.cart.total THEN SET $.note = it's \"fine\" OR EXP($.a-b[007] - -1e2)==$.c"
      ).toOption.any (fun rule => !rule.hasMembership && rule.render ==
        "IF -2.5 < $.cart.total THEN SET $.note = 'it\\'s \"fine' OR EXP($.a-b[7] - -100) == $.c") = true := by
    decide +kernel
  obtain ⟨rule, hread, hfacts⟩ := exists_eq_ok_of_any hparse
  simp only [Bool.and_eq_true, Bool.not_eq_true', beq_iff_eq] at hfacts
  exact ⟨rule, hread, hfacts.1, hfacts.2, parse_render_of_parse hread hfacts.1⟩

end Rule

end PolicyEngine
