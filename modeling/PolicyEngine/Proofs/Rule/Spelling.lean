import PolicyEngine.Proofs.Number.Display
import PolicyEngine.Proofs.Rule.Canonical

/-! The tokens that a rendered rule is lexed as. Each part of the text is lexed on its own, given what follows
it: a delimiter, whose tokens are known whatever the last token of the part was. -/
namespace PolicyEngine

namespace Lexer
open Text (isBlank)
open Number (signText pointed Plain digitRun displayChars display)

/-- Where a token may end: before a delimiter, or at the end of the text. -/
def Stops (rest : List Char) : Prop := ∀ c ∈ rest.head?, isDelimiter c = true

theorem stops_nil : Stops [] := by simp [Stops]

theorem stops_cons {c : Char} (h : isDelimiter c = true) (rest : List Char) : Stops (c :: rest) := by
  intro d hd
  cases hd
  exact h

theorem isDigit_of_isDelimiter {c : Char} (h : isDelimiter c = true) : c.isDigit = false := by
  cases hc : c.isDigit with
  | false => rfl
  | true =>
    rw [isDelimiter_of_isDigit hc] at h
    cases h

theorem isWordChar_of_isDelimiter {c : Char} (h : isDelimiter c = true) (depth : Nat) :
    isWordChar depth c = false := by
  simp [isWordChar, h]

theorem isWordChar_of_isDigit {c : Char} (h : c.isDigit = true) (depth : Nat) : isWordChar depth c = true := by
  have hopening : c ≠ '[' := by
    rintro rfl
    exact absurd h (by decide)
  have hclosing : c ≠ ']' := by
    rintro rfl
    exact absurd h (by decide)
  simp [isWordChar, isDelimiter_of_isDigit h, isOperator_of_isDigit h, hopening, hclosing]

/-! Runs of characters before a delimiter -/

theorem takeWhile_isWordChar {depth : Nat} {cs rest : List Char} (h : ∀ c ∈ cs, isWordChar depth c = true)
    (hrest : Stops rest) : (cs ++ rest).takeWhile (isWordChar depth) = cs := by
  rw [List.takeWhile_append_of_pos h]
  cases rest with
  | nil => simp
  | cons c rest => simp [isWordChar_of_isDelimiter (hrest c rfl)]

theorem fractionRun_pointed {fraction rest : List Char} (h : ∀ c ∈ fraction, c.isDigit) (hrest : Stops rest) :
    fractionRun (pointed fraction ++ rest) = (pointed fraction, rest) := by
  cases fraction with
  | nil =>
    cases rest with
    | nil => rfl
    | cons c rest =>
      have hpoint : c ≠ '.' := by
        rintro rfl
        exact absurd (hrest '.' rfl) (by decide)
      change fractionRun (c :: rest) = ([], c :: rest)
      unfold fractionRun
      split
      · next heq => exact absurd (List.cons.inj heq).1 hpoint
      · rfl
  | cons d ds =>
    have hrun := Number.digitRun_of_all rest h fun c hc => isDigit_of_isDelimiter (hrest c hc)
    change fractionRun ('.' :: (d :: ds ++ rest)) = ('.' :: d :: ds, rest)
    rw [fractionRun, hrun]
    rfl

theorem exponentRun_of_stops {rest : List Char} (hrest : Stops rest) : (exponentRun rest).1 = [] := by
  cases rest with
  | nil => rfl
  | cons c rest =>
    have hexponent : ¬ (c = 'e' ∨ c = 'E') := by
      rintro (rfl | rfl) <;> exact absurd (hrest _ rfl) (by decide)
    rw [exponentRun, if_neg hexponent]

theorem numberRun_plain {whole fraction rest : List Char} (h : Plain whole fraction) (negative : Bool)
    (hrest : Stops rest) :
    numberRun (signText negative ++ (whole ++ pointed fraction) ++ rest) =
      signText negative ++ (whole ++ pointed fraction) := by
  have hrun : digitRun (whole ++ (pointed fraction ++ rest)) = (whole, pointed fraction ++ rest) := by
    refine Number.digitRun_of_all _ h.whole fun c hc => ?_
    unfold pointed at hc
    cases fraction with
    | nil => exact isDigit_of_isDelimiter (hrest c hc)
    | cons d ds =>
      cases hc
      decide
  have hfraction := fractionRun_pointed h.fraction hrest
  have hexponent := exponentRun_of_stops hrest
  rw [List.append_assoc, List.append_assoc]
  unfold numberRun
  split
  next sign unsigned heq =>
  have hsplit : (sign, unsigned) = (signText negative, whole ++ (pointed fraction ++ rest)) := by
    rw [← heq]
    cases negative with
    | true => rfl
    | false =>
      obtain ⟨c, cs, hwhole⟩ := List.exists_cons_of_ne_nil h.nonempty
      have hminus : c ≠ '-' := by
        rintro rfl
        exact absurd (h.whole '-' (by rw [hwhole]; exact List.mem_cons_self)) (by decide)
      simp only [signText, Bool.false_eq_true, if_false, List.nil_append, hwhole, List.cons_append]
      split
      · next heq => exact absurd (List.cons.inj heq).1 hminus
      · rfl
  cases hsplit
  simp only [hrun, hfraction, hexponent, List.append_nil, List.append_assoc]

theorem isWordChar_of_plain {whole fraction : List Char} (h : Plain whole fraction) :
    ∀ c ∈ whole ++ pointed fraction, isWordChar 0 c = true := by
  intro c hc
  rcases List.mem_append.1 hc with hc | hc
  · exact isWordChar_of_isDigit (h.whole c hc) 0
  · unfold pointed at hc
    split at hc
    · cases hc
    · rcases List.mem_cons.1 hc with rfl | hc
      · decide
      · exact isWordChar_of_isDigit (h.fraction c hc) 0

/-! Scans of single tokens -/

theorem scan_alpha {c : Char} {cs rest : List Char} (h : ∀ d ∈ c :: cs, d.isAlpha = true) (depth : Nat)
    (previous : Option Token) (hrest : Stops rest) :
    scan depth previous c (cs ++ rest) = .ok (.word (String.ofList (c :: cs)), cs.length) := by
  have hrun : (cs ++ rest).takeWhile (isWordChar depth) = cs := by
    refine takeWhile_isWordChar (fun d hd => ?_) hrest
    exact isWordChar_of_isLetter (isLetter_of_isAlpha (h d (List.mem_cons_of_mem _ hd))) depth
  rw [scan_of_isAlpha (h c List.mem_cons_self), hrun]

theorem scan_path {depth : Nat} {run rest : List Char} (h : Closed depth run) (previous : Option Token)
    (hrest : Stops rest) :
    scan depth previous '$' ('.' :: run ++ rest) =
      .ok (.path (String.ofList ('$' :: '.' :: run)), ('.' :: run).length) := by
  unfold scan
  rw [if_neg (by decide), if_pos ⟨rfl, rfl⟩]
  simp only [List.cons_append, List.tail_cons, h.pathRun_append hrest, List.length_cons]

theorem scan_number {depth : Nat} {previous : Option Token} {c : Char} {cs rest : List Char}
    (hstart : startsNumber previous c (cs ++ rest).head? = true) (hrun : numberRun (c :: (cs ++ rest)) = c :: cs)
    (hrest : Stops rest) :
    scan depth previous c (cs ++ rest) = .ok (.number (String.ofList (c :: cs)), cs.length) := by
  have hne : ∀ m, startsNumber previous m (cs ++ rest).head? = false → c ≠ m := by
    rintro m hm rfl
    rw [hstart] at hm
    cases hm
  have hquote : ¬ (c = '"' ∨ c = '\'') := not_or.2 ⟨hne _ (by simp [startsNumber]), hne _ (by simp [startsNumber])⟩
  have hdollar : ¬ (c = '$' ∧ (cs ++ rest).head? = some '.') := fun h => hne '$' (by simp [startsNumber]) h.1
  have hnumber : number? depth previous c (cs ++ rest) = some (c :: cs) := by
    have hafter : ((c :: (cs ++ rest)).drop (c :: cs).length).head?.any (isWordChar depth) = false := by
      simp only [List.length_cons, List.drop_succ_cons, List.drop_left]
      cases hhead : rest.head? with
      | none => rfl
      | some d => exact isWordChar_of_isDelimiter (hrest d hhead) depth
    rw [number?, if_pos hstart]
    simp only [hrun, hafter]
    rfl
  unfold scan
  rw [if_neg hquote, if_neg hdollar, hnumber]
  rfl

/-- Where an operand ends before it and no parenthesis is open, a minus starts a word. -/
theorem scan_minus {previous : Option Token} (hprevious : previous.any Token.endsOperand = true)
    {cs rest : List Char} (h : ∀ c ∈ cs, isWordChar 0 c = true) (hrest : Stops rest) :
    scan 0 previous '-' (cs ++ rest) = .ok (.word (String.ofList ('-' :: cs)), cs.length) := by
  have hstart : startsNumber previous '-' (cs ++ rest).head? = false := by
    simp [startsNumber, hprevious]
  have hnumber : number? 0 previous '-' (cs ++ rest) = none := by
    rw [number?, hstart]
    rfl
  have hsymbol : ∀ next, symbol? 0 '-' next = none := fun next => by simp [symbol?]
  have hword : isWordChar 0 '-' = true := by decide
  unfold scan
  rw [if_neg (by decide), if_neg (by simp), hnumber]
  simp only [hsymbol, hword, if_true, takeWhile_isWordChar h hrest]

/-- Marks are scanned where no text, path or number starts with them. -/
theorem scan_mark {depth : Nat} {previous : Option Token} {c : Char} {rest : List Char} {found : Token × Nat}
    (hplain : c ≠ '"' ∧ c ≠ '\'' ∧ c ≠ '$') (hstart : startsNumber previous c rest.head? = false)
    (hsymbol : symbol? depth c rest.head? = some found) : scan depth previous c rest = .ok found := by
  have hnumber : number? depth previous c rest = none := by
    rw [number?, hstart]
    rfl
  unfold scan
  rw [if_neg (not_or.2 ⟨hplain.1, hplain.2.1⟩), if_neg fun h => hplain.2.2 h.1, hnumber]
  simp only [hsymbol]

theorem quotedRun_plain {quote c : Char} (hquote : c ≠ quote) (hslash : c ≠ '\\') (rest : List Char) :
    quotedRun quote (c :: rest) = (quotedRun quote rest).map fun (cs, count) => (c :: cs, count + 1) := by
  rw [quotedRun.eq_def]
  simp only [if_neg hquote, if_neg hslash]

/-- What a backslash and the character behind it stand for. -/
def escaped (e : Char) : List Char :=
  if e = '"' ∨ e = '\'' ∨ e = '\\' then [e]
  else if e = 'n' then ['\n']
  else if e = 't' then ['\t']
  else ['\\', e]

theorem quotedRun_escape {quote : Char} (hquote : ¬ '\\' = quote) (e : Char) (cs : List Char) :
    quotedRun quote ('\\' :: e :: cs) =
      (quotedRun quote cs).map fun (rest, count) => (escaped e ++ rest, count + 2) := by
  rw [quotedRun.eq_def]
  simp only [if_neg hquote, if_true]
  rfl

theorem quotedRun_escaped {c : Char} (h : c = '\\' ∨ c = '\'') (rest : List Char) :
    quotedRun '\'' ('\\' :: c :: rest) = (quotedRun '\'' rest).map fun (cs, count) => (c :: cs, count + 2) := by
  have hescaped : escaped c = [c] := by rcases h with rfl | rfl <;> rfl
  rw [quotedRun_escape (by decide), hescaped]
  rfl

theorem quotedRun_quoted (cs rest : List Char) :
    quotedRun '\'' (cs.flatMap (fun c => if c = '\\' ∨ c = '\'' then ['\\', c] else [c]) ++ '\'' :: rest) =
      .ok (cs, (cs.flatMap fun c => if c = '\\' ∨ c = '\'' then ['\\', c] else [c]).length + 1) := by
  induction cs with
  | nil => rw [List.flatMap_nil, List.nil_append, quotedRun.eq_def]; rfl
  | cons c cs ih =>
    rw [List.flatMap_cons, List.append_assoc]
    by_cases hescape : c = '\\' ∨ c = '\''
    · rw [if_pos hescape, List.cons_append, List.cons_append, List.nil_append, quotedRun_escaped hescape, ih]
      simp only [Except.map, List.length_cons, List.cons_append, List.nil_append]
    · obtain ⟨hslash, hquote⟩ := not_or.1 hescape
      rw [if_neg hescape, List.cons_append, List.nil_append, quotedRun_plain hquote hslash, ih]
      simp only [Except.map, List.length_cons, List.cons_append, List.nil_append]

/-! Lexed texts -/

/-- The tokens as which a text is lexed, wherever it starts. -/
def Spells (depth : Nat) (previous : Option Token) (cs : List Char) (ts : List Token) : Prop :=
  ∀ offset gap, ∃ ls, lexFrom offset depth previous gap cs = .ok ls ∧ ls.map Lexeme.token = ts

theorem spells_nil (depth : Nat) (previous : Option Token) : Spells depth previous [] [] := by
  intro offset gap
  exact ⟨[], by rw [lexFrom], rfl⟩

theorem Spells.space {depth : Nat} {previous : Option Token} {cs : List Char} {ts : List Token}
    (h : Spells depth previous cs ts) : Spells depth previous (' ' :: cs) ts := by
  intro offset gap
  obtain ⟨ls, hls, htokens⟩ := h (offset + ' '.utf8Size) (gap ++ [' '])
  exact ⟨ls, by rw [lexFrom, if_pos (by decide), hls], htokens⟩

/-- One token and the text after it. -/
theorem Spells.cons {depth : Nat} {previous : Option Token} {c : Char} {cs rest : List Char} {t : Token}
    {ts : List Token} (hblank : isBlank c = false) (hscan : scan depth previous c (cs ++ rest) = .ok (t, cs.length))
    (h : Spells (depthAfter depth t) (some t) rest ts) :
    Spells depth previous (c :: cs ++ rest) (t :: ts) := by
  intro offset gap
  obtain ⟨ls, hls, htokens⟩ := h (offset + byteSize (c :: cs)) []
  refine ⟨⟨t, gap, c :: cs, offset⟩ :: ls, ?_, by rw [List.map_cons, htokens]⟩
  rw [List.cons_append, lexFrom, if_neg (by simp [hblank]), hscan]
  simp only [List.take_left, List.drop_left, hls]
  rfl

theorem isBlank_of_isAlpha {c : Char} (h : c.isAlpha = true) : isBlank c = false :=
  Text.isBlank_of_isLetter (isLetter_of_isAlpha h)

theorem isBlank_of_isDigit {c : Char} (h : c.isDigit = true) : isBlank c = false := by
  rw [Char.isDigit_iff_toNat] at h
  simp only [Char.reduceToNat] at h
  exact Text.isBlank_of_graphic (by omega) (by omega)

section
variable {depth : Nat} {previous : Option Token} {rest : List Char} {ts : List Token}

theorem Spells.word {text : String} (halpha : text.toList ≠ [] ∧ ∀ c ∈ text.toList, c.isAlpha = true)
    (hrest : Stops rest) (h : Spells depth (some (.word text)) rest ts) :
    Spells depth previous (text.toList ++ rest) (.word text :: ts) := by
  obtain ⟨c, cs, htext⟩ := List.exists_cons_of_ne_nil halpha.1
  have hall := halpha.2
  rw [htext] at hall ⊢
  have hscan := scan_alpha hall depth previous hrest
  rw [← htext, String.ofList_toList] at hscan
  exact .cons (isBlank_of_isAlpha (hall c List.mem_cons_self)) hscan h

theorem Spells.path {p : Path} (hplain : p.IsPlain depth) (hrest : Stops rest)
    (h : Spells depth (some (.path p.render)) rest ts) :
    Spells depth previous (p.render.toList ++ rest) (.path p.render :: ts) := by
  have hscan := scan_path hplain.closed_body previous hrest
  rw [← p.toList_render, String.ofList_toList] at hscan
  rw [p.toList_render]
  exact .cons (by decide) hscan h

theorem Spells.quoted (text : String) (h : Spells depth (some (.string text)) rest ts) :
    Spells depth previous ((Operand.quoteText text).toList ++ rest) (.string text :: ts) := by
  have hquoted := quotedRun_quoted text.toList rest
  rw [Operand.quoteText, String.toList_ofList]
  refine .cons (by decide) ?_ h
  rw [List.append_eq, List.append_assoc]
  unfold scan
  rw [if_pos (.inr rfl)]
  simp only [List.singleton_append, hquoted, Except.map, String.ofList_toList, List.length_append, List.length_cons,
    List.length_nil]

/-- The token of a number: behind an operand, a minus belongs to a word. -/
def numberToken (behind : Bool) (x : Float) : Token :=
  if behind ∧ (displayChars x).head? = some '-' then .word (display x) else .number (display x)

theorem numberToken_false (x : Float) : numberToken false x = .number (display x) := if_neg (by simp)

theorem numberToken_cases (behind : Bool) (x : Float) :
    numberToken behind x = .word (display x) ∨ numberToken behind x = .number (display x) := by
  unfold numberToken
  split
  · exact .inl rfl
  · exact .inr rfl

/-- Numbers stand where a minus is a sign, or else outside all parentheses. -/
theorem Spells.number {x : Float} (hfinite : x.isFinite)
    (hplace : previous.any Token.endsOperand = false ∨ depth = 0) (hrest : Stops rest)
    (h : ∀ t, depthAfter depth t = depth → Spells depth (some t) rest ts) :
    Spells depth previous ((display x).toList ++ rest)
      (numberToken (previous.any Token.endsOperand) x :: ts) := by
  obtain ⟨p, hp⟩ := (Number.isFinite_eq_view x).1 hfinite
  obtain ⟨whole, fraction, hplain, htext, -⟩ := Number.exists_displayChars hp
  have hdisplay : (display x).toList = displayChars x := String.toList_ofList
  have hrun := numberRun_plain hplain p.negative hrest
  rw [← htext] at hrun
  obtain ⟨d, ds, hwhole⟩ := List.exists_cons_of_ne_nil hplain.nonempty
  have hd := hplain.whole d (by rw [hwhole]; exact List.mem_cons_self)
  rw [hdisplay]
  cases hnegative : p.negative with
  | false =>
    have hchars : displayChars x = d :: (ds ++ pointed fraction) := by
      rw [htext, hnegative, hwhole]
      rfl
    have htoken : numberToken (previous.any Token.endsOperand) x = .number (display x) := by
      refine if_neg fun hword => ?_
      rw [hchars] at hword
      cases hword.2
      exact absurd hd (by decide)
    have hstart : startsNumber previous d (ds ++ pointed fraction ++ rest).head? = true := by simp [startsNumber, hd]
    rw [htoken, hchars]
    rw [hchars] at hrun
    have hscan := @scan_number depth _ _ _ _ hstart hrun hrest
    rw [← hchars] at hscan
    exact .cons (isBlank_of_isDigit hd) hscan (h _ rfl)
  | true =>
    have hchars : displayChars x = '-' :: (whole ++ pointed fraction) := by
      rw [htext, hnegative]
      rfl
    have hhead : (whole ++ pointed fraction ++ rest).head? = some d := by
      rw [hwhole]
      rfl
    cases hprevious : previous.any Token.endsOperand with
    | false =>
      have hstart : startsNumber previous '-' (whole ++ pointed fraction ++ rest).head? = true := by
        rw [hhead]
        simp [startsNumber, hd, hprevious]
      rw [numberToken_false, hchars]
      rw [hchars] at hrun
      have hscan := @scan_number depth _ _ _ _ hstart hrun hrest
      rw [← hchars] at hscan
      exact .cons (by decide) hscan (h _ rfl)
    | true =>
      have hzero : depth = 0 := hplace.resolve_left (by simp [hprevious])
      subst hzero
      have htoken : numberToken true x = .word (display x) := if_pos ⟨rfl, by rw [hchars]; rfl⟩
      have hscan := scan_minus hprevious (isWordChar_of_plain hplain) hrest
      rw [htoken, hchars]
      rw [← hchars] at hscan
      exact .cons (by decide) hscan (h _ rfl)

theorem Spells.openParen (h : Spells (depth + 1) (some .openParen) rest ts) :
    Spells depth previous ('(' :: rest) (.openParen :: ts) :=
  @Spells.cons depth previous '(' [] rest _ _ (by decide)
    (scan_mark (by decide) (by simp [startsNumber]) (by simp [symbol?])) h

theorem Spells.closeParen (h : Spells depth (some .closeParen) rest ts) :
    Spells (depth + 1) previous (')' :: rest) (.closeParen :: ts) :=
  @Spells.cons (depth + 1) previous ')' [] rest _ _ (by decide)
    (scan_mark (by decide) (by simp [startsNumber]) (by simp [symbol?])) h

/-- A name with its argument, which is lexed before any delimiter. -/
theorem Spells.call {name : String} {inner : List Char} {innerTokens : List Token}
    (halpha : name.toList ≠ [] ∧ ∀ c ∈ name.toList, c.isAlpha = true)
    (hinner : ∀ rest ts, Stops rest → (∀ last, Spells (depth + 1) (some last) rest ts) →
      Spells (depth + 1) (some .openParen) (inner ++ rest) (innerTokens ++ ts))
    (h : Spells depth (some .closeParen) rest ts) :
    Spells depth previous (name.toList ++ '(' :: (inner ++ ')' :: rest))
      (.word name :: .openParen :: (innerTokens ++ .closeParen :: ts)) := by
  refine .word halpha (stops_cons (by decide) _) (.openParen ?_)
  exact hinner _ _ (stops_cons (by decide) _) fun last => .closeParen h

/-- A mark that is read where a blank follows it. -/
structure IsMark (depth : Nat) (c : Char) (cs : List Char) (token : Token) : Prop where
  unblank : isBlank c = false
  plain : c ≠ '"' ∧ c ≠ '\'' ∧ c ≠ '$'
  noNumber : ∀ previous, startsNumber previous c (cs ++ [' ']).head? = false
  symbol : symbol? depth c (cs ++ [' ']).head? = some (token, cs.length)

theorem Spells.mark {c : Char} {cs : List Char} {token : Token} (hmark : IsMark depth c cs token)
    (h : Spells (depthAfter depth token) (some token) rest ts) :
    Spells depth previous (c :: cs ++ ' ' :: rest) (token :: ts) := by
  have hhead : (cs ++ ' ' :: rest).head? = (cs ++ [' ']).head? := by cases cs <;> rfl
  refine .cons hmark.unblank (scan_mark hmark.plain ?_ ?_) h.space
  · rw [hhead]
    exact hmark.noNumber previous
  · rw [hhead]
    exact hmark.symbol

end

end Lexer

open Lexer (Spells Stops stops_nil stops_cons numberToken IsMark)

namespace ArithOp

def token : ArithOp → Token
  | add => .plus
  | sub => .minus
  | mul => .star
  | div => .slash

theorem endsOperand_token (op : ArithOp) : op.token.endsOperand = false := by cases op <;> rfl

/-- Operators are read inside parentheses, where the blank after a minus keeps it from being a sign. -/
theorem spells (op : ArithOp) {depth : Nat} {previous : Option Token} {rest : List Char} {ts : List Token}
    (h : Spells (depth + 1) (some op.token) rest ts) :
    Spells (depth + 1) previous (op.symbol.toList ++ ' ' :: rest) (op.token :: ts) := by
  have hmark : ∃ c, op.symbol.toList = [c] ∧ IsMark (depth + 1) c [] op.token := by
    cases op with
    | add => exact ⟨'+', rfl, by decide, by decide, by simp [Lexer.startsNumber], by simp [Lexer.symbol?, token]⟩
    | sub => exact ⟨'-', rfl, by decide, by decide, by simp [Lexer.startsNumber], by simp [Lexer.symbol?, token]⟩
    | mul => exact ⟨'*', rfl, by decide, by decide, by simp [Lexer.startsNumber], by simp [Lexer.symbol?, token]⟩
    | div => exact ⟨'/', rfl, by decide, by decide, by simp [Lexer.startsNumber], by simp [Lexer.symbol?, token]⟩
  obtain ⟨c, hsymbol, hmark⟩ := hmark
  have hdepth : Lexer.depthAfter (depth + 1) op.token = depth + 1 := by cases op <;> rfl
  rw [hsymbol]
  refine .mark hmark ?_
  rwa [hdepth]

end ArithOp

namespace CompareOp

/-- The token of a comparison operator that is one token. -/
def token : CompareOp → Token
  | eq => .eq
  | ne => .ne
  | gt => .gt
  | ge => .ge
  | lt => .lt
  | le => .le
  | memberOf => .word "IN"
  | notMemberOf => .word "NOT"

theorem spells {op : CompareOp} (member : op ≠ .memberOf) (notMember : op ≠ .notMemberOf)
    {previous : Option Token} {rest : List Char} {ts : List Token} (h : Spells 0 (some op.token) rest ts) :
    Spells 0 previous (op.symbol.toList ++ ' ' :: rest) (op.token :: ts) := by
  have hmark : ∃ c cs, op.symbol.toList = c :: cs ∧ IsMark 0 c cs op.token := by
    cases op with
    | memberOf => exact absurd rfl member
    | notMemberOf => exact absurd rfl notMember
    | eq => exact ⟨'=', ['='], rfl, by decide, by decide, by simp [Lexer.startsNumber], rfl⟩
    | ne => exact ⟨'!', ['='], rfl, by decide, by decide, by simp [Lexer.startsNumber], rfl⟩
    | gt => exact ⟨'>', [], rfl, by decide, by decide, by simp [Lexer.startsNumber], rfl⟩
    | ge => exact ⟨'>', ['='], rfl, by decide, by decide, by simp [Lexer.startsNumber], rfl⟩
    | lt => exact ⟨'<', [], rfl, by decide, by decide, by simp [Lexer.startsNumber], rfl⟩
    | le => exact ⟨'<', ['='], rfl, by decide, by decide, by simp [Lexer.startsNumber], rfl⟩
  obtain ⟨c, cs, hsymbol, hmark⟩ := hmark
  have hdepth : Lexer.depthAfter 0 op.token = 0 := by cases op <;> rfl
  rw [hsymbol]
  refine .mark hmark ?_
  rwa [hdepth]

end CompareOp

namespace Operand

/-- The token of a value: texts are quoted, and other values are as displayed. -/
def valueToken (behind : Bool) : Value → Token
  | .string s => .string s
  | .number x => numberToken behind x
  | v => .word v.display

/-- The tokens of an operand, where it may stand behind another one. -/
def tokens (behind : Bool) : Operand → List Token
  | .path p => [.path p.render]
  | .literal v => [valueToken behind v]
  | .exp term => .word "EXP" :: .openParen :: (term.tokens false ++ [.closeParen])
  | .arith left op right =>
    .word "EXP" :: .openParen :: (left.tokens false ++ op.token :: right.tokens false ++ [.closeParen])
  | .aggregate op p => [.word op.name, .openParen, .path p.render, .closeParen]
  | .list _ => []

theorem toList_render_exp (term : Operand) :
    (exp term).render.toList = "EXP".toList ++ '(' :: (term.render.toList ++ [')']) := by
  simp only [render, String.toList_append, List.append_assoc]
  rfl

theorem toList_render_arith (left : Operand) (op : ArithOp) (right : Operand) :
    (arith left op right).render.toList =
      "EXP".toList ++
        '(' :: (left.render.toList ++ ' ' :: (op.symbol.toList ++ ' ' :: right.render.toList) ++ [')']) := by
  simp only [render, String.toList_append, List.append_assoc, List.cons_append]
  rfl

theorem toList_render_aggregate (op : AggregateOp) (p : Path) :
    (aggregate op p).render.toList = op.name.toList ++ '(' :: (p.render.toList ++ [')']) := by
  simp only [render, String.toList_append, List.append_assoc]
  rfl

theorem isAlpha_exp : "EXP".toList ≠ [] ∧ ∀ c ∈ "EXP".toList, c.isAlpha = true := by decide

theorem isAlpha_name (op : AggregateOp) : op.name.toList ≠ [] ∧ ∀ c ∈ op.name.toList, c.isAlpha = true := by
  cases op <;> decide

/-- Whether a term is lexed as its tokens wherever a term may stand. -/
def Spelled (term : Operand) : Prop :=
  ∀ {depth : Nat} {previous : Option Token} {rest : List Char} {ts : List Token},
    previous.any Token.endsOperand = false → Stops rest → (∀ last, Spells (depth + 1) (some last) rest ts) →
      Spells (depth + 1) previous (term.render.toList ++ rest) (term.tokens false ++ ts)

section
variable {depth : Nat} {previous : Option Token} {rest : List Char} {ts : List Token}

theorem spells_exp {term : Operand} (hterm : term.Spelled) (behind : Bool)
    (h : Spells depth (some .closeParen) rest ts) :
    Spells depth previous ((exp term).render.toList ++ rest) ((exp term).tokens behind ++ ts) := by
  have hcall := @Spells.call depth previous rest ts _ _ _ isAlpha_exp (fun _ _ hrest h => hterm rfl hrest h) h
  rw [toList_render_exp]
  simpa [tokens] using hcall

theorem spells_arith {left right : Operand} (hleft : left.Spelled) (op : ArithOp) (hright : right.Spelled)
    (behind : Bool) (h : Spells depth (some .closeParen) rest ts) :
    Spells depth previous ((arith left op right).render.toList ++ rest)
      ((arith left op right).tokens behind ++ ts) := by
  have hinner : ∀ rest ts, Stops rest → (∀ last, Spells (depth + 1) (some last) rest ts) →
      Spells (depth + 1) (some .openParen)
        ((left.render.toList ++ ' ' :: (op.symbol.toList ++ ' ' :: right.render.toList)) ++ rest)
        ((left.tokens false ++ op.token :: right.tokens false) ++ ts) := by
    intro rest ts hrest h
    rw [List.append_assoc, List.append_assoc, List.cons_append, List.cons_append, List.append_assoc]
    refine hleft rfl (stops_cons (by decide) _) fun last => .space (op.spells ?_)
    exact hright op.endsOperand_token hrest h
  have hcall := @Spells.call depth previous rest ts _ _ _ isAlpha_exp hinner h
  rw [toList_render_arith]
  simpa [tokens] using hcall

theorem spells_aggregate (op : AggregateOp) {p : Path} (plain : p.IsPlain 1) (behind : Bool)
    (h : Spells depth (some .closeParen) rest ts) :
    Spells depth previous ((aggregate op p).render.toList ++ rest) ((aggregate op p).tokens behind ++ ts) := by
  have hcall := @Spells.call depth previous rest ts _ _ [.path p.render] (isAlpha_name op)
    (fun _ _ hrest h => Spells.path plain.deeper hrest (h _)) h
  rw [toList_render_aggregate]
  simpa [tokens] using hcall

end

/-- Terms inside parentheses, by induction on how they were parsed. -/
theorem IsTerm.spelled {term : Operand} (hterm : term.IsTerm) : term.Spelled := by
  intro depth previous rest ts hprevious hrest h
  induction hterm generalizing depth previous rest ts with
  | path plain => exact .path plain.deeper hrest (h _)
  | number finite =>
    have hnumber := Spells.number finite (.inl hprevious) hrest fun t _ => h t
    rwa [hprevious] at hnumber
  | exp hterm ih => exact spells_exp ih false (h _)
  | arith hleft hright ihLeft ihRight => exact spells_arith ihLeft _ ihRight false (h _)
  | aggregate plain => exact spells_aggregate _ plain false (h _)

/-- Operands of rules. -/
theorem IsCanonical.spells {operand : Operand} (hoperand : operand.IsCanonical) {previous : Option Token}
    {rest : List Char} {ts : List Token} (hrest : Stops rest) (h : ∀ last, Spells 0 (some last) rest ts) :
    Spells 0 previous (operand.render.toList ++ rest) (operand.tokens (previous.any Token.endsOperand) ++ ts) := by
  cases hoperand with
  | path plain => exact .path plain hrest (h _)
  | @literal v scalar finite =>
    cases v with
    | null => exact .word (by decide) hrest (h _)
    | bool b => cases b <;> exact .word (by decide) hrest (h _)
    | number x => exact .number (finite x rfl) (.inr rfl) hrest fun t _ => h t
    | string s => exact .quoted s (h _)
    | array items => cases scalar
    | object fields => cases scalar
  | call call term =>
    cases term with
    | path plain => cases call
    | number finite => cases call
    | exp hterm => exact spells_exp hterm.spelled _ (h _)
    | arith hleft hright => exact spells_arith hleft.spelled _ hright.spelled _ (h _)
    | aggregate plain => exact spells_aggregate _ plain _ (h _)

end Operand

namespace Rule

/-- The tokens of a rule. A condition, and what follows a word, stands behind that word. -/
def tokens (behind : Bool) : Rule → List Token
  | .or left right => left.tokens behind ++ .word "OR" :: right.tokens true
  | .set target value => .word "SET" :: .path target.render :: .assign :: value.tokens false
  | .conditional condition action => .word "IF" :: condition.tokens true ++ .word "THEN" :: action.tokens true
  | .nullCheck p negated => [.path p.render, if negated then .ne else .eq, .word "null"]
  | .compare left op right => left.tokens behind ++ op.token :: right.tokens false

theorem IsCanonical.spells {rule : Rule} (hrule : rule.IsCanonical) (hmember : rule.hasMembership = false)
    {previous : Option Token} {rest : List Char} {ts : List Token} (hrest : Stops rest)
    (h : ∀ last, Spells 0 (some last) rest ts) :
    Spells 0 previous (rule.render.toList ++ rest) (rule.tokens (previous.any Token.endsOperand) ++ ts) := by
  have hblank : ∀ cs, Stops (' ' :: cs) := stops_cons (by decide)
  induction hrule generalizing previous rest ts with
  | @or left right tight hleft hright ihLeft ihRight =>
    have htext : (Rule.or left right).render.toList ++ rest =
        left.render.toList ++ ' ' :: ("OR".toList ++ ' ' :: (right.render.toList ++ rest)) := by
      simp only [render, String.toList_append, List.append_assoc]
      rfl
    obtain ⟨hmemberLeft, hmemberRight⟩ := hasMembership_or hmember
    rw [htext, tokens, List.append_assoc, List.cons_append]
    refine ihLeft hmemberLeft (hblank _) fun _ => ?_
    exact .space (.word (by decide) (hblank _) (.space (ihRight hmemberRight hrest h)))
  | @set target value plain hvalue =>
    have htext : (Rule.set target value).render.toList ++ rest =
        "SET".toList ++ ' ' :: (target.render.toList ++ ' ' :: (['='] ++ ' ' :: (value.render.toList ++ rest))) := by
      simp only [render, String.toList_append, List.append_assoc]
      rfl
    have hassign : IsMark 0 '=' [] .assign :=
      ⟨by decide, by decide, by simp [Lexer.startsNumber], rfl⟩
    rw [htext]
    refine .word (by decide) (hblank _) (.space (.path plain (hblank _) (.space ?_)))
    exact .mark hassign (hvalue.spells hrest h)
  | @conditional condition action simple tight tightAction hcondition haction ihCondition ihAction =>
    have htext : (Rule.conditional condition action).render.toList ++ rest =
        "IF".toList ++ ' ' :: (condition.render.toList ++ ' ' ::
          ("THEN".toList ++ ' ' :: (action.render.toList ++ rest))) := by
      simp only [render, String.toList_append, List.append_assoc]
      rfl
    obtain ⟨hmemberCondition, hmemberAction⟩ := hasMembership_conditional hmember
    rw [htext, tokens, List.cons_append, List.cons_append, List.append_assoc, List.cons_append]
    refine .word (by decide) (hblank _) (.space (ihCondition hmemberCondition (hblank _) fun _ => ?_))
    exact .space (.word (by decide) (hblank _) (.space (ihAction hmemberAction hrest h)))
  | @nullCheck p negated plain =>
    have htext : (Rule.nullCheck p negated).render.toList ++ rest =
        p.render.toList ++ ' ' :: ((nullSymbol negated).toList ++ ' ' :: ("null".toList ++ rest)) := by
      simp only [render, String.toList_append, List.append_assoc]
      rfl
    have hnull : ∀ previous, Spells 0 previous ("null".toList ++ rest) (.word "null" :: ts) := fun _ =>
      .word (by decide) hrest (h _)
    rw [htext]
    refine .path plain (hblank _) (.space ?_)
    cases negated with
    | false => exact @CompareOp.spells .eq (by decide) (by decide) _ _ _ (hnull _)
    | true => exact @CompareOp.spells .ne (by decide) (by decide) _ _ _ (hnull _)
  | @compare left op right member notMember noCheck hleft hright =>
    have htext : (Rule.compare left op right).render.toList ++ rest =
        left.render.toList ++ ' ' :: (op.symbol.toList ++ ' ' :: (right.render.toList ++ rest)) := by
      simp only [render, String.toList_append, List.append_assoc]
      rfl
    have hbehind : (some op.token).any Token.endsOperand = false := by
      cases op with
      | memberOf => exact absurd rfl member
      | notMemberOf => exact absurd rfl notMember
      | _ => rfl
    have hvalue := @Operand.IsCanonical.spells right hright (some op.token) rest ts hrest h
    rw [hbehind] at hvalue
    rw [htext, tokens, List.append_assoc, List.cons_append]
    exact hleft.spells (hblank _) fun _ => .space (CompareOp.spells member notMember hvalue)
  | membership hop hleft =>
    rw [hasMembership_compare hop] at hmember
    cases hmember

/-- A rendered rule is lexed as its tokens. -/
theorem IsCanonical.lex_render {rule : Rule} (hrule : rule.IsCanonical) (hmember : rule.hasMembership = false) :
    ∃ ls, Lexer.lex rule.render = .ok ls ∧ ls.map Lexeme.token = rule.tokens false := by
  have hspells := @IsCanonical.spells rule hrule hmember none [] [] stops_nil fun last => Lexer.spells_nil 0 (some last)
  rw [List.append_nil, List.append_nil] at hspells
  exact hspells 0 []

end Rule

end PolicyEngine
