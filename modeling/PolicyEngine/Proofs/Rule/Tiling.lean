import Mathlib.Data.String.Basic
import PolicyEngine.Proofs.Rule.Placement

/-! Lexemes tile the text that they are read from. Each stands where its offsets say, spelled as its token is; between
them, before the first and after the last there are blanks only. So the characters of lexemes in a row, with the
blanks between them, are a stretch of the text. -/
namespace PolicyEngine

open Text (isBlank)
open Value (isQuote)

/-- A stretch of a text between two byte offsets: both are on boundaries of characters, and these characters stand
between them. -/
structure Covers (text : String) (start stop : Nat) (cs : List Char) : Prop where
  le : start ≤ stop
  start_valid : String.Pos.Raw.IsValid text ⟨start⟩
  stop_valid : String.Pos.Raw.IsValid text ⟨stop⟩
  extract : String.Pos.Raw.extract text ⟨start⟩ ⟨stop⟩ = String.ofList cs

def BlankBetween (text : String) (start stop : Nat) : Prop :=
  ∃ cs, Covers text start stop cs ∧ ∀ c ∈ cs, isBlank c = true

/-- A lexeme is spelled as its token is: words, numbers and paths by their own text, a quoted text between two of the
same quote characters, and a mark by its symbol. -/
def Lexeme.IsSpelled (l : Lexeme) : Prop :=
  match l.token with
  | .word text | .number text | .path text => l.text = text.toList
  | .string _ => ∃ quote inner, isQuote quote = true ∧ l.text = quote :: inner ++ [quote]
  | token => token.symbol? = some (String.ofList l.text)

/-- Lexemes with blanks between them fill a text from a byte offset on. -/
def Tiles (text : String) : Nat → List Lexeme → Prop
  | start, [] => BlankBetween text start text.utf8ByteSize
  | start, l :: ls => BlankBetween text start l.offset ∧ l.offset < l.stop ∧ Covers text l.offset l.stop l.text ∧
    l.IsSpelled ∧ Tiles text l.stop ls

/-! Characters and bytes -/

theorem utf8Len_eq_byteSize (cs : List Char) : String.utf8Len cs = byteSize cs := by
  induction cs with
  | nil => rfl
  | cons c cs ih => rw [String.utf8Len_cons, byteSize_cons, ih, Nat.add_comm]

theorem utf8ByteSize_of_toList {text : String} {cs : List Char} (h : text.toList = cs) :
    text.utf8ByteSize = byteSize cs := by
  rw [← utf8Len_eq_byteSize, ← h, String.utf8Len_toList]

theorem isValid_of_toList {text : String} {front back : List Char} (h : text.toList = front ++ back) :
    String.Pos.Raw.IsValid text ⟨byteSize front⟩ := by
  refine String.Pos.Raw.isValid_iff_exists_append.2 ⟨String.ofList front, String.ofList back, ?_, ?_⟩
  · rw [← String.ofList_append, ← h, String.ofList_toList]
  · rw [String.rawEndPos_ofList, utf8Len_eq_byteSize]

theorem covers_of_toList {text : String} {front cs back : List Char} (h : text.toList = front ++ cs ++ back) :
    Covers text (byteSize front) (byteSize (front ++ cs)) cs where
  le := by simp
  start_valid := isValid_of_toList (h.trans (List.append_assoc ..))
  stop_valid := isValid_of_toList h
  extract := by
    have hextract := String.extract_of_valid front cs back
    rwa [← h, String.ofList_toList, utf8Len_eq_byteSize, utf8Len_eq_byteSize, ← byteSize_append] at hextract

theorem byteSize_pos {cs : List Char} (h : cs ≠ []) : 0 < byteSize cs := by
  cases cs with
  | nil => exact absurd rfl h
  | cons c cs => exact Nat.add_pos_left c.utf8Size_pos _

/-! What is scanned -/

namespace Lexer

theorem quotedRun_take {quote : Char} {cs content : List Char} {count : Nat}
    (h : quotedRun quote cs = .ok (content, count)) : ∃ inner, cs.take count = inner ++ [quote] := by
  induction cs using quotedRun.induct quote generalizing content count with
  | case1 => cases h
  | case2 rest =>
    rw [quotedRun_quote] at h
    cases h
    exact ⟨[], rfl⟩
  | case3 hquote =>
    rw [quotedRun.eq_def] at h
    simp only [if_neg hquote, if_true] at h
    cases h
  | case4 e rest hquote ih =>
    rw [quotedRun_escape hquote] at h
    obtain ⟨⟨content', count'⟩, hrest, heq⟩ := map_eq_ok_iff.1 h
    cases heq
    obtain ⟨inner, hinner⟩ := ih hrest
    refine ⟨'\\' :: e :: inner, ?_⟩
    rw [List.take_succ_cons, List.take_succ_cons, hinner]
    rfl
  | case5 c rest hquote hslash ih =>
    rw [quotedRun_plain hquote hslash] at h
    obtain ⟨⟨content', count'⟩, hrest, heq⟩ := map_eq_ok_iff.1 h
    cases heq
    obtain ⟨inner, hinner⟩ := ih hrest
    refine ⟨c :: inner, ?_⟩
    rw [List.take_succ_cons, hinner]
    rfl

theorem numberRun_ne_nil {previous : Option Token} {c : Char} {next : Option Char}
    (h : startsNumber previous c next = true) (rest : List Char) : numberRun (c :: rest) ≠ [] := by
  by_cases hminus : c = '-'
  · subst hminus
    simp [numberRun]
  · have hdigit : c.isDigit = true := by simpa [startsNumber, hminus] using h
    simp [numberRun, hminus, Number.digitRun, hdigit]

theorem number?_take {depth : Nat} {previous : Option Token} {c : Char} {rest text : List Char}
    (h : number? depth previous c rest = some text) : c :: rest.take (text.length - 1) = text := by
  unfold number? at h
  split at h
  · next hstarts =>
    simp only at h
    split at h
    · cases h
    · cases h
      obtain ⟨d, run, hrun⟩ := List.exists_cons_of_ne_nil (numberRun_ne_nil hstarts rest)
      have happend := numberRun_append (c :: rest)
      rw [hrun] at happend ⊢
      obtain ⟨rfl, hrest⟩ := List.cons.inj happend
      have htake : rest.take run.length = run := by
        rw [← hrest]
        exact List.take_left
      rw [List.length_cons, Nat.add_sub_cancel, htake]
  · cases h

theorem spelled_of_scan {depth : Nat} {previous : Option Token} {c : Char} {rest : List Char} {token : Token}
    {count : Nat} (h : scan depth previous c rest = .ok (token, count)) (gap : List Char) (offset : Nat) :
    Lexeme.IsSpelled ⟨token, gap, c :: rest.take count, offset⟩ := by
  cases scanned_of_scan h with
  | quoted hc run =>
    obtain ⟨inner, hinner⟩ := quotedRun_take run
    exact ⟨c, inner, isQuote_iff.2 hc, congrArg (c :: ·) hinner⟩
  | path hc point =>
    obtain ⟨after, rfl⟩ := List.head?_eq_some_iff.1 point
    change c :: '.' :: after.take (pathRun depth after).length = _
    rw [hc, ← List.prefix_iff_eq_take.1 (isPrefix_pathRun depth after), String.toList_ofList]
    rfl
  | @number text hnumber =>
    change c :: rest.take (text.length - 1) = _
    rw [number?_take hnumber, String.toList_ofList]
  | mark hsymbol =>
    obtain ⟨more, after, rfl, rfl, hspelled⟩ := spells_of_symbol? depth c rest _ hsymbol
    rw [List.take_left]
    cases token <;> first
      | exact hspelled
      | cases hspelled
  | word hc =>
    change c :: rest.take (rest.takeWhile (isWordChar depth)).length = _
    rw [← List.prefix_iff_eq_take.1 (List.takeWhile_prefix _), String.toList_ofList]

theorem blank_of_lexFrom_nil {offset depth : Nat} {previous : Option Token} {gap cs : List Char}
    (h : lexFrom offset depth previous gap cs = .ok []) : ∀ c ∈ cs, isBlank c = true := by
  induction cs generalizing offset gap with
  | nil => simp
  | cons c rest ih =>
    by_cases hblank : isBlank c = true
    · rw [lexFrom, if_pos hblank] at h
      exact List.forall_mem_cons.2 ⟨hblank, ih h⟩
    · rw [lexFrom, if_neg hblank] at h
      split at h
      · cases h
      · obtain ⟨others, -, heq⟩ := map_eq_ok_iff.1 h
        cases heq

end Lexer

/-! Lexemes in a row -/

namespace Lexeme

theorem source_singleton (l : Lexeme) : source [l] = l.text := List.append_nil _

theorem source_cons_cons (l m : Lexeme) (ls : List Lexeme) :
    source (l :: m :: ls) = l.text ++ m.gap ++ source (m :: ls) := by
  simp [source]

theorem isPrefix_source {first : Lexeme} {extent : List Lexeme} (h : first ∈ extent.head?) :
    first.text <+: source extent := by
  cases extent with
  | nil => cases h
  | cons l ls =>
    cases h
    exact List.prefix_append _ _

theorem isSuffix_source {last : Lexeme} {extent : List Lexeme} (h : last ∈ extent.getLast?) :
    last.text <:+ source extent := by
  induction extent with
  | nil => cases h
  | cons l ls ih =>
    cases ls with
    | nil =>
      obtain rfl : l = last := Option.some.inj h
      exact source_singleton l ▸ List.suffix_refl _
    | cons m ls =>
      rw [List.getLast?_cons_cons] at h
      rw [source_cons_cons]
      exact (ih h).trans (List.suffix_append _ _)

end Lexeme

/-- Lexemes stand one behind the other behind some characters, with blanks before, between and after them. -/
inductive Laid : List Char → List Lexeme → List Char → Prop
  | nil {front rest : List Char} (blank : ∀ c ∈ rest, isBlank c = true) : Laid front [] rest
  | cons {front rest : List Char} {l : Lexeme} {ls : List Lexeme} (blank : ∀ c ∈ l.gap, isBlank c = true)
      (nonempty : l.text ≠ []) (offset : l.offset = byteSize (front ++ l.gap)) (spelled : l.IsSpelled)
      (tail : Laid (front ++ l.gap ++ l.text) ls rest) : Laid front (l :: ls) (l.gap ++ l.text ++ rest)

namespace Laid

variable {text : String} {front cs : List Char} {l : Lexeme} {ls others : List Lexeme}

theorem of_lexFrom {depth : Nat} {previous : Option Token}
    (h : Lexer.lexFrom (byteSize front) depth previous [] cs = .ok ls) : Laid front ls cs := by
  induction ls generalizing front cs depth previous with
  | nil => exact .nil (Lexer.blank_of_lexFrom_nil h)
  | cons l ls ih =>
    obtain ⟨blanks, c, rest, token, count, rfl, hblanks, -, hscan, rfl, hrest⟩ := Lexer.of_lexFrom_cons h
    have hlaid : Laid (front ++ blanks ++ c :: rest.take count) ls (rest.drop count) := by
      rw [← byteSize_append, ← byteSize_append] at hrest
      exact ih hrest
    have htext : blanks ++ c :: rest = blanks ++ (c :: rest.take count) ++ rest.drop count := by
      rw [List.append_assoc, List.cons_append, List.take_append_drop]
    rw [htext]
    exact .cons hblanks (List.cons_ne_nil _ _) (byteSize_append _ _).symm (Lexer.spelled_of_scan hscan _ _) hlaid

theorem stop_eq (hoffset : l.offset = byteSize (front ++ l.gap)) :
    l.stop = byteSize (front ++ l.gap ++ l.text) := by
  rw [Lexeme.stop, hoffset, byteSize_append (front ++ l.gap)]

theorem tiles (h : Laid front ls cs) (htext : text.toList = front ++ cs) : Tiles text (byteSize front) ls := by
  induction h with
  | @nil front rest blank =>
    have hcovers : Covers text (byteSize front) (byteSize (front ++ rest)) rest :=
      covers_of_toList (htext.trans (List.append_nil _).symm)
    rw [← utf8ByteSize_of_toList htext] at hcovers
    exact ⟨rest, hcovers, blank⟩
  | @cons front rest l ls blank nonempty offset spelled tail ih =>
    have hgap : text.toList = front ++ l.gap ++ (l.text ++ rest) := by simp [htext]
    have hlexeme : text.toList = front ++ l.gap ++ l.text ++ rest := by simp [htext]
    have hblank := covers_of_toList hgap
    have hcovers := covers_of_toList hlexeme
    have hrest := ih hlexeme
    rw [← offset] at hblank hcovers
    rw [← stop_eq offset] at hcovers hrest
    refine ⟨⟨l.gap, hblank, blank⟩, ?_, hcovers, spelled, hrest⟩
    exact Nat.lt_add_of_pos_right (byteSize_pos nonempty)

theorem drop (h : Laid front (ls ++ others) cs) : ∃ before after, cs = before ++ after ∧
    Laid (front ++ before) others after := by
  induction ls generalizing front cs with
  | nil => exact ⟨[], cs, rfl, by rwa [List.append_nil]⟩
  | cons l ls ih =>
    cases h with
    | cons _ _ _ _ tail =>
      obtain ⟨before, after, rfl, hlaid⟩ := ih tail
      refine ⟨l.gap ++ l.text ++ before, after, (List.append_assoc _ _ _).symm, ?_⟩
      rwa [List.append_assoc, List.append_assoc, ← List.append_assoc l.gap] at hlaid

/-- By induction on the lexemes behind the first. Each of them starts where the one before it ends. -/
theorem exists_source (h : Laid front (l :: ls ++ others) cs) : ∃ rest,
    cs = l.gap ++ Lexeme.source (l :: ls) ++ rest ∧ l.offset = byteSize (front ++ l.gap) ∧
      ∀ last ∈ (l :: ls).getLast?, last.stop = byteSize (front ++ l.gap ++ Lexeme.source (l :: ls)) := by
  induction ls generalizing front l cs with
  | nil =>
    cases h with
    | @cons _ rest _ _ _ _ offset _ _ =>
      refine ⟨rest, by rw [Lexeme.source_singleton], offset, fun last hlast => ?_⟩
      obtain rfl : l = last := Option.some.inj hlast
      rw [Lexeme.source_singleton]
      exact stop_eq offset
  | cons m ls ih =>
    cases h with
    | cons _ _ offset _ tail =>
      obtain ⟨rest, rfl, -, hstop⟩ := ih tail
      refine ⟨rest, by simp [Lexeme.source_cons_cons], offset, fun last hlast => ?_⟩
      rw [List.getLast?_cons_cons] at hlast
      rw [hstop last hlast, Lexeme.source_cons_cons]
      simp

/-- The characters from the first of some lexemes to the last stand between the offset of the one and the end of the
other. -/
theorem covers_source (h : Laid front (l :: ls ++ others) cs) (htext : text.toList = front ++ cs) :
    ∀ last ∈ (l :: ls).getLast?, Covers text l.offset last.stop (Lexeme.source (l :: ls)) := by
  obtain ⟨rest, rfl, hoffset, hstop⟩ := h.exists_source
  have hsplit : text.toList = front ++ l.gap ++ Lexeme.source (l :: ls) ++ rest := by simp [htext]
  intro last hlast
  rw [hoffset, hstop last hlast]
  exact covers_of_toList hsplit

end Laid

/-! Lexemes of a text -/

theorem Tiles.le_offset {text : String} {start : Nat} {ls : List Lexeme} (h : Tiles text start ls) :
    ∀ l ∈ ls, start ≤ l.offset := by
  induction ls generalizing start with
  | nil => simp
  | cons l ls ih =>
    obtain ⟨⟨_, hgap, -⟩, hlt, -, -, hrest⟩ := h
    exact List.forall_mem_cons.2 ⟨hgap.le, fun m hm => (hgap.le.trans hlt.le).trans (ih hrest m hm)⟩

theorem Tiles.pairwise {text : String} {start : Nat} {ls : List Lexeme} (h : Tiles text start ls) :
    ls.Pairwise fun l m => l.stop ≤ m.offset := by
  induction ls generalizing start with
  | nil => exact .nil
  | cons l ls ih =>
    obtain ⟨-, -, -, -, hrest⟩ := h
    exact .cons hrest.le_offset (ih hrest)

theorem tiles_of_lex {text : String} {ls : List Lexeme} (h : Lexer.lex text = .ok ls) : Tiles text 0 ls := by
  have hlaid : Laid [] ls text.toList := Laid.of_lexFrom h
  exact hlaid.tiles rfl

/-- The text of lexemes in a row is what stands in the text from the first of them to the last. -/
theorem covers_extent {text : String} {ls extent : List Lexeme} {first last : Lexeme} (h : Lexer.lex text = .ok ls)
    (hextent : extent <:+: ls) (hfirst : first ∈ extent.head?) (hlast : last ∈ extent.getLast?) :
    Covers text first.offset last.stop (Lexeme.source extent) := by
  obtain ⟨before, after, rfl⟩ := hextent
  have hlaid : Laid [] (before ++ (extent ++ after)) text.toList := by
    rw [← List.append_assoc]
    exact Laid.of_lexFrom h
  obtain ⟨front, cs, htext, hrest⟩ := hlaid.drop
  cases extent with
  | nil => cases hfirst
  | cons l ls =>
    cases hfirst
    exact hrest.covers_source htext last hlast

end PolicyEngine
