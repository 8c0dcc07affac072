import PolicyEngine.Proofs.Outcomes
import PolicyEngine.Proofs.Rule.Characters

/-! What the lexer makes sure of about every lexeme, and about the lexeme after it. It holds of all stretches
of what was lexed, as the parser cuts them. -/
namespace PolicyEngine
open Lexer (Closed depthAfter isWordChar isDelimiter isOperator)
open Text (isBlank)

/-- What a lexeme read at a depth is like, where `next` is the lexeme after it. -/
structure Lexeme.Sound (depth : Nat) (l : Lexeme) (next : Option Lexeme) : Prop where
  nonempty : l.text ≠ []
  gap : ∀ c ∈ l.gap, isBlank c = true
  word : ∀ text, l.token = .word text → l.text = text.toList
  path : ∀ text, l.token = .path text → ∃ run, text.toList = '$' :: '.' :: run ∧ Closed depth run
  letter : ∀ c ∈ l.text.head?, c.isAlpha = true → ∃ text, l.token = .word text
  whole : ∀ text, l.token = .word text → ∀ m, next = some m → m.gap = [] →
    ∀ c ∈ m.text.head?, isWordChar depth c = false

/-- Lexemes as the lexer gives them from a depth on. -/
def Lexed : Nat → List Lexeme → Prop
  | _, [] => True
  | depth, l :: rest => l.Sound depth rest.head? ∧ Lexed (depthAfter depth l.token) rest

theorem Lexed.left {depth : Nat} {ls others : List Lexeme} (h : Lexed depth (ls ++ others)) : Lexed depth ls := by
  induction ls generalizing depth with
  | nil => trivial
  | cons l ls ih =>
    obtain ⟨hl, hrest⟩ := h
    refine ⟨?_, ih hrest⟩
    cases ls with
    | cons m ls => exact hl
    | nil => exact ⟨hl.nonempty, hl.gap, hl.word, hl.path, hl.letter, fun _ _ _ hm => by cases hm⟩

theorem Lexed.right {depth : Nat} {ls others : List Lexeme} (h : Lexed depth (ls ++ others)) :
    ∃ depth', Lexed depth' others := by
  induction ls generalizing depth with
  | nil => exact ⟨depth, h⟩
  | cons l ls ih => exact ih h.2

namespace Lexer

theorem isWordChar_of_isLetter {c : Char} (h : Text.isLetter c = true) (depth : Nat) : isWordChar depth c = true := by
  have hopening : c ≠ '[' := by
    rintro rfl
    exact absurd h (by decide)
  have hclosing : c ≠ ']' := by
    rintro rfl
    exact absurd h (by decide)
  simp [isWordChar, isDelimiter_of_isLetter h, isOperator_of_isLetter h, hopening, hclosing]

theorem startsNumber_of_isAlpha {c : Char} (h : c.isAlpha = true) (previous : Option Token) (next : Option Char) :
    startsNumber previous c next = false := by
  have hdigit : c.isDigit = false := by
    cases hc : c.isDigit with
    | false => rfl
    | true =>
      have hbounds := bounds_of_isAlpha h
      rw [Char.isDigit_iff_toNat] at hc
      simp only [Char.reduceToNat] at hc
      omega
  have hminus : c ≠ '-' := by
    rintro rfl
    exact absurd h (by decide)
  simp [startsNumber, hdigit, hminus]

theorem symbol?_of_isLetter {c : Char} (h : Text.isLetter c = true) (depth : Nat) (next : Option Char) :
    symbol? depth c next = none := by
  have hne : ∀ m ∈ ['=', '!', '<', '>', '(', ')', '[', ']', ',', '+', '-', '*', '/'], c ≠ m := by
    rintro m hm rfl
    have hmark : ∀ m ∈ ['=', '!', '<', '>', '(', ')', '[', ']', ',', '+', '-', '*', '/'],
        Text.isLetter m = false := by decide
    exact absurd (hmark c hm) (by simp [h])
  simp only [List.mem_cons, List.not_mem_nil, or_false, forall_eq_or_imp, forall_eq] at hne
  simp [symbol?, hne]

/-- A letter starts a word, which takes all word characters. -/
theorem scan_of_isAlpha {c : Char} (h : c.isAlpha = true) (depth : Nat) (previous : Option Token)
    (rest : List Char) :
    scan depth previous c rest = .ok (.word (String.ofList (c :: rest.takeWhile (isWordChar depth))),
      (rest.takeWhile (isWordChar depth)).length) := by
  have hletter := isLetter_of_isAlpha h
  have hquote : ¬ (c = '"' ∨ c = '\'') := by
    rintro (rfl | rfl) <;> exact absurd h (by decide)
  have hdollar : ¬ (c = '$' ∧ rest.head? = some '.') := by
    rintro ⟨rfl, -⟩
    exact absurd h (by decide)
  unfold scan
  rw [if_neg hquote, if_neg hdollar]
  simp [number?, startsNumber_of_isAlpha h, symbol?_of_isLetter hletter, isWordChar_of_isLetter hletter]

theorem forall_mem_ite {α : Type} {P : α → Prop} {c : Prop} [Decidable c] {a b : Option α}
    (ha : c → ∀ x ∈ a, P x) (hb : ∀ x ∈ b, P x) : ∀ x ∈ (if c then a else b), P x := by
  split
  · next hc => exact ha hc
  · exact hb

/-- Marks are spelled by the characters that they take: one more than the first only where that is an equals sign. -/
theorem spells_of_symbol? (depth : Nat) (c : Char) (rest : List Char) : ∀ found ∈ symbol? depth c rest.head?,
    ∃ more after, rest = more ++ after ∧ found.2 = more.length ∧
      found.1.symbol? = some (String.ofList (c :: more)) := by
  have hsingle : ∀ {m : Char} {a : Token}, a.symbol? = some (String.ofList [m]) → c = m →
      ∀ found ∈ some (a, 0), ∃ more after, rest = more ++ after ∧ found.2 = more.length ∧
        found.1.symbol? = some (String.ofList (c :: more)) := by
    rintro m a ha rfl found hfound
    cases hfound
    exact ⟨[], rest, rfl, rfl, ha⟩
  have hpair : ∀ {m : Char} {a : Token}, a.symbol? = some (String.ofList [m, '=']) → c = m → rest.head? = some '=' →
      ∀ found ∈ some (a, 1), ∃ more after, rest = more ++ after ∧ found.2 = more.length ∧
        found.1.symbol? = some (String.ofList (c :: more)) := by
    rintro m a ha rfl hhead found hfound
    cases hfound
    obtain ⟨after, rfl⟩ := List.head?_eq_some_iff.1 hhead
    exact ⟨['='], after, rfl, rfl, ha⟩
  have hdoubled : ∀ {m : Char} {a b : Token}, a.symbol? = some (String.ofList [m, '=']) →
      b.symbol? = some (String.ofList [m]) → c = m →
      ∀ found ∈ some (if rest.head? = some '=' then (a, 1) else (b, 0)), ∃ more after, rest = more ++ after ∧
        found.2 = more.length ∧ found.1.symbol? = some (String.ofList (c :: more)) := by
    intro m a b ha hb hc
    split
    · next hhead => exact hpair ha hc hhead
    · exact hsingle hb hc
  unfold symbol?
  refine forall_mem_ite (hdoubled rfl rfl) (forall_mem_ite (fun hc => ?_) ?_)
  · exact forall_mem_ite (hpair rfl hc) (by simp)
  refine forall_mem_ite (hdoubled rfl rfl) (forall_mem_ite (hdoubled rfl rfl) ?_)
  iterate 5 refine forall_mem_ite (hsingle rfl) ?_
  refine forall_mem_ite (by simp) ?_
  iterate 4 refine forall_mem_ite (hsingle rfl) ?_
  simp

theorem symbol?_ne_some {depth : Nat} {c : Char} {rest : List Char} {token : Token} {count : Nat}
    (h : token.symbol? = none) : symbol? depth c rest.head? ≠ some (token, count) := by
  intro hsymbol
  obtain ⟨more, -, -, -, hspelled⟩ := spells_of_symbol? depth c rest _ hsymbol
  rw [h] at hspelled
  cases hspelled

/-- What a scan has found, and how many characters of the rest it takes. -/
inductive Scanned (depth : Nat) (previous : Option Token) (c : Char) (rest : List Char) : Token → Nat → Prop
  | quoted {content : List Char} {count : Nat} (hc : c = '"' ∨ c = '\'')
      (run : quotedRun c rest = .ok (content, count)) :
      Scanned depth previous c rest (.string (String.ofList content)) count
  | path (hc : c = '$') (point : rest.head? = some '.') : Scanned depth previous c rest
      (.path (String.ofList ('$' :: '.' :: pathRun depth rest.tail))) ((pathRun depth rest.tail).length + 1)
  | number {text : List Char} (h : number? depth previous c rest = some text) :
      Scanned depth previous c rest (.number (String.ofList text)) (text.length - 1)
  | mark {token : Token} {count : Nat} (h : symbol? depth c rest.head? = some (token, count)) :
      Scanned depth previous c rest token count
  | word (hc : isWordChar depth c = true) : Scanned depth previous c rest
      (.word (String.ofList (c :: rest.takeWhile (isWordChar depth)))) (rest.takeWhile (isWordChar depth)).length

theorem scanned_of_scan {depth : Nat} {previous : Option Token} {c : Char} {rest : List Char} {token : Token}
    {count : Nat} (h : scan depth previous c rest = .ok (token, count)) :
    Scanned depth previous c rest token count := by
  unfold scan at h
  split at h
  · next hquote =>
    obtain ⟨⟨content, n⟩, hrun, heq⟩ := map_eq_ok_iff.1 h
    cases heq
    exact .quoted hquote hrun
  · split at h
    · next hpath =>
      cases h
      exact .path hpath.1 hpath.2
    · split at h
      · next hnumber =>
        cases h
        exact .number hnumber
      · split at h
        · next hsymbol =>
          cases h
          exact .mark hsymbol
        · split at h
          · next hword =>
            cases h
            exact .word hword
          · cases h

theorem drop_takeWhile (p : Char → Bool) (cs : List Char) :
    cs.drop (cs.takeWhile p).length = cs.dropWhile p := by
  have hsplit : (cs.takeWhile p ++ cs.dropWhile p).drop (cs.takeWhile p).length = cs.dropWhile p := List.drop_left
  rwa [List.takeWhile_append_dropWhile] at hsplit

theorem takeWhile_stop {p : Char → Bool} {cs : List Char} :
    ∀ d ∈ (cs.drop (cs.takeWhile p).length).head?, p d = false := by
  intro d hd
  rw [drop_takeWhile] at hd
  have hhead := List.head?_dropWhile_not p cs
  rw [Option.mem_def.1 hd] at hhead
  simpa using hhead

/-- Words are spelled as they stand, up to a character that no word goes on with. -/
theorem word_of_scan {depth : Nat} {previous : Option Token} {c : Char} {rest : List Char} {text : String}
    {count : Nat} (h : scan depth previous c rest = .ok (.word text, count)) :
    text.toList = c :: rest.take count ∧ ∀ d ∈ (rest.drop count).head?, isWordChar depth d = false := by
  cases scanned_of_scan h with
  | mark hsymbol => exact absurd hsymbol (symbol?_ne_some rfl)
  | word hc =>
    refine ⟨?_, takeWhile_stop⟩
    rw [String.toList_ofList, ← List.prefix_iff_eq_take.1 (List.takeWhile_prefix _)]

theorem path_of_scan {depth : Nat} {previous : Option Token} {c : Char} {rest : List Char} {text : String}
    {count : Nat} (h : scan depth previous c rest = .ok (.path text, count)) :
    ∃ run, text.toList = '$' :: '.' :: run ∧ Closed depth run := by
  cases scanned_of_scan h with
  | mark hsymbol => exact absurd hsymbol (symbol?_ne_some rfl)
  | path hc point => exact ⟨_, String.toList_ofList, closed_pathRun depth _⟩

/-- Lexing gives sound lexemes; where the first of them follows at once, it starts with the next character. -/
theorem lexed_of_lexFrom {offset depth : Nat} {previous : Option Token} {gap cs : List Char} {ls : List Lexeme}
    (hgap : ∀ c ∈ gap, isBlank c = true) (h : lexFrom offset depth previous gap cs = .ok ls) :
    Lexed depth ls ∧ ∀ m ∈ ls.head?, m.gap = [] → gap = [] ∧ m.text.head? = cs.head? := by
  induction offset, depth, previous, gap, cs using lexFrom.induct generalizing ls with
  | case1 offset depth previous gap =>
    rw [lexFrom] at h
    cases h
    exact ⟨trivial, by simp⟩
  | case2 offset depth previous gap c rest hblank ih =>
    rw [lexFrom, if_pos hblank] at h
    have hgap' : ∀ d ∈ gap ++ [c], isBlank d = true := by
      intro d hd
      rcases List.mem_append.1 hd with hd | hd
      · exact hgap d hd
      · rwa [List.mem_singleton.1 hd]
    obtain ⟨hlexed, hnext⟩ := ih hgap' h
    refine ⟨hlexed, fun m hm hempty => ?_⟩
    exact absurd (hnext m hm hempty).1 (by simp)
  | case3 offset depth previous gap c rest hblank fault hscan =>
    rw [lexFrom, if_neg hblank, hscan] at h
    cases h
  | case4 offset depth previous gap c rest hblank token count hscan =>
    rename_i ih
    rw [lexFrom, if_neg hblank, hscan] at h
    obtain ⟨others, hothers, rfl⟩ := map_eq_ok_iff.1 h
    obtain ⟨hlexed, hnext⟩ := ih (by simp) hothers
    refine ⟨⟨⟨by simp, hgap, ?_, ?_, ?_, ?_⟩, hlexed⟩, ?_⟩
    · rintro text rfl
      exact (word_of_scan hscan).1.symm
    · rintro text rfl
      exact path_of_scan hscan
    · intro d hd halpha
      cases hd
      rw [scan_of_isAlpha halpha] at hscan
      cases hscan
      exact ⟨_, rfl⟩
    · rintro text rfl m hm hempty d hd
      refine (word_of_scan hscan).2 d ?_
      rw [← (hnext m hm hempty).2]
      exact hd
    · intro m hm hempty
      cases hm
      exact ⟨hempty, rfl⟩

theorem lexed_of_lex {text : String} {ls : List Lexeme} (h : lex text = .ok ls) : Lexed 0 ls :=
  (lexed_of_lexFrom (by simp) h).1

end Lexer

end PolicyEngine
