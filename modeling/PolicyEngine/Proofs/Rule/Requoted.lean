import PolicyEngine.Proofs.Rule.Lookahead
import PolicyEngine.Proofs.Rule.Skeleton

/-! Texts in which quoted literals are replaced by others. They are rules of the same skeleton, or no rules: what
is quoted never takes part in the structure. -/
namespace PolicyEngine

open Text (isBlank)
open Value (isQuote)

namespace Lexer

/-- A quote character, and a text that is quoted up to its end. -/
def IsQuoted (text : List Char) : Prop :=
  ∃ quote body content, text = quote :: body ∧ isQuote quote = true ∧ quotedRun quote body = .ok (content, body.length)

/-- Texts as the lexer goes through them, the second with other quoted literals for some of those of the first.
Behind a character that no token starts with, nothing is replaced. -/
inductive Requoted : Nat → Option Token → List Char → List Char → Prop
  | nil (depth : Nat) (previous : Option Token) : Requoted depth previous [] []
  | blank {depth : Nat} {previous : Option Token} {c : Char} {cs ds : List Char} (hblank : isBlank c = true)
      (h : Requoted depth previous cs ds) : Requoted depth previous (c :: cs) (c :: ds)
  | stuck {depth : Nat} {previous : Option Token} {c : Char} {cs : List Char} {fault : ParseFault}
      (hblank : isBlank c = false) (hscan : scan depth previous c cs = .error fault) :
      Requoted depth previous (c :: cs) (c :: cs)
  | token {depth : Nat} {previous : Option Token} {c : Char} {cs ds : List Char} {token : Token} {count : Nat}
      (hblank : isBlank c = false) (hscan : scan depth previous c cs = .ok (token, count))
      (h : Requoted (depthAfter depth token) (some token) (cs.drop count) ds) :
      Requoted depth previous (c :: cs) (c :: (cs.take count ++ ds))
  | quoted {depth : Nat} {previous : Option Token} {c : Char} {cs ds text : List Char} {content : String} {count : Nat}
      (hblank : isBlank c = false) (hscan : scan depth previous c cs = .ok (.string content, count))
      (htext : IsQuoted text) (h : Requoted depth (some (.string content)) (cs.drop count) ds) :
      Requoted depth previous (c :: cs) (text ++ ds)

theorem Requoted.alike {depth : Nat} {previous : Option Token} {cs ds : List Char}
    (h : Requoted depth previous cs ds) : Alike cs ds := by
  induction h with
  | nil => exact .stop ends_nil ends_nil
  | blank _ _ ih => exact ih.cons _
  | stuck => exact Alike.refl _
  | @token depth previous c cs ds token count _ _ _ ih =>
    have happend := ih.append (cs.take count)
    rw [List.take_append_drop] at happend
    exact happend.cons c
  | quoted _ hscan htext _ _ =>
    obtain ⟨quote, body, _, rfl, hquote, -⟩ := htext
    exact .quote (quoted_of_scan hscan).1 hquote _ _

/-- Quoted text is scanned as a string, whatever follows. -/
theorem IsQuoted.scan {text : List Char} (h : IsQuoted text) (depth : Nat) (previous : Option Token) (ds : List Char) :
    ∃ c body content, text = c :: body ∧ isBlank c = false ∧ isQuote c = true ∧
      Lexer.scan depth previous c (body ++ ds) = .ok (.string content, body.length) := by
  obtain ⟨quote, body, content, rfl, hquote, hrun⟩ := h
  have happend := (quotedRun_append hrun).2 ds
  rw [List.take_length] at happend
  refine ⟨quote, body, String.ofList content, rfl, ?_, hquote, ?_⟩
  · rcases isQuote_iff.1 hquote with rfl | rfl <;> decide
  · rw [Lexer.scan, if_pos (isQuote_iff.1 hquote), happend]
    rfl

theorem skeleton_of_isQuote {c : Char} (hc : isQuote c = true) (content : String) (gap cs : List Char) (offset : Nat) :
    (⟨.string content, gap, c :: cs, offset⟩ : Lexeme).skeleton = ⟨.string "", gap, ['"'], 0⟩ := by
  simp [Lexeme.skeleton, Token.skeleton, hc]

/-- Replacing quoted literals does not change the skeletons of the lexemes, by induction on the way of the lexer
through the text. -/
theorem lexFrom_requoted {depth : Nat} {previous : Option Token} {cs ds : List Char} (h : Requoted depth previous cs ds)
    (offset offset' : Nat) (gap : List Char) {previous' : Option Token}
    (hprevious : previous'.any Token.endsOperand = previous.any Token.endsOperand) :
    Corresponds (List.map Lexeme.skeleton) (List.map Lexeme.skeleton) (lexFrom offset' depth previous' gap ds)
      (lexFrom offset depth previous gap cs) := by
  induction h generalizing offset offset' gap previous' with
  | nil =>
    rw [lexFrom, lexFrom]
    exact .ok rfl
  | blank hblank h ih =>
    rw [lexFrom, lexFrom, if_pos hblank, if_pos hblank]
    exact ih _ _ _ hprevious
  | stuck hblank hscan =>
    rw [lexFrom, lexFrom, if_neg (by simp [hblank]), if_neg (by simp [hblank]), scan_previous hprevious, hscan]
    exact .error
  | @token depth previous c cs ds token count hblank hscan h ih =>
    obtain ⟨hcount, hscan'⟩ := scan_alike hprevious hscan h.alike
    have hlength : (cs.take count).length = count := List.length_take_of_le hcount
    rw [lexFrom_of_scan hblank (by rw [hlength, hscan']), lexFrom, if_neg (by simp [hblank]), hscan]
    refine (ih _ _ [] rfl).map fun ms ls hms => ?_
    rw [List.map_cons, List.map_cons, hms]
    rfl
  | @quoted depth previous c cs ds text content count hblank hscan htext h ih =>
    obtain ⟨quote, body, content', rfl, hblank', hquote, hscan'⟩ := htext.scan depth previous' ds
    rw [List.cons_append, lexFrom_of_scan hblank' hscan', lexFrom, if_neg (by simp [hblank]), hscan]
    refine (@ih _ _ [] (some (.string content')) rfl).map fun ms ls hms => ?_
    rw [List.map_cons, List.map_cons, hms, skeleton_of_isQuote hquote, skeleton_of_isQuote (quoted_of_scan hscan).1]

end Lexer

namespace Rule

theorem parse_corresponds {t t' : String} (h : Lexer.Requoted 0 none t.toList t'.toList) :
    Corresponds skeleton skeleton (parse t) (parse t') := by
  unfold parse
  refine (Lexer.lexFrom_requoted h 0 0 [] rfl).symm.bind fun ls ms hls => ?_
  have hrule := ofLexemes_skeleton (byteSize t.toList) 0 ls
  rw [hls] at hrule
  exact hrule.symm.trans (ofLexemes_skeleton (byteSize t'.toList) 0 ms)

/-- Replacing quoted literals of a text by others makes no rule of what is none, and of a rule only one that has
other text in the places of its string literals and list elements. -/
theorem parse_requoted {t t' : String} (h : Lexer.Requoted 0 none t.toList t'.toList) :
    ((∃ rule, parse t = .ok rule) ↔ ∃ rule, parse t' = .ok rule) ∧
      ∀ rule rule', parse t = .ok rule → parse t' = .ok rule' → rule.skeleton = rule'.skeleton :=
  ⟨(parse_corresponds h).exists_ok, fun _ _ hrule hrule' => (parse_corresponds h).eq_of_ok hrule hrule'⟩

/-- A list element may be replaced by a bracket, a keyword and a quote of the other kind. -/
theorem parse_requoted_membership :
    Lexer.Requoted 0 none "$.x IN['a']".toList "$.x IN[\"] OR 'null\"]".toList ∧
      (∃ rule, parse "$.x IN['a']" = .ok rule) ∧
      ((∃ rule, parse "$.x IN['a']" = .ok rule) ↔ ∃ rule, parse "$.x IN[\"] OR 'null\"]" = .ok rule) ∧
      ∀ rule rule', parse "$.x IN['a']" = .ok rule → parse "$.x IN[\"] OR 'null\"]" = .ok rule' →
        rule.skeleton = rule'.skeleton := by
  have hpath : Lexer.scan 0 none '$' ['.', 'x', ' ', 'I', 'N', '[', '\'', 'a', '\'', ']'] = .ok (.path "$.x", 2) := by
    decide +kernel
  have hin : Lexer.scan 0 (some (.path "$.x")) 'I' ['N', '[', '\'', 'a', '\'', ']'] = .ok (.word "IN", 1) := by
    decide +kernel
  have hopen : Lexer.scan 0 (some (.word "IN")) '[' ['\'', 'a', '\'', ']'] = .ok (.openBracket, 0) := by decide +kernel
  have hstring : Lexer.scan 0 (some .openBracket) '\'' ['a', '\'', ']'] = .ok (.string "a", 2) := by decide +kernel
  have hclose : Lexer.scan 0 (some (.string "a")) ']' [] = .ok (.closeBracket, 0) := by decide +kernel
  have hquoted : Lexer.IsQuoted "\"] OR 'null\"".toList :=
    ⟨'"', "] OR 'null\"".toList, "] OR 'null".toList, by decide +kernel, by decide, by decide +kernel⟩
  have hend : Lexer.Requoted 0 (some (.string "a")) [']'] [']'] := .token (by decide) hclose (.nil _ _)
  have hlist := Lexer.Requoted.quoted (by decide) hstring hquoted hend
  have hword := Lexer.Requoted.token (by decide) hin (.token (by decide) hopen hlist)
  have hrequoted := Lexer.Requoted.token (by decide) hpath (.blank (show isBlank ' ' = true by decide) hword)
  have haccepted : (parse "$.x IN['a']").toOption.any (fun _ => true) = true := by decide +kernel
  obtain ⟨rule, hrule, -⟩ := exists_eq_ok_of_any haccepted
  exact ⟨hrequoted, ⟨rule, hrule⟩, parse_requoted hrequoted⟩

end Rule

end PolicyEngine
