import PolicyEngine.Proofs.Rule.View

/-! Rules and lexemes without what stands in quotes. The skeleton of a rule depends on the skeletons of its lexemes
alone, so that no part of the parser takes quoted text for anything else. -/
namespace PolicyEngine

open Value (isQuote)

/-- A token without quoted text. -/
def Token.skeleton : Token → Token
  | string _ => string ""
  | token => token

/-- A lexeme without its place, and without its characters where there is a quote among them. -/
def Lexeme.skeleton (l : Lexeme) : Lexeme :=
  ⟨l.token.skeleton, l.gap, if l.text.any isQuote then ['"'] else l.text, 0⟩

/-- An operand with empty texts for its string literal or the elements of its list. -/
def Operand.skeleton : Operand → Operand
  | .literal (.string _) => .literal (.string "")
  | .list items => .list (items.map fun _ => "")
  | operand => operand

/-- A rule with empty texts for its string literals and the elements of its lists. -/
def Rule.skeleton : Rule → Rule
  | .or left right => .or left.skeleton right.skeleton
  | .set target value => .set target value.skeleton
  | .conditional condition action => .conditional condition.skeleton action.skeleton
  | .nullCheck path negated => .nullCheck path negated
  | .compare left op right => .compare left.skeleton op right.skeleton

/-! Literals with quotes -/

namespace Number

variable {c : Char} {cs : List Char}

theorem mem_takeSign_of_isQuote (hc : isQuote c = true) (h : c ∈ cs) : c ∈ (takeSign cs).2 := by
  unfold takeSign
  split
  · exact (List.mem_cons.1 h).resolve_left (by rintro rfl; exact absurd hc (by decide))
  · exact (List.mem_cons.1 h).resolve_left (by rintro rfl; exact absurd hc (by decide))
  · exact h

theorem mem_digitRun_of_isQuote (hc : isQuote c = true) (h : c ∈ cs) : c ∈ (digitRun cs).2 := by
  rw [← digitRun_append cs, List.mem_append] at h
  refine h.resolve_left fun hdigit => ?_
  have := isDigit_of_mem_digitRun hdigit
  rw [Lexer.isDigit_of_isQuote hc] at this
  cases this

theorem mem_takeFraction_of_isQuote (hc : isQuote c = true) (h : c ∈ cs) : c ∈ (takeFraction cs).2 := by
  unfold takeFraction
  split
  · refine mem_digitRun_of_isQuote hc ((List.mem_cons.1 h).resolve_left ?_)
    rintro rfl
    exact absurd hc (by decide)
  · exact h

theorem exponentOf?_of_isQuote (hc : isQuote c = true) (h : c ∈ cs) : exponentOf? cs = none := by
  cases cs with
  | nil => cases h
  | cons e cs =>
    rw [exponentOf?]
    split
    · next he =>
      have hmem : c ∈ (takeSign cs).2 := by
        refine mem_takeSign_of_isQuote hc ((List.mem_cons.1 h).resolve_left ?_)
        rintro rfl
        rcases he with rfl | rfl <;> exact absurd hc (by decide)
      have hdigits : (takeSign cs).2.all Char.isDigit = false := by
        rw [List.all_eq_false]
        exact ⟨c, hmem, by rw [Lexer.isDigit_of_isQuote hc]; decide⟩
      simp [hdigits]
    · rfl

/-- No text with a quote in it is a number. -/
theorem ofText?_of_isQuote (hc : isQuote c = true) (h : c ∈ cs) : ofText? (String.ofList cs) = none := by
  have hnone : Decimal.ofText? cs = none := by
    have hmem := mem_takeFraction_of_isQuote hc (mem_digitRun_of_isQuote hc (mem_takeSign_of_isQuote hc h))
    unfold Decimal.ofText?
    simp only [exponentOf?_of_isQuote hc hmem]
    simp
  unfold ofText?
  rw [String.toList_ofList, hnone]
  rfl

end Number

/-- A literal with a quote in it is none of the words that stand for other values. -/
theorem Value.ofLiteral_of_isQuote {c : Char} {cs : List Char} (hc : isQuote c = true) (h : c ∈ cs) :
    ∃ text, ofLiteral (String.ofList cs) = .string text := by
  have hplain : ∀ texts : List String, (∀ text ∈ texts, ∀ d ∈ text.toList, isQuote d = false) →
      String.ofList cs ∉ texts := by
    intro texts htexts hmem
    have hd := htexts _ hmem c (by rwa [String.toList_ofList])
    rw [hc] at hd
    cases hd
  have hnull : String.ofList cs ≠ "null" := fun heq => hplain ["null"] (by decide) (List.mem_singleton.2 heq)
  have hbool : boolOfText? (String.ofList cs) = none := by
    rw [boolOfText?, if_neg (hplain _ (by decide)), if_neg (hplain _ (by decide))]
  unfold ofLiteral
  rw [if_neg hnull, Number.ofText?_of_isQuote hc h, hbool]
  exact ⟨_, rfl⟩

namespace Rule

open Lexeme (source)

theorem source_skeleton_of_plain {ls : List Lexeme} (h : ∀ l ∈ ls, l.text.any isQuote = false) :
    source (ls.map Lexeme.skeleton) = source ls := by
  have htext : ∀ l ∈ ls, l.skeleton.text = l.text := by
    intro l hl
    rw [Lexeme.skeleton, h l hl]
    rfl
  cases ls with
  | nil => rfl
  | cons first rest =>
    have hrest : (rest.map Lexeme.skeleton).flatMap (fun l => l.gap ++ l.text) =
        rest.flatMap fun l => l.gap ++ l.text := by
      rw [List.flatMap_map, List.flatMap_def, List.flatMap_def]
      refine congrArg List.flatten (List.map_congr_left fun l hl => ?_)
      rw [htext l (List.mem_cons_of_mem _ hl)]
      rfl
    rw [List.map_cons, source, source, htext first List.mem_cons_self, hrest]

theorem mem_source {ls : List Lexeme} {l : Lexeme} {c : Char} (hl : l ∈ ls) (hc : c ∈ l.text) : c ∈ source ls := by
  cases ls with
  | nil => cases hl
  | cons first rest =>
    rcases List.mem_cons.1 hl with rfl | hl
    · exact List.mem_append_left _ hc
    · exact List.mem_append_right _ (List.mem_flatMap.2 ⟨l, hl, List.mem_append_right _ hc⟩)

theorem literalOf_of_isQuote {ls : List Lexeme} {l : Lexeme} (hl : l ∈ ls) (h : l.text.any isQuote = true) :
    (literalOf ls).skeleton = .literal (.string "") := by
  obtain ⟨c, hmem, hc⟩ := List.any_eq_true.1 h
  obtain ⟨text, htext⟩ := Value.ofLiteral_of_isQuote hc (mem_source hl hmem)
  rw [literalOf, htext, Operand.skeleton]

/-- A bare literal with a quote in it is a text, whatever is quoted. -/
theorem literalOf_skeleton (ls : List Lexeme) :
    (literalOf (ls.map Lexeme.skeleton)).skeleton = (literalOf ls).skeleton := by
  by_cases h : ∃ l ∈ ls, l.text.any isQuote = true
  · obtain ⟨l, hl, hquote⟩ := h
    have hskeleton : l.skeleton.text.any isQuote = true := by
      rw [Lexeme.skeleton, if_pos hquote]
      rfl
    rw [literalOf_of_isQuote hl hquote, literalOf_of_isQuote (List.mem_map_of_mem hl) hskeleton]
  · have hplain : ∀ l ∈ ls, l.text.any isQuote = false := by
      intro l hl
      cases hquote : l.text.any isQuote with
      | false => rfl
      | true => exact absurd ⟨l, hl, hquote⟩ h
    rw [literalOf, literalOf, source_skeleton_of_plain hplain]

end Rule

/-! The view of skeletons -/

namespace View

def quoteless : View := ⟨fun _ => "", fun text => if text.any isQuote then ['"'] else text⟩

theorem lexeme_quoteless (l : Lexeme) : quoteless.lexeme l = l.skeleton := by
  obtain ⟨token, gap, text, offset⟩ := l
  cases token <;> rfl

theorem operand_quoteless (operand : Operand) : quoteless.operand operand = operand.skeleton := by
  cases operand with
  | literal v => cases v <;> rfl
  | _ => rfl

theorem rule_quoteless (rule : Rule) : quoteless.rule rule = rule.skeleton := by
  induction rule with
  | or left right ihLeft ihRight => rw [View.rule, Rule.skeleton, ihLeft, ihRight]
  | set target value => rw [View.rule, Rule.skeleton, operand_quoteless]
  | conditional condition action ihCondition ihAction => rw [View.rule, Rule.skeleton, ihCondition, ihAction]
  | nullCheck path negated => rfl
  | compare left op right => rw [View.rule, Rule.skeleton, operand_quoteless, operand_quoteless]

theorem steady_quoteless : quoteless.Steady where
  content _ := rfl
  literal ls := by
    rw [operand_quoteless, operand_quoteless, funext lexeme_quoteless, Rule.literalOf_skeleton]
  element _ := rfl

end View

/-- The skeleton of a rule is that of the rule which the skeletons of its lexemes spell. -/
theorem Rule.ofLexemes_skeleton (stop stop' : Nat) (ls : List Lexeme) :
    Corresponds skeleton skeleton (ofLexemes stop' (ls.map Lexeme.skeleton)) (ofLexemes stop ls) := by
  have hview := ofLexemes_view stop stop' View.steady_quoteless ls
  rwa [funext View.lexeme_quoteless, funext View.rule_quoteless] at hview

end PolicyEngine
