import PolicyEngine.Proofs.Rule.Lookahead
import PolicyEngine.Proofs.Rule.View

/-! Rules inside longer texts. What lexemes spell does not depend on where they stand or on the blanks before the
first of them, and the lexer gives the same lexemes wherever it comes to a text. -/
namespace PolicyEngine

open Text (isBlank)

/-! The view that leaves out the places alone -/

namespace View

def placeless : View := ⟨id, id⟩

theorem token_placeless (token : Token) : placeless.token token = token := by cases token <;> rfl

theorem operand_placeless (operand : Operand) : placeless.operand operand = operand := by
  cases operand with
  | literal v => cases v <;> rfl
  | list items => exact congrArg Operand.list (List.map_id items)
  | _ => rfl

theorem rule_placeless (rule : Rule) : placeless.rule rule = rule := by
  induction rule with
  | or left right ihLeft ihRight => rw [View.rule, ihLeft, ihRight]
  | set target value => rw [View.rule, operand_placeless]
  | conditional condition action ihCondition ihAction => rw [View.rule, ihCondition, ihAction]
  | nullCheck path negated => rfl
  | compare left op right => rw [View.rule, operand_placeless, operand_placeless]

theorem source_placeless (ls : List Lexeme) : Lexeme.source (ls.map placeless.lexeme) = Lexeme.source ls := by
  cases ls with
  | nil => rfl
  | cons first rest =>
    rw [List.map_cons, Lexeme.source, Lexeme.source, List.flatMap_map]
    rfl

theorem steady_placeless : placeless.Steady where
  content _ := rfl
  literal ls := by rw [Rule.literalOf, Rule.literalOf, source_placeless]
  element ls := by
    rcases ls with _ | ⟨⟨token, gap, text, offset⟩, _ | ⟨m, rest⟩⟩
    · rfl
    · cases token <;> rfl
    · cases token <;> exact congrArg String.ofList (source_placeless (⟨_, gap, text, offset⟩ :: m :: rest))

end View

/-! The blanks before the first lexeme -/

namespace Rule

theorem parseOperand_gap (stop : Nat) (bounded : Bool) (first : Lexeme) (gap : List Char) (others : List Lexeme) :
    parseOperand stop bounded ({ first with gap := gap } :: others) = parseOperand stop bounded (first :: others) := by
  obtain ⟨token, gap', text, offset⟩ := first
  by_cases hcall : (∃ name, token = .word name) ∧ nextToken others = some .openParen
  · obtain ⟨⟨name, rfl⟩, hparen⟩ := hcall
    cases others with
    | nil => cases hparen
    | cons l inner =>
      obtain ⟨paren, paddedGap, paddedText, paddedOffset⟩ := l
      cases hparen
      rfl
  · have hnot : ∀ gap, ∀ name gap' text' offset' gap'' text'' offset'' inner,
        (⟨token, gap, text, offset⟩ :: others : List Lexeme) =
          ⟨.word name, gap', text', offset'⟩ :: ⟨.openParen, gap'', text'', offset''⟩ :: inner → False := by
      intro gap name gap' text' offset' gap'' text'' offset'' inner heq
      cases heq
      exact hcall ⟨⟨name, rfl⟩, rfl⟩
    have hcut : (∀ gap, (if bounded then beforeComparison (⟨token, gap, text, offset⟩ :: others)
          else (⟨token, gap, text, offset⟩ :: others, [])) = ([], ⟨token, gap, text, offset⟩ :: others)) ∨
        ∃ more after, ∀ gap, (if bounded then beforeComparison (⟨token, gap, text, offset⟩ :: others)
          else (⟨token, gap, text, offset⟩ :: others, [])) = (⟨token, gap, text, offset⟩ :: more, after) := by
      cases bounded with
      | false => exact .inr ⟨others, [], fun _ => rfl⟩
      | true =>
        by_cases hstarts : startsComparison token (nextToken others) = true
        · exact .inl fun gap => by simp [beforeComparison, hstarts]
        · exact .inr ⟨_, _, fun gap => by simp only [beforeComparison, hstarts]; rfl⟩
    rw [parseOperand.eq_2 stop bounded _ (hnot gap), parseOperand.eq_2 stop bounded _ (hnot gap')]
    rcases hcut with hcut | ⟨more, after, hcut⟩
    · rw [hcut, hcut]
      rfl
    · rw [hcut, hcut]
      cases token <;> cases more <;> rfl

theorem parseComparison_gap (stop : Nat) (first : Lexeme) (gap : List Char) (others : List Lexeme) :
    parseComparison stop ({ first with gap := gap } :: others) = parseComparison stop (first :: others) := by
  rw [parseComparison, parseComparison, parseOperand_gap]

theorem nullCheckOf?_gap (first : Lexeme) (gap : List Char) (others : List Lexeme) :
    nullCheckOf? ({ first with gap := gap } :: others) = nullCheckOf? (first :: others) := by
  rcases others with _ | ⟨op, _ | ⟨null, _ | ⟨l, rest⟩⟩⟩ <;> rfl

/-- The first lexeme is never cut off with what stands before it, so its gap is nowhere in the text of an operand. -/
theorem ofLexemes_gap (stop : Nat) (first : Lexeme) (gap : List Char) (others : List Lexeme) :
    ofLexemes stop ({ first with gap := gap } :: others) = ofLexemes stop (first :: others) := by
  induction hn : others.length using Nat.strongRecOn generalizing stop others with
  | _ n ih =>
    simp only [ofLexemes_cons, splitAtWord_cons, true_and, nullCheckOf?_gap, parseComparison_gap]
    by_cases hor : first.token = .word "OR"
    · rw [if_pos hor, if_pos hor]
    · rw [if_neg hor, if_neg hor]
      cases hcut : splitAtWord "OR" (nesting 0 first.token) others with
      | none =>
        simp only [Option.map_none]
        split
        · rfl
        · split
          · next hif =>
            have hthen : first.token ≠ .word "THEN" := by simp [hif]
            rw [if_neg hthen, if_neg hthen]
            cases splitAtWord "THEN" (nesting 0 first.token) others <;> rfl
          · rfl
      | some cut =>
        obtain ⟨before, word, after⟩ := cut
        have hlength := length_splitAtWord hcut
        simp only [Option.map_some, List.isEmpty_cons, ih _ (by omega) _ before rfl]

end Rule

/-! Lexemes apart from the text around them -/

/-- Lexemes without their places, and without the blanks before the first. -/
def Lexeme.detached : List Lexeme → List Lexeme
  | [] => []
  | first :: rest => { View.placeless.lexeme first with gap := [] } :: rest.map View.placeless.lexeme

namespace Rule

theorem ofLexemes_detached (stop : Nat) (ls : List Lexeme) :
    Corresponds id id (ofLexemes 0 (Lexeme.detached ls)) (ofLexemes stop ls) := by
  have hview := ofLexemes_view stop 0 View.steady_placeless ls
  rw [funext View.rule_placeless] at hview
  cases ls with
  | nil => exact hview
  | cons first rest =>
    rw [Lexeme.detached, ofLexemes_gap]
    exact hview

/-- Lexemes that are the same apart from the text around them spell the same rule. -/
theorem ofLexemes_of_detached {stop stop' : Nat} {ls ls' : List Lexeme} {rule : Rule}
    (h : ofLexemes stop ls = .ok rule) (hdetached : Lexeme.detached ls' = Lexeme.detached ls) :
    ofLexemes stop' ls' = .ok rule := by
  have hboth : Corresponds id id (ofLexemes stop ls) (ofLexemes stop' ls') := by
    have hrule := ofLexemes_detached stop ls
    rw [← hdetached] at hrule
    exact hrule.symm.trans (ofLexemes_detached stop' ls')
  obtain ⟨rule', hrule', rfl⟩ := hboth.symm.exists_of_ok h
  exact hrule'

end Rule

namespace Lexeme

variable {ls ms : List Lexeme}

theorem token_detached (ls : List Lexeme) : (detached ls).map Lexeme.token = ls.map Lexeme.token := by
  cases ls with
  | nil => rfl
  | cons first rest =>
    rw [detached, List.map_cons, List.map_cons, List.map_map]
    exact congrArg₂ List.cons (View.token_placeless _) (List.map_congr_left fun l _ => View.token_placeless l.token)

theorem source_detached (ls : List Lexeme) : source (detached ls) = source ls := by
  cases ls with
  | nil => rfl
  | cons first rest => exact View.source_placeless (first :: rest)

theorem detached_append (hls : ls ≠ []) (others : List Lexeme) :
    detached (ls ++ others) = detached ls ++ others.map View.placeless.lexeme := by
  cases ls with
  | nil => exact absurd rfl hls
  | cons first rest =>
    rw [List.cons_append, detached, detached, List.map_append]
    rfl

theorem tokens_of_detached (h : detached ms = detached ls) : ms.map Lexeme.token = ls.map Lexeme.token := by
  rw [← token_detached, h, token_detached]

/-- Lexemes that are the same apart from the text around them come apart in the same way. -/
theorem of_detached_append {others : List Lexeme} (hls : ls ≠ []) (h : detached ms = detached (ls ++ others)) :
    ∃ ls' others', ms = ls' ++ others' ∧ detached ls' = detached ls ∧
      others'.map Lexeme.token = others.map Lexeme.token := by
  have htokens := tokens_of_detached h
  rw [List.map_append] at htokens
  obtain ⟨ls', others', rfl, hls', hothers⟩ := List.map_eq_append_iff.1 htokens
  refine ⟨ls', others', rfl, ?_, hothers⟩
  have hne : ls' ≠ [] := by
    rintro rfl
    exact hls (List.map_eq_nil_iff.1 hls'.symm)
  have hlength : (detached ls').length = (detached ls).length := by
    rw [← token_detached ls', ← token_detached ls] at hls'
    simpa using congrArg List.length hls'
  rw [detached_append hne, detached_append hls] at h
  exact (List.append_inj h hlength).1

end Lexeme

namespace Lexer

/-- Only a minus is read by what stands before it. -/
theorem scan_of_ne_minus {c : Char} (hminus : c ≠ '-') (depth : Nat) (previous previous' : Option Token)
    (rest : List Char) : scan depth previous' c rest = scan depth previous c rest := by
  simp [scan, number?, startsNumber, hminus]

theorem lexFrom_placeless (offset offset' depth : Nat) {previous previous' : Option Token}
    (hprevious : previous'.any Token.endsOperand = previous.any Token.endsOperand) (gap cs : List Char) :
    Corresponds (List.map View.placeless.lexeme) (List.map View.placeless.lexeme)
      (lexFrom offset' depth previous' gap cs) (lexFrom offset depth previous gap cs) := by
  induction offset, depth, previous, gap, cs using lexFrom.induct generalizing offset' previous' with
  | case1 offset depth previous gap =>
    rw [lexFrom, lexFrom]
    exact .ok rfl
  | case2 offset depth previous gap c rest hblank ih =>
    rw [lexFrom, lexFrom, if_pos hblank, if_pos hblank]
    exact ih _ hprevious
  | case3 offset depth previous gap c rest hblank fault hscan =>
    rw [lexFrom, lexFrom, if_neg hblank, if_neg hblank, scan_previous hprevious, hscan]
    exact .error
  | case4 offset depth previous gap c rest hblank token count hscan text ih =>
    rw [lexFrom, lexFrom, if_neg hblank, if_neg hblank, scan_previous hprevious, hscan]
    refine (ih _ rfl).map fun ms ls hms => ?_
    rw [List.map_cons, List.map_cons, hms]
    rfl

/-- A text is lexed alike behind any other, unless it starts with a minus that is a sign behind one of them alone. -/
theorem lexFrom_detached (offset offset' depth : Nat) (previous previous' : Option Token) (gap gap' : List Char)
    {cs : List Char} (hminus : (cs.dropWhile isBlank).head? = some '-' →
      previous'.any Token.endsOperand = previous.any Token.endsOperand) :
    Corresponds Lexeme.detached Lexeme.detached (lexFrom offset' depth previous' gap' cs)
      (lexFrom offset depth previous gap cs) := by
  induction cs generalizing offset offset' gap gap' with
  | nil =>
    rw [lexFrom, lexFrom]
    exact .ok rfl
  | cons c rest ih =>
    by_cases hblank : isBlank c = true
    · rw [lexFrom, lexFrom, if_pos hblank, if_pos hblank]
      refine ih _ _ _ _ ?_
      rwa [List.dropWhile_cons_of_pos hblank] at hminus
    · rw [List.dropWhile_cons_of_neg hblank, List.head?_cons, Option.some.injEq] at hminus
      have hscan : scan depth previous' c rest = scan depth previous c rest := by
        by_cases hc : c = '-'
        · exact scan_previous (hminus hc) c rest
        · exact scan_of_ne_minus hc depth previous previous' rest
      rw [lexFrom, lexFrom, if_neg hblank, if_neg hblank, hscan]
      cases scan depth previous c rest with
      | error fault => exact .error
      | ok found =>
        obtain ⟨token, count⟩ := found
        refine (lexFrom_placeless _ _ _ rfl [] _).map fun ms ls hms => ?_
        rw [Lexeme.detached, Lexeme.detached, hms]
        rfl

/-! Texts in front of others -/

/-- How many parentheses are open behind some tokens. -/
def depthBehind (depth : Nat) (ts : List Token) : Nat := ts.foldl depthAfter depth

theorem alike_append (cs : List Char) {ds : List Char} (h : Ends ds) : Alike cs (cs ++ ds) := by
  have happend := (Alike.stop ends_nil h).append cs
  rwa [List.append_nil] at happend

/-- Where no token goes on, a text may go on: the lexemes of its first part are not affected. -/
theorem lexFrom_append {offset depth : Nat} {previous : Option Token} {gap cs ds : List Char} {ls : List Lexeme}
    (h : lexFrom offset depth previous gap cs = .ok ls) (hends : Ends ds) :
    ∃ previous' gap', lexFrom offset depth previous gap (cs ++ ds) =
      (lexFrom (offset + byteSize cs) (depthBehind depth (ls.map Lexeme.token)) previous' gap' ds).map (ls ++ ·) := by
  induction offset, depth, previous, gap, cs using lexFrom.induct generalizing ls with
  | case1 offset depth previous gap =>
    rw [lexFrom] at h
    cases h
    refine ⟨previous, gap, ?_⟩
    cases hrest : lexFrom offset depth previous gap ds <;> simp [hrest, depthBehind, Except.map]
  | case2 offset depth previous gap c rest hblank ih =>
    rw [lexFrom, if_pos hblank] at h
    obtain ⟨previous', gap', hrest⟩ := ih h
    refine ⟨previous', gap', ?_⟩
    rw [List.cons_append, lexFrom, if_pos hblank, hrest, byteSize_cons, Nat.add_assoc]
  | case3 offset depth previous gap c rest hblank fault hscan =>
    rw [lexFrom, if_neg hblank, hscan] at h
    cases h
  | case4 offset depth previous gap c rest hblank token count hscan =>
    rename_i ih
    rw [lexFrom, if_neg hblank, hscan] at h
    obtain ⟨others, hothers, rfl⟩ := map_eq_ok_iff.1 h
    obtain ⟨previous', gap', hrest⟩ := ih hothers
    obtain ⟨hcount, hscan'⟩ := scan_alike rfl hscan (alike_append (rest.drop count) hends)
    have hlength : (rest.take count).length = count := List.length_take_of_le hcount
    have htext : c :: rest ++ ds = c :: (rest.take count ++ (rest.drop count ++ ds)) := by
      rw [← List.append_assoc, List.take_append_drop]
      rfl
    have hsize : offset + byteSize (c :: rest.take count) + byteSize (rest.drop count) =
        offset + byteSize (c :: rest) := by
      rw [Nat.add_assoc, ← byteSize_append, List.cons_append, List.take_append_drop]
    refine ⟨previous', gap', ?_⟩
    rw [htext, lexFrom_of_scan (by simpa using hblank) (by rw [hlength, hscan']), hrest, hsize, map_map]
    rfl

/-- The characters of lexemes, with the blanks before each. -/
def charsOf (ls : List Lexeme) : List Char := ls.flatMap fun l => l.gap ++ l.text

theorem lexFrom_blanks {blanks : List Char} (h : ∀ c ∈ blanks, isBlank c = true) (offset depth : Nat)
    (previous : Option Token) (gap cs : List Char) :
    lexFrom offset depth previous gap (blanks ++ cs) =
      lexFrom (offset + byteSize blanks) depth previous (gap ++ blanks) cs := by
  induction blanks generalizing offset gap with
  | nil => rw [List.append_nil]; rfl
  | cons c blanks ih =>
    rw [List.cons_append, lexFrom, if_pos (h c List.mem_cons_self), ih fun d hd => h d (List.mem_cons_of_mem _ hd),
      byteSize_cons, Nat.add_assoc, List.append_assoc]
    rfl

/-- The first lexeme: the token that is scanned behind the blanks. -/
theorem of_lexFrom_cons {offset depth : Nat} {previous : Option Token} {gap cs : List Char} {l : Lexeme}
    {ls : List Lexeme} (h : lexFrom offset depth previous gap cs = .ok (l :: ls)) :
    ∃ blanks c rest token count, cs = blanks ++ c :: rest ∧ (∀ b ∈ blanks, isBlank b = true) ∧ isBlank c = false ∧
      scan depth previous c rest = .ok (token, count) ∧
      l = ⟨token, gap ++ blanks, c :: rest.take count, offset + byteSize blanks⟩ ∧
      lexFrom (offset + byteSize blanks + byteSize (c :: rest.take count)) (depthAfter depth token) (some token) []
        (rest.drop count) = .ok ls := by
  induction cs generalizing offset gap with
  | nil =>
    rw [lexFrom] at h
    cases h
  | cons c rest ih =>
    by_cases hblank : isBlank c = true
    · rw [lexFrom, if_pos hblank] at h
      obtain ⟨blanks, d, rest', token, count, rfl, hblanks, hd, hscan, hl, hrest⟩ := ih h
      refine ⟨c :: blanks, d, rest', token, count, rfl, ?_, hd, hscan, ?_, ?_⟩
      · exact List.forall_mem_cons.2 ⟨hblank, hblanks⟩
      · rw [hl, List.append_assoc, byteSize_cons, Nat.add_assoc]
        rfl
      · rwa [byteSize_cons, ← Nat.add_assoc]
    · rw [lexFrom, if_neg hblank] at h
      cases hscan : scan depth previous c rest with
      | error fault =>
        rw [hscan] at h
        cases h
      | ok found =>
        obtain ⟨token, count⟩ := found
        rw [hscan] at h
        obtain ⟨others, hothers, heq⟩ := map_eq_ok_iff.1 h
        obtain ⟨rfl, rfl⟩ := List.cons.inj heq
        exact ⟨[], c, rest, token, count, rfl, by simp, by simpa using hblank, hscan, by simp, hothers⟩

/-- Each lexeme is scanned where it stands, with as many parentheses open as the tokens in front of it leave open. -/
theorem exists_scan {offset depth : Nat} {previous : Option Token} {gap cs : List Char} {before after : List Lexeme}
    {l : Lexeme} (h : lexFrom offset depth previous gap cs = .ok (before ++ l :: after)) :
    ∃ front c rest previous' count, cs = front ++ c :: rest ∧ isBlank c = false ∧ l.offset = offset + byteSize front ∧
      l.text = c :: rest.take count ∧
      scan (depthBehind depth (before.map Lexeme.token)) previous' c rest = .ok (l.token, count) := by
  induction before generalizing offset depth previous gap cs with
  | nil =>
    obtain ⟨blanks, c, rest, token, count, rfl, -, hc, hscan, rfl, -⟩ := of_lexFrom_cons h
    exact ⟨blanks, c, rest, previous, count, rfl, hc, rfl, rfl, hscan⟩
  | cons first before ih =>
    obtain ⟨blanks, c, rest, token, count, rfl, -, -, -, rfl, hrest⟩ := of_lexFrom_cons h
    obtain ⟨front, d, others, previous', count', hdrop, hd, hoffset, htext, hscan⟩ := ih hrest
    refine ⟨blanks ++ c :: rest.take count ++ front, d, others, previous', count', ?_, hd, ?_, htext, hscan⟩
    · rw [List.append_assoc, ← hdrop, List.append_assoc, List.cons_append, List.take_append_drop]
    · rw [hoffset, byteSize_append, byteSize_append]
      omega

/-- Lexemes stand in a text one behind the other, so that the text comes apart where they do. -/
theorem lexFrom_unappend {offset depth : Nat} {previous : Option Token} {gap cs : List Char} {ls others : List Lexeme}
    (hgap : ls = [] → gap = []) (h : lexFrom offset depth previous gap cs = .ok (ls ++ others)) :
    ∃ front back offset' previous', cs = front ++ back ∧ gap ++ front = charsOf ls ∧
      lexFrom offset' (depthBehind depth (ls.map Lexeme.token)) previous' [] back = .ok others ∧
      (Ends back → lexFrom offset depth previous gap front = .ok ls) := by
  induction ls generalizing offset depth previous gap cs with
  | nil =>
    obtain rfl := hgap rfl
    exact ⟨[], cs, offset, previous, rfl, rfl, h, fun _ => by rw [lexFrom]⟩
  | cons l ls ih =>
    obtain ⟨blanks, c, rest, token, count, rfl, hblanks, hc, hscan, rfl, hrest⟩ := of_lexFrom_cons h
    obtain ⟨front, back, offset', previous', hdrop, hfront, hothers, hends⟩ := ih (fun _ => rfl) hrest
    refine ⟨blanks ++ c :: (rest.take count ++ front), back, offset', previous', ?_, ?_, hothers, fun hback => ?_⟩
    · rw [List.append_assoc, List.cons_append, List.append_assoc, ← hdrop, List.take_append_drop]
    · rw [charsOf, List.flatMap_cons]
      change _ = _ ++ charsOf ls
      rw [← hfront]
      simp
    · have halike : Alike (rest.drop count) front := by
        have happend := (Alike.stop hback ends_nil).append front
        rwa [List.append_nil, ← hdrop] at happend
      obtain ⟨hcount, hscan'⟩ := scan_alike rfl hscan halike
      have hlength : (rest.take count).length = count := List.length_take_of_le hcount
      rw [lexFrom_blanks hblanks, lexFrom_of_scan hc (by rw [hlength, hscan']), hends hback]
      rfl

theorem charsOf_cons (l : Lexeme) (ls : List Lexeme) : charsOf (l :: ls) = l.gap ++ Lexeme.source (l :: ls) := by
  rw [charsOf, List.flatMap_cons, Lexeme.source, List.append_assoc]

/-- Lexemes that spell the first part of a text are what this part is lexed as. -/
theorem lexFrom_left {offset depth : Nat} {previous : Option Token} {gap cs ds : List Char} {ls others : List Lexeme}
    (hls : ls ≠ []) (hsource : Lexeme.source ls = cs)
    (h : lexFrom offset depth previous gap (cs ++ ds) = .ok (ls ++ others)) :
    ∃ offset' previous', lexFrom offset' (depthBehind depth (ls.map Lexeme.token)) previous' [] ds = .ok others ∧
      (Ends ds → lexFrom offset depth previous gap cs = .ok ls) := by
  obtain ⟨front, back, offset', previous', htext, hfront, hothers, hends⟩ := lexFrom_unappend (absurd · hls) h
  obtain ⟨l, ls, rfl⟩ := List.exists_cons_of_ne_nil hls
  obtain ⟨blanks, c, rest, token, count, hstart, hblanks, hc, -, rfl, -⟩ := of_lexFrom_cons h
  -- the text starts with the unblank character of the first lexeme, so that no blanks stand in front of it
  have hblank : blanks = [] := by
    cases blanks with
    | nil => rfl
    | cons b blanks =>
      rw [← hsource] at hstart
      have hb := hblanks b List.mem_cons_self
      rw [← (List.cons.inj hstart).1, hc] at hb
      cases hb
  subst hblank
  rw [charsOf_cons, hsource, List.append_nil] at hfront
  obtain rfl := List.append_cancel_left hfront
  obtain rfl := List.append_cancel_left htext
  exact ⟨offset', previous', hothers, hends⟩

end Lexer

end PolicyEngine
