import PolicyEngine.Proofs.Outcomes
import PolicyEngine.Proofs.Rule.Canonical

/-! Lexemes as they are seen without their places, and perhaps without what stands in quotes. The parser makes of the
views what it makes of the lexemes, as far as a view shows it; so its results do not depend on what is left out. -/
namespace PolicyEngine

/-- What is seen of the content of a quoted text, and of the characters of a lexeme. -/
structure View where
  content : String → String
  chars : List Char → List Char

namespace View

def token (v : View) : Token → Token
  | .string content => .string (v.content content)
  | token => token

/-- A lexeme without its place. -/
def lexeme (v : View) (l : Lexeme) : Lexeme := ⟨v.token l.token, l.gap, v.chars l.text, 0⟩

def operand (v : View) : Operand → Operand
  | .literal (.string content) => .literal (.string (v.content content))
  | .list items => .list (items.map v.content)
  | operand => operand

def rule (v : View) : Rule → Rule
  | .or left right => .or (v.rule left) (v.rule right)
  | .set target value => .set target (v.operand value)
  | .conditional condition action => .conditional (v.rule condition) (v.rule action)
  | .nullCheck path negated => .nullCheck path negated
  | .compare left op right => .compare (v.operand left) op (v.operand right)

/-- A view shows the same of bare literals and of list elements, whether they are read from lexemes or from views. -/
structure Steady (v : View) : Prop where
  content (s : String) : v.content (v.content s) = v.content s
  literal (ls : List Lexeme) : v.operand (Rule.literalOf (ls.map v.lexeme)) = v.operand (Rule.literalOf ls)
  element (ls : List Lexeme) : v.content (Rule.elementText (ls.map v.lexeme)) = v.content (Rule.elementText ls)

variable {v : View}

theorem token_eq_iff {t token : Token} (h : ∀ content, token ≠ .string content) : v.token t = token ↔ t = token := by
  cases t with
  | string content => exact ⟨fun heq => absurd heq.symm (h _), fun heq => absurd heq.symm (h _)⟩
  | _ => exact Iff.rfl

theorem map_token_eq_some_iff {next : Option Token} {token : Token} (h : ∀ content, token ≠ .string content) :
    next.map v.token = some token ↔ next = some token := by
  cases next with
  | none => exact ⟨nofun, nofun⟩
  | some t => rw [Option.map_some, Option.some.injEq, Option.some.injEq, token_eq_iff h]

end View

namespace Rule

variable {v : View}

/-! Steps of the parser -/

theorem nextToken_view (ls : List Lexeme) :
    nextToken (ls.map v.lexeme) = (nextToken ls).map v.token := by
  cases ls <;> rfl

theorem of_map_lexeme {ls rest : List Lexeme} {token : Token} {gap text : List Char} {offset : Nat}
    (htoken : ∀ content, token ≠ .string content) (h : ls.map v.lexeme = ⟨token, gap, text, offset⟩ :: rest) :
    ∃ gap' text' offset' rest', ls = ⟨token, gap', text', offset'⟩ :: rest' ∧ rest'.map v.lexeme = rest := by
  obtain ⟨l, rest', rfl, hl, hrest⟩ := List.map_eq_cons_iff.1 h
  have hl' : l.token = token := (View.token_eq_iff htoken).1 (congrArg Lexeme.token hl)
  subst hl'
  exact ⟨l.gap, l.text, l.offset, rest', rfl, hrest⟩

/-- Lexemes that start no call still start none without their quoted text. -/
theorem not_call_view {ls : List Lexeme}
    (h : ∀ name gap text offset gap' text' offset' inner,
      ls = ⟨.word name, gap, text, offset⟩ :: ⟨.openParen, gap', text', offset'⟩ :: inner → False) :
    ∀ name gap text offset gap' text' offset' inner,
      ls.map v.lexeme = ⟨.word name, gap, text, offset⟩ :: ⟨.openParen, gap', text', offset'⟩ :: inner →
        False := by
  intro name gap text offset gap' text' offset' inner heq
  obtain ⟨_, _, _, rest, rfl, hrest⟩ := of_map_lexeme (by simp) heq
  obtain ⟨_, _, _, rest, rfl, -⟩ := of_map_lexeme (by simp) hrest
  exact h _ _ _ _ _ _ _ _ rfl

theorem arithOp?_view (ls : List Lexeme) :
    arithOp? (nextToken (ls.map v.lexeme)) = arithOp? (nextToken ls) := by
  rw [nextToken_view]
  cases nextToken ls with
  | none => rfl
  | some token => cases token <;> rfl

theorem pathOf_corresponds (text : String) (offset offset' : Nat) :
    Corresponds id id (pathOf text offset') (pathOf text offset) := by
  unfold pathOf
  cases Path.parse text with
  | error fault => exact .error
  | ok p => exact .ok rfl

theorem numberOf_corresponds (text : String) (offset offset' : Nat) :
    Corresponds id id (numberOf text offset') (numberOf text offset) := by
  unfold numberOf
  cases Number.ofText? text with
  | none => exact .error
  | some x => exact .ok rfl

variable (stop stop' : Nat)

theorem expect_view {token : Token} (htoken : ∀ content, token ≠ .string content) (ls : List Lexeme) :
    Corresponds (·.1) (·.1.map v.lexeme) (expect stop' token (ls.map v.lexeme))
      (expect stop token ls) := by
  cases ls with
  | nil => exact .error
  | cons l rest =>
    have hiff : (v.lexeme l).token = token ↔ l.token = token := View.token_eq_iff htoken
    rw [List.map_cons, expect, expect]
    by_cases h : l.token = token
    · rw [if_pos h, if_pos (hiff.2 h)]
      exact .ok rfl
    · rw [if_neg h, if_neg (mt hiff.1 h)]
      exact .error

theorem takePath_view (ls : List Lexeme) :
    Corresponds (Prod.map id (·.1)) (Prod.map id (·.1.map v.lexeme))
      (takePath stop' (ls.map v.lexeme)) (takePath stop ls) := by
  cases ls with
  | nil => exact .error
  | cons l rest =>
    obtain ⟨token, gap, text, offset⟩ := l
    cases token with
    | path text =>
      refine (pathOf_corresponds text offset 0).map ?_
      rintro p _ rfl
      rfl
    | _ => exact .error

/-- A call is read alike where the terms inside it are. -/
theorem parseCall_view_of_terms {ls : List Lexeme}
    (hterm : ∀ inner : List Lexeme, inner.length ≤ ls.length →
      Corresponds (Prod.map id (·.1)) (Prod.map id (·.1.map v.lexeme))
        (parseTerm stop' (inner.map v.lexeme)) (parseTerm stop inner))
    (name : String) (offset offset' : Nat) :
    Corresponds (Prod.map id (·.1)) (Prod.map id (·.1.map v.lexeme))
      (parseCall stop' name offset' (ls.map v.lexeme)) (parseCall stop name offset ls) := by
  rw [parseCall, parseCall]
  split
  · refine (hterm ls (Nat.le_refl _)).bind ?_
    rintro ⟨first, after, hafter⟩ ⟨first', after', hafter'⟩ heq
    obtain ⟨rfl, rfl⟩ : first = first' ∧ after = after'.map v.lexeme := Prod.mk.inj heq
    simp only [arithOp?_view]
    split
    · refine (expect_view stop stop' (by simp) after').bind ?_
      rintro ⟨rest, _⟩ ⟨rest', _⟩ rfl
      exact .ok rfl
    · have htail : after'.tail.length ≤ after'.length := by simp
      have hsecond := hterm after'.tail (by omega)
      rw [List.map_tail] at hsecond
      refine hsecond.bind ?_
      rintro ⟨second, rest, hrest⟩ ⟨second', rest', hrest'⟩ heq
      obtain ⟨rfl, rfl⟩ : second = second' ∧ rest = rest'.map v.lexeme := Prod.mk.inj heq
      refine (expect_view stop stop' (by simp) rest').bind ?_
      rintro ⟨rest, _⟩ ⟨rest', _⟩ rfl
      exact .ok rfl
  · split
    · refine (takePath_view stop stop' ls).bind ?_
      rintro ⟨p, rest, hrest⟩ ⟨p', rest', hrest'⟩ heq
      obtain ⟨rfl, rfl⟩ : p = p' ∧ rest = rest'.map v.lexeme := Prod.mk.inj heq
      refine (expect_view stop stop' (by simp) rest').bind ?_
      rintro ⟨rest, _⟩ ⟨rest', _⟩ rfl
      exact .ok rfl
    · exact .error

/-- A term is read alike where the calls inside it are. -/
theorem parseTerm_view_of_calls {ls : List Lexeme}
    (hcall : ∀ inner : List Lexeme, inner.length + 2 ≤ ls.length → ∀ name offset offset',
      Corresponds (Prod.map id (·.1)) (Prod.map id (·.1.map v.lexeme))
        (parseCall stop' name offset' (inner.map v.lexeme)) (parseCall stop name offset inner)) :
    Corresponds (Prod.map id (·.1)) (Prod.map id (·.1.map v.lexeme))
      (parseTerm stop' (ls.map v.lexeme)) (parseTerm stop ls) := by
  rw [parseTerm.eq_def stop]
  split
  · next name gap text offset gap' text' offset' inner =>
    rw [List.map_cons, List.map_cons, parseTerm.eq_def]
    refine (hcall inner (by simp) name offset 0).map ?_
    rintro ⟨operand, rest⟩ ⟨operand', rest'⟩ heq
    exact heq
  · next text gap chars offset rest =>
    rw [List.map_cons, parseTerm.eq_def]
    refine (pathOf_corresponds text offset 0).map ?_
    rintro p _ rfl
    rfl
  · next text gap chars offset rest =>
    rw [List.map_cons, parseTerm.eq_def]
    refine (numberOf_corresponds text offset 0).map ?_
    rintro p _ rfl
    rfl
  · next hnocall hpath hnumber =>
    rw [parseTerm.eq_4 stop' _ (not_call_view hnocall)]
    · exact .error
    · intro text gap chars offset rest heq
      obtain ⟨_, _, _, rest, rfl, -⟩ := of_map_lexeme (by simp) heq
      exact hpath _ _ _ _ _ rfl
    · intro text gap chars offset rest heq
      obtain ⟨_, _, _, rest, rfl, -⟩ := of_map_lexeme (by simp) heq
      exact hnumber _ _ _ _ _ rfl

/-- Calls and their terms hold no quoted text, by induction on the lexemes left: a call has its first term at the
lexemes where it starts itself, a term has a call two lexemes further on. -/
theorem parseCall_view (ls : List Lexeme) (name : String) (offset offset' : Nat) :
    Corresponds (Prod.map id (·.1)) (Prod.map id (·.1.map v.lexeme))
      (parseCall stop' name offset' (ls.map v.lexeme)) (parseCall stop name offset ls) := by
  refine parseCall_view_of_terms stop stop' (fun inner hinner => ?_) name offset offset'
  refine parseTerm_view_of_calls stop stop' fun deeper hdeeper name offset offset' => ?_
  exact parseCall_view deeper name offset offset'
termination_by ls.length

/-! Operands -/

theorem startsComparison_view (token : Token) (next : Option Token) :
    startsComparison (v.token token) (next.map v.token) = startsComparison token next := by
  cases token with
  | word text =>
    unfold startsComparison
    simp only [View.token, @View.map_token_eq_some_iff v _ (.word "IN") (by simp)]
  | _ => rfl

theorem beforeComparison_view (ls : List Lexeme) :
    beforeComparison (ls.map v.lexeme) =
      Prod.map (List.map v.lexeme) (List.map v.lexeme) (beforeComparison ls) := by
  induction ls with
  | nil => rfl
  | cons l rest ih =>
    have hstarts : startsComparison (v.lexeme l).token (nextToken (rest.map v.lexeme)) =
        startsComparison l.token (nextToken rest) := by
      rw [nextToken_view]
      exact startsComparison_view l.token _
    rw [List.map_cons, beforeComparison, beforeComparison, hstarts, ih]
    split <;> rfl

theorem parseOperand_view (hv : v.Steady) (bounded : Bool) (ls : List Lexeme) :
    Corresponds (Prod.map v.operand id) (Prod.map v.operand (List.map v.lexeme))
      (parseOperand stop' bounded (ls.map v.lexeme)) (parseOperand stop bounded ls) := by
  have hcut : (if bounded then beforeComparison (ls.map v.lexeme) else (ls.map v.lexeme, [])) =
      Prod.map (List.map v.lexeme) (List.map v.lexeme)
        (if bounded then beforeComparison ls else (ls, [])) := by
    cases bounded with
    | true => exact beforeComparison_view ls
    | false => rfl
  rw [parseOperand.eq_def stop]
  split
  · next name gap text offset gap' text' offset' inner =>
    refine (parseCall_view stop stop' inner name offset 0).map ?_
    rintro ⟨operand, rest⟩ ⟨operand', rest'⟩ heq
    obtain ⟨rfl, hrest⟩ := Prod.mk.inj heq
    exact Prod.ext rfl hrest
  · next hcall =>
    rw [parseOperand.eq_2 stop' bounded _ (not_call_view hcall), hcut]
    generalize (if bounded then beforeComparison ls else (ls, [])) = cut
    obtain ⟨extent, others⟩ := cut
    have hliteral : Corresponds (Prod.map v.operand id)
        (Prod.map v.operand (List.map v.lexeme))
        (.ok (literalOf (extent.map v.lexeme), others.map v.lexeme) : Except ParseError _)
        (.ok (literalOf extent, others) : Except ParseError _) := .ok (Prod.ext (hv.literal extent) rfl)
    cases extent with
    | nil => exact .error
    | cons l more =>
      obtain ⟨token, gap, text, offset⟩ := l
      cases token with
      | path text =>
        refine (pathOf_corresponds text offset 0).map ?_
        rintro p _ rfl
        exact Prod.ext rfl List.map_tail.symm
      | number text =>
        cases more with
        | nil =>
          refine (numberOf_corresponds text offset 0).map ?_
          rintro x _ rfl
          rfl
        | cons m more => exact hliteral
      | string content =>
        cases more with
        | nil => exact .ok (by simp only [Prod.map, View.operand, hv.content]; rfl)
        | cons m more => exact hliteral
      | _ => exact hliteral

theorem parseCompareOp_not (stop : Nat) {l : Lexeme} (rest : List Lexeme) (h : l.token = .word "NOT") :
    parseCompareOp stop (l :: rest) =
      if nextToken rest = some (.word "IN") then .ok (.notMemberOf, rest.tail)
      else failExpected stop .memberKeyword rest := by
  rw [parseCompareOp, nextToken, h]
  rfl

theorem parseCompareOp_word (stop : Nat) {l : Lexeme} {text : String} (rest : List Lexeme) (h : l.token = .word text)
    (hin : text ≠ "IN") (hnot : text ≠ "NOT") :
    parseCompareOp stop (l :: rest) = failExpected stop .comparison (l :: rest) := by
  rw [parseCompareOp, nextToken, h]
  split <;> simp_all

theorem parseCompareOp_view (ls : List Lexeme) :
    Corresponds id (Prod.map id (List.map v.lexeme)) (parseCompareOp stop' (ls.map v.lexeme))
      (parseCompareOp stop ls) := by
  cases ls with
  | nil => exact .error
  | cons l rest =>
    obtain ⟨token, gap, text, offset⟩ := l
    cases token with
    | word text =>
      by_cases hin : text = "IN"
      · subst hin
        exact .ok rfl
      · by_cases hnot : text = "NOT"
        · subst hnot
          rw [List.map_cons, parseCompareOp_not stop' _ rfl, parseCompareOp_not stop _ rfl]
          simp only [nextToken_view, @View.map_token_eq_some_iff v _ (.word "IN") (by simp)]
          split
          · exact .ok (Prod.ext rfl List.map_tail.symm)
          · exact .error
        · rw [List.map_cons, parseCompareOp_word stop' _ rfl hin hnot, parseCompareOp_word stop _ rfl hin hnot]
          exact .error
    | _ => first
      | exact .error
      | exact .ok rfl

/-! Lists -/

theorem endsElement_view (token : Token) : endsElement (v.token token) = endsElement token := by
  cases token <;> rfl

/-- Lists are read element by element, up to a comma or the closing bracket. -/
theorem parseElements_eq (stop : Nat) (ls : List Lexeme) :
    parseElements stop ls =
      let element := ls.takeWhile fun l => !endsElement l.token
      if element.isEmpty then failExpected stop .listElement ls
      else match ls.dropWhile fun l => !endsElement l.token with
        | [] => failExpected stop .listSeparator []
        | l :: rest =>
          if l.token = .comma then
            (parseElements stop rest).map fun (items, after) => (elementText element :: items, after)
          else .ok ([elementText element], rest) := by
  rw [parseElements]
  dsimp only
  split
  · rfl
  · split
    · next hrest => rw [hrest]
    · next hrest => rw [hrest]

theorem parseElements_view (hv : v.Steady) (ls : List Lexeme) :
    Corresponds (Prod.map (List.map v.content) id) (Prod.map (List.map v.content) (List.map v.lexeme))
      (parseElements stop' (ls.map v.lexeme)) (parseElements stop ls) := by
  have hends : (fun l : Lexeme => !endsElement l.token) ∘ v.lexeme = fun l => !endsElement l.token :=
    funext fun l => congrArg not (endsElement_view l.token)
  induction ls using parseElements.induct with
  | case1 ls element hempty =>
    rw [parseElements_eq, parseElements_eq, List.takeWhile_map, hends]
    simp only [List.isEmpty_map]
    rw [if_pos hempty, if_pos hempty]
    exact .error
  | case2 ls element hnonempty hrest =>
    rw [parseElements_eq, parseElements_eq, List.takeWhile_map, List.dropWhile_map, hends, hrest]
    simp only [List.isEmpty_map]
    rw [if_neg hnonempty, if_neg hnonempty]
    exact .error
  | case3 ls element hnonempty l rest hrest hcomma ih =>
    have hcomma' : (v.lexeme l).token = .comma := (View.token_eq_iff (by simp)).2 hcomma
    rw [parseElements_eq, parseElements_eq, List.takeWhile_map, List.dropWhile_map, hends, hrest]
    simp only [List.isEmpty_map, List.map_cons]
    rw [if_neg hnonempty, if_neg hnonempty, if_pos hcomma, if_pos hcomma']
    refine ih.map ?_
    rintro ⟨items, after⟩ ⟨items', after'⟩ heq
    obtain ⟨hitems, hafter⟩ := Prod.mk.inj heq
    exact Prod.ext (congrArg₂ List.cons (hv.element _) hitems) hafter
  | case4 ls element hnonempty l rest hrest hcomma =>
    have hcomma' : (v.lexeme l).token ≠ .comma := mt (View.token_eq_iff (by simp)).1 hcomma
    rw [parseElements_eq, parseElements_eq, List.takeWhile_map, List.dropWhile_map, hends, hrest]
    simp only [List.isEmpty_map, List.map_cons]
    rw [if_neg hnonempty, if_neg hnonempty, if_neg hcomma, if_neg hcomma']
    exact .ok (Prod.ext (congrArg (fun item => [item]) (hv.element _)) rfl)

theorem parseList_view (hv : v.Steady) (ls : List Lexeme) :
    Corresponds (Prod.map v.operand id) (Prod.map v.operand (List.map v.lexeme))
      (parseList stop' (ls.map v.lexeme)) (parseList stop ls) := by
  unfold parseList
  refine (expect_view stop stop' (by simp) ls).bind ?_
  rintro ⟨rest, _⟩ ⟨rest', _⟩ rfl
  simp only [nextToken_view, @View.map_token_eq_some_iff v _ .closeBracket (by simp)]
  split
  · exact .ok (Prod.ext rfl List.map_tail.symm)
  · refine (parseElements_view stop stop' hv rest').map ?_
    rintro ⟨items, after⟩ ⟨items', after'⟩ heq
    obtain ⟨hitems, hafter⟩ := Prod.mk.inj heq
    exact Prod.ext (congrArg Operand.list hitems) hafter

/-! Rules -/

theorem expectEnd_view (ls : List Lexeme) :
    Corresponds id id (expectEnd (ls.map v.lexeme)) (expectEnd ls) := by
  cases ls with
  | nil => exact .ok rfl
  | cons l rest => exact .error

theorem parseSet_view (hv : v.Steady) (ls : List Lexeme) :
    Corresponds v.rule v.rule (parseSet stop' (ls.map v.lexeme)) (parseSet stop ls) := by
  unfold parseSet
  refine (takePath_view stop stop' ls).bind ?_
  rintro ⟨target, after, _⟩ ⟨target', after', _⟩ heq
  obtain ⟨rfl, rfl⟩ : target = target' ∧ after = after'.map v.lexeme := Prod.mk.inj heq
  refine (expect_view stop stop' (by simp) after').bind ?_
  rintro ⟨rest, _⟩ ⟨rest', _⟩ rfl
  refine (parseOperand_view stop stop' hv false rest').bind ?_
  rintro ⟨value, rest⟩ ⟨value', rest'⟩ heq
  obtain ⟨hvalue, rfl⟩ : v.operand value = v.operand value' ∧ rest = rest'.map v.lexeme := Prod.mk.inj heq
  refine (expectEnd_view rest').bind fun _ _ _ => ?_
  exact .ok (congrArg (Rule.set target) hvalue)

theorem parseComparison_view (hv : v.Steady) (ls : List Lexeme) :
    Corresponds v.rule v.rule (parseComparison stop' (ls.map v.lexeme)) (parseComparison stop ls) := by
  unfold parseComparison
  refine (parseOperand_view stop stop' hv true ls).bind ?_
  rintro ⟨left, afterLeft⟩ ⟨left', afterLeft'⟩ heq
  obtain ⟨hleft, rfl⟩ : v.operand left = v.operand left' ∧ afterLeft = afterLeft'.map v.lexeme := Prod.mk.inj heq
  refine (parseCompareOp_view stop stop' afterLeft').bind ?_
  rintro ⟨op, afterOp⟩ ⟨op', afterOp'⟩ heq
  obtain ⟨rfl, rfl⟩ : op = op' ∧ afterOp = afterOp'.map v.lexeme := Prod.mk.inj heq
  have hend : ∀ a b : Operand × List Lexeme,
      Prod.map v.operand id a = Prod.map v.operand (List.map v.lexeme) b →
        Corresponds v.rule v.rule (expectEnd a.2 >>= fun _ => pure (compare left op a.1))
          (expectEnd b.2 >>= fun _ => pure (compare left' op b.1)) := by
    rintro ⟨right, rest⟩ ⟨right', rest'⟩ heq
    obtain ⟨hright, rfl⟩ : v.operand right = v.operand right' ∧ rest = rest'.map v.lexeme := Prod.mk.inj heq
    refine (expectEnd_view rest').bind fun _ _ _ => .ok ?_
    rw [View.rule, View.rule, hleft, hright]
  dsimp only
  split
  · exact (parseList_view stop stop' hv afterOp').bind hend
  · exact (parseOperand_view stop stop' hv true afterOp').bind hend

theorem nullCheckOf?_view (ls : List Lexeme) :
    nullCheckOf? (ls.map v.lexeme) = (nullCheckOf? ls).map fun (text, _, negated) => (text, 0, negated) := by
  rcases ls with _ | ⟨path, _ | ⟨op, _ | ⟨null, _ | ⟨l, rest⟩⟩⟩⟩
  case cons.cons.cons.nil =>
    obtain ⟨path, gap, chars, offset⟩ := path
    obtain ⟨op, gap', chars', offset'⟩ := op
    obtain ⟨null, gap'', chars'', offset''⟩ := null
    simp only [List.map_cons, List.map_nil, View.lexeme, nullCheckOf?]
    cases path with
    | path text =>
      cases null with
      | word word =>
        by_cases hword : word = "null"
        · subst hword
          cases op <;> rfl
        · simp [View.token, hword]
      | _ => cases op <;> rfl
    | _ => rfl
  all_goals rfl

theorem splitAtWord_view (word : String) (depth : Nat) (ls : List Lexeme) :
    splitAtWord word depth (ls.map v.lexeme) = (splitAtWord word depth ls).map fun (before, found, after) =>
      (before.map v.lexeme, v.lexeme found, after.map v.lexeme) := by
  induction ls generalizing depth with
  | nil => rfl
  | cons l rest ih =>
    have hword : (v.lexeme l).token = .word word ↔ l.token = .word word := View.token_eq_iff (by simp)
    have hnesting : nesting depth (v.lexeme l).token = nesting depth l.token := by
      obtain ⟨token, gap, text, offset⟩ := l
      cases token <;> rfl
    rw [List.map_cons, splitAtWord_cons, splitAtWord_cons, hnesting, ih]
    simp only [hword]
    split
    · rfl
    · rw [Option.map_map, Option.map_map]
      rfl

/-- What is seen of a rule is what is seen of the rule that the views of its lexemes spell, by induction on the number
of lexemes. -/
theorem ofLexemes_view (hv : v.Steady) (ls : List Lexeme) :
    Corresponds v.rule v.rule (ofLexemes stop' (ls.map v.lexeme)) (ofLexemes stop ls) := by
  induction hn : ls.length using Nat.strongRecOn generalizing stop stop' ls with
  | _ n ih =>
    cases ls with
    | nil =>
      rw [List.map_nil, ofLexemes, ofLexemes]
      exact .error
    | cons first others =>
      have hword : ∀ word, (v.lexeme first).token = .word word ↔ first.token = .word word :=
        fun word => View.token_eq_iff (by simp)
      have hsplit := fun word => @splitAtWord_view v word 0 (first :: others)
      have hcheck := @nullCheckOf?_view v (first :: others)
      rw [List.map_cons] at hsplit hcheck ⊢
      rw [ofLexemes_cons, ofLexemes_cons, hsplit "OR", hsplit "THEN", hcheck]
      simp only [hword]
      cases hor : splitAtWord "OR" 0 (first :: others) with
      | some cut =>
        obtain ⟨before, word, after⟩ := cut
        have hlength := length_splitAtWord hor
        simp only [Option.map_some, List.isEmpty_map]
        split
        · exact .error
        · refine (ih _ (by omega) _ _ before rfl).bind fun left left' hleft => ?_
          refine (ih _ (by omega) _ _ after rfl).bind fun right right' hright => .ok ?_
          rw [View.rule, View.rule, hleft, hright]
      | none =>
        simp only [Option.map_none]
        split
        · exact parseSet_view stop stop' hv others
        · split
          · cases hthen : splitAtWord "THEN" 0 (first :: others) with
            | none => exact .error
            | some cut =>
              obtain ⟨before, word, after⟩ := cut
              have hlength := length_splitAtWord hthen
              have htail : before.tail.length ≤ before.length := by simp
              simp only [Option.map_some, ← List.map_tail, List.isEmpty_map]
              split
              · exact .error
              · refine (ih _ (by omega) _ _ before.tail rfl).bind fun condition condition' hcondition => ?_
                refine (ih _ (by omega) _ _ after rfl).bind fun action action' haction => .ok ?_
                rw [View.rule, View.rule, hcondition, haction]
          · cases nullCheckOf? (first :: others) with
            | none => exact parseComparison_view stop stop' hv (first :: others)
            | some check =>
              obtain ⟨text, offset, negated⟩ := check
              refine (pathOf_corresponds text offset 0).map ?_
              rintro p _ rfl
              rfl

end Rule

end PolicyEngine
