import PolicyEngine.Proofs.Path.RoundTrip
import PolicyEngine.Proofs.Rule.Lexed
import PolicyEngine.Rule.Parser

/-! The rules that parsing can end in: which operands stand where, and which rules are parts of which. -/
namespace PolicyEngine

namespace Operand

/-- Terms of an `EXP` as they are parsed. -/
inductive IsTerm : Operand → Prop
  | path {p : Path} (plain : p.IsPlain 1) : IsTerm (.path p)
  | number {x : Float} (finite : x.isFinite) : IsTerm (.literal (.number x))
  | exp {term : Operand} (h : IsTerm term) : IsTerm (.exp term)
  | arith {left : Operand} {op : ArithOp} {right : Operand} (hleft : IsTerm left) (hright : IsTerm right) :
      IsTerm (.arith left op right)
  | aggregate {op : AggregateOp} {p : Path} (plain : p.IsPlain 1) : IsTerm (.aggregate op p)

/-- Operands that are written with parentheses. -/
def isCall : Operand → Bool
  | .exp _ | .arith .. | .aggregate .. => true
  | _ => false

/-- Operands of comparisons and assignments as they are parsed, lists aside. -/
inductive IsCanonical : Operand → Prop
  | path {p : Path} (plain : p.IsPlain 0) : IsCanonical (.path p)
  | literal {v : Value} (scalar : v.isScalar) (finite : ∀ x, v = .number x → x.isFinite) :
      IsCanonical (.literal v)
  | call {operand : Operand} (call : operand.isCall) (term : operand.IsTerm) : IsCanonical operand

end Operand

namespace Rule

/-- Whether an `OR` is in a rule. -/
def hasOr : Rule → Bool
  | .or _ _ => true
  | .conditional condition action => condition.hasOr || action.hasOr
  | _ => false

/-- Whether an `IN` or a `NOT IN` is in a rule. -/
def hasMembership : Rule → Bool
  | .or left right => left.hasMembership || right.hasMembership
  | .conditional condition action => condition.hasMembership || action.hasMembership
  | .compare _ op _ => op = .memberOf || op = .notMemberOf
  | _ => false

theorem hasMembership_or {left right : Rule} (h : (or left right).hasMembership = false) :
    left.hasMembership = false ∧ right.hasMembership = false := Bool.or_eq_false_iff.1 h

theorem hasMembership_conditional {condition action : Rule} (h : (conditional condition action).hasMembership = false) :
    condition.hasMembership = false ∧ action.hasMembership = false := Bool.or_eq_false_iff.1 h

theorem hasMembership_compare {left right : Operand} {op : CompareOp} (hop : op = .memberOf ∨ op = .notMemberOf) :
    (compare left op right).hasMembership = true := by
  rcases hop with rfl | rfl <;> rfl

def isConditional : Rule → Bool
  | .conditional _ _ => true
  | _ => false

/-- A path beside a bare `null`, which is read as a null check. -/
def IsNullCheck (left : Operand) (op : CompareOp) (right : Operand) : Prop :=
  (∃ p, left = .path p) ∧ (op = .eq ∨ op = .ne) ∧ right = .literal .null

/-- Rules as they are parsed: `OR` groups to the right and binds weaker than the rest, and a condition is neither
of the compound forms. -/
inductive IsCanonical : Rule → Prop
  | or {left right : Rule} (tight : left.hasOr = false) (hleft : IsCanonical left) (hright : IsCanonical right) :
      IsCanonical (.or left right)
  | set {target : Path} {value : Operand} (plain : target.IsPlain 0) (hvalue : value.IsCanonical) :
      IsCanonical (.set target value)
  | conditional {condition action : Rule} (simple : condition.isConditional = false)
      (tight : condition.hasOr = false) (tightAction : action.hasOr = false)
      (hcondition : IsCanonical condition) (haction : IsCanonical action) :
      IsCanonical (.conditional condition action)
  | nullCheck {p : Path} {negated : Bool} (plain : p.IsPlain 0) : IsCanonical (.nullCheck p negated)
  | compare {left : Operand} {op : CompareOp} {right : Operand} (member : op ≠ .memberOf)
      (notMember : op ≠ .notMemberOf) (noCheck : ¬ IsNullCheck left op right) (hleft : left.IsCanonical)
      (hright : right.IsCanonical) : IsCanonical (.compare left op right)
  | membership {left : Operand} {op : CompareOp} {items : List String} (hop : op = .memberOf ∨ op = .notMemberOf)
      (hleft : left.IsCanonical) : IsCanonical (.compare left op (.list items))

/-! Steps of the parser -/

theorem of_expect {stop : Nat} {token : Token} {ls : List Lexeme} {rest : Rest ls}
    (h : expect stop token ls = .ok rest) : ∃ l, ls = l :: rest.1 ∧ l.token = token := by
  cases ls with
  | nil => cases h
  | cons l ls =>
    unfold expect at h
    simp only at h
    split at h
    · next htoken =>
      cases h
      exact ⟨l, rfl, htoken⟩
    · cases h

theorem of_pathOf {text : String} {offset : Nat} {p : Path} (h : pathOf text offset = .ok p) :
    Path.parse text = .ok p :=
  mapError_eq_ok_iff.1 h

theorem of_takePath {stop : Nat} {ls : List Lexeme} {p : Path} {rest : Rest ls}
    (h : takePath stop ls = .ok (p, rest)) :
    ∃ l text, ls = l :: rest.1 ∧ l.token = .path text ∧ Path.parse text = .ok p := by
  unfold takePath at h
  split at h
  · next text gap chars offset others =>
    obtain ⟨q, hq, heq⟩ := map_eq_ok_iff.1 h
    cases heq
    exact ⟨_, text, rfl, rfl, of_pathOf hq⟩
  · cases h

theorem of_numberOf {text : String} {offset : Nat} {x : Float} (h : numberOf text offset = .ok x) :
    Number.ofText? text = some x := by
  unfold numberOf at h
  split at h
  · next hx =>
    cases h
    exact hx
  · cases h

theorem isPlain_of_lexed {depth : Nat} {l : Lexeme} {rest : List Lexeme} {text : String} {p : Path}
    (hlexed : Lexed depth (l :: rest)) (htoken : l.token = .path text) (hparse : Path.parse text = .ok p) :
    p.IsPlain depth := by
  obtain ⟨run, htext, hclosed⟩ := hlexed.1.path text htoken
  exact Path.isPlain_of_parse htext hclosed hparse

/-! Operands -/

theorem lexed_of_close {stop depth : Nat} {ls : List Lexeme} {rest : Rest ls} (hlexed : Lexed (depth + 1) ls)
    (h : expect stop .closeParen ls = .ok rest) : Lexed depth rest.1 := by
  obtain ⟨l, hl, htoken⟩ := of_expect h
  rw [hl] at hlexed
  have hrest := hlexed.2
  rwa [htoken] at hrest

theorem lexed_of_arithOp? {depth : Nat} {ls : List Lexeme} {op : ArithOp} (hlexed : Lexed depth ls)
    (h : arithOp? (nextToken ls) = some op) : Lexed depth ls.tail := by
  cases ls with
  | nil => cases h
  | cons l rest =>
    have hrest := hlexed.2
    have hdepth : Lexer.depthAfter depth l.token = depth := by
      change arithOp? (some l.token) = some op at h
      generalize l.token = token at h
      cases token <;> first
        | rfl
        | cases h
    rwa [hdepth] at hrest

/-- What calls and their terms are read from, by induction on the lexemes left: properties of the lexemes at which they
start, of the operand and of the lexemes behind it, `P` for calls and `Q` for terms. -/
theorem parseCall_induction {stop : Nat} {P Q : List Lexeme → Operand → List Lexeme → Prop}
    (exp : ∀ ls term after (rest : Rest after), Q ls term after → expect stop .closeParen after = .ok rest →
      P ls (.exp term) rest.1)
    (arith : ∀ ls left after op right others (rest : Rest others), Q ls left after →
      arithOp? (nextToken after) = some op → Q after.tail right others →
      expect stop .closeParen others = .ok rest → P ls (.arith left op right) rest.1)
    (aggregate : ∀ ls op p (after : Rest ls) (rest : Rest after.1), takePath stop ls = .ok (p, after) →
      expect stop .closeParen after.1 = .ok rest → P ls (.aggregate op p) rest.1)
    (call : ∀ name l paren inner operand rest, l.token = .word name → paren.token = .openParen →
      P inner operand rest → Q (l :: paren :: inner) operand rest)
    (path : ∀ text l p rest, l.token = .path text → Path.parse text = .ok p → Q (l :: rest) (.path p) rest)
    (number : ∀ text l x rest, l.token = .number text → Number.ofText? text = some x →
      Q (l :: rest) (.literal (.number x)) rest)
    {name : String} {offset : Nat} {ls : List Lexeme} {operand : Operand} {rest : Rest ls}
    (h : parseCall stop name offset ls = .ok (operand, rest)) : P ls operand rest.1 := by
  have hboth : ∀ n, (∀ name offset ls operand rest, 2 * ls.length + 1 < n →
      parseCall stop name offset ls = .ok (operand, rest) → P ls operand rest.1) ∧
      ∀ ls term rest, 2 * ls.length < n → parseTerm stop ls = .ok (term, rest) → Q ls term rest.1 := by
    intro n
    induction n with
    | zero => exact ⟨fun _ _ _ _ _ h => absurd h (Nat.not_lt_zero _), fun _ _ _ h => absurd h (Nat.not_lt_zero _)⟩
    | succ n ih =>
      obtain ⟨ihCall, ihTerm⟩ := ih
      constructor
      · intro name offset ls operand rest hn h
        rw [parseCall] at h
        split at h
        · obtain ⟨⟨first, afterFirst, hfirst⟩, hterm, h⟩ := bind_eq_ok_iff.1 h
          have hleft := ihTerm _ _ _ (by omega) hterm
          simp only at h hleft
          split at h
          · obtain ⟨others, hclose, h⟩ := bind_eq_ok_iff.1 h
            cases h
            exact exp ls first afterFirst others hleft hclose
          · next op hop =>
            obtain ⟨⟨second, afterSecond, hsecond⟩, hterm', h⟩ := bind_eq_ok_iff.1 h
            obtain ⟨others, hclose, h⟩ := bind_eq_ok_iff.1 h
            have htail : afterFirst.tail.length ≤ afterFirst.length := by simp
            have hright := ihTerm _ _ _ (by omega) hterm'
            cases h
            exact arith ls first afterFirst op second afterSecond others hleft hop hright hclose
        · split at h
          · obtain ⟨⟨p, afterPath⟩, htake, h⟩ := bind_eq_ok_iff.1 h
            obtain ⟨others, hclose, h⟩ := bind_eq_ok_iff.1 h
            cases h
            exact aggregate _ _ _ _ _ htake hclose
          · cases h
      · intro ls term rest hn h
        rw [parseTerm.eq_def] at h
        split at h
        · obtain ⟨⟨operand, others⟩, hcall, heq⟩ := map_eq_ok_iff.1 h
          cases heq
          simp only [List.length_cons] at hn
          exact call _ _ _ _ _ _ rfl rfl (ihCall _ _ _ _ _ (by omega) hcall)
        · obtain ⟨p, hp, heq⟩ := map_eq_ok_iff.1 h
          cases heq
          exact path _ _ _ _ rfl (of_pathOf hp)
        · obtain ⟨x, hx, heq⟩ := map_eq_ok_iff.1 h
          cases heq
          exact number _ _ _ _ rfl (of_numberOf hx)
        · cases h
  exact (hboth _).1 _ _ _ _ _ (Nat.lt_succ_self _) h

/-- A call starts behind its parenthesis and ends behind the closing one, so it leaves one depth less. -/
theorem isTerm_of_parseCall {stop depth : Nat} {name : String} {offset : Nat} {ls : List Lexeme} {operand : Operand}
    {rest : Rest ls} (hlexed : Lexed (depth + 1) ls) (h : parseCall stop name offset ls = .ok (operand, rest)) :
    operand.IsTerm ∧ operand.isCall ∧ Lexed depth rest.1 := by
  refine parseCall_induction
    (P := fun ls operand rest => ∀ depth, Lexed (depth + 1) ls →
      operand.IsTerm ∧ operand.isCall ∧ Lexed depth rest)
    (Q := fun ls term rest => ∀ depth, Lexed (depth + 1) ls → term.IsTerm ∧ Lexed (depth + 1) rest)
    ?exp ?arith ?aggregate ?call ?path ?number h depth hlexed
  case exp =>
    intro ls term after rest ihTerm hclose depth hlexed
    obtain ⟨hterm, hafter⟩ := ihTerm depth hlexed
    exact ⟨.exp hterm, rfl, lexed_of_close hafter hclose⟩
  case arith =>
    intro ls left after op right others rest ihLeft hop ihRight hclose depth hlexed
    obtain ⟨hleft, hafter⟩ := ihLeft depth hlexed
    obtain ⟨hright, hothers⟩ := ihRight depth (lexed_of_arithOp? hafter hop)
    exact ⟨.arith hleft hright, rfl, lexed_of_close hothers hclose⟩
  case aggregate =>
    intro ls op p after rest htake hclose depth hlexed
    obtain ⟨l, text, hl, htoken, hparse⟩ := of_takePath htake
    have hpath : Lexed (depth + 1) (l :: after.1) := hl ▸ hlexed
    have hafter : Lexed (depth + 1) after.1 := by
      have hafter := hpath.2
      rwa [htoken] at hafter
    exact ⟨.aggregate (isPlain_of_lexed hpath htoken hparse).inside, rfl, lexed_of_close hafter hclose⟩
  case call =>
    intro name l paren inner operand rest hname hparen ihCall depth hlexed
    have hinner : Lexed (depth + 1 + 1) inner := by
      have hinner := hlexed.2.2
      rwa [hname, hparen] at hinner
    obtain ⟨hterm, -, hrest⟩ := ihCall (depth + 1) hinner
    exact ⟨hterm, hrest⟩
  case path =>
    intro text l p rest htoken hparse depth hlexed
    have hrest := hlexed.2
    rw [htoken] at hrest
    exact ⟨.path (isPlain_of_lexed hlexed htoken hparse).inside, hrest⟩
  case number =>
    intro text l x rest htoken hx depth hlexed
    have hrest := hlexed.2
    rw [htoken] at hrest
    exact ⟨.number (Number.isFinite_of_ofText? hx), hrest⟩

theorem append_beforeComparison (ls : List Lexeme) : (beforeComparison ls).1 ++ (beforeComparison ls).2 = ls := by
  induction ls with
  | nil => rfl
  | cons l rest ih =>
    rw [beforeComparison]
    split
    · rfl
    · rw [List.cons_append, ih]

theorem append_of_cut {bounded : Bool} {ls extent others : List Lexeme}
    (h : (if bounded then beforeComparison ls else (ls, [])) = (extent, others)) : extent ++ others = ls := by
  cases bounded with
  | false =>
    cases h
    exact List.append_nil ls
  | true =>
    have happend := append_beforeComparison ls
    rw [if_pos rfl] at h
    rwa [h] at happend

theorem isCanonical_ofLiteral (text : String) : (Operand.literal (.ofLiteral text)).IsCanonical := by
  unfold Value.ofLiteral
  split
  · exact .literal rfl (fun x hx => by cases hx)
  · split
    · next x hx =>
      refine .literal rfl fun y hy => ?_
      cases hy
      exact Number.isFinite_of_ofText? hx
    · split
      · exact .literal rfl (fun x hx => by cases hx)
      · exact .literal rfl (fun x hx => by cases hx)

theorem eq_null_of_ofLiteral {text : String} (h : Value.ofLiteral text = .null) : text = "null" := by
  unfold Value.ofLiteral at h
  split at h
  · assumption
  · split at h
    · cases h
    · split at h <;> cases h

/-- Only the one word `null` is spelled like this: a word in front of other letters would have taken them. -/
theorem word_of_source {depth : Nat} {ls : List Lexeme} (hlexed : Lexed depth ls)
    (h : Lexeme.source ls = "null".toList) : ∃ l, ls = [l] ∧ l.token = .word "null" := by
  cases ls with
  | nil => cases h
  | cons first rest =>
    obtain ⟨hfirst, hrest⟩ := hlexed
    have halpha : ∀ c ∈ Lexeme.source (first :: rest), c.isAlpha = true := by
      rw [h]
      decide
    have hmem : ∀ c ∈ first.text, c ∈ Lexeme.source (first :: rest) := fun c hc => List.mem_append_left _ hc
    obtain ⟨c, cs, htext⟩ := List.exists_cons_of_ne_nil hfirst.nonempty
    have hc : c ∈ first.text.head? := by rw [htext]; rfl
    obtain ⟨text, htoken⟩ := hfirst.letter c hc (halpha c (hmem c (by rw [htext]; exact List.mem_cons_self)))
    cases rest with
    | nil =>
      refine ⟨first, rfl, ?_⟩
      have hsource : text.toList = "null".toList := by
        rw [← h, ← hfirst.word text htoken]
        simp [Lexeme.source]
      rw [htoken, String.toList_inj.1 hsource]
    | cons m rest =>
      have hnext : ∀ c ∈ m.gap ++ m.text, c ∈ Lexeme.source (first :: m :: rest) := by
        intro c hc
        simp only [Lexeme.source, List.flatMap_cons]
        exact List.mem_append_right _ (List.mem_append_left _ hc)
      have hgap : m.gap = [] := by
        cases hcs : m.gap with
        | nil => rfl
        | cons b bs =>
          have hb : b ∈ m.gap := by rw [hcs]; exact List.mem_cons_self
          have hblank := hrest.1.gap b hb
          have hletter := Lexer.isLetter_of_isAlpha (halpha b (hnext b (List.mem_append_left _ hb)))
          rw [Text.isBlank_of_isLetter hletter] at hblank
          cases hblank
      obtain ⟨d, ds, hds⟩ := List.exists_cons_of_ne_nil hrest.1.nonempty
      have hd : d ∈ m.text.head? := by rw [hds]; rfl
      have hmem : d ∈ m.gap ++ m.text := List.mem_append_right _ (by rw [hds]; exact List.mem_cons_self)
      have hletter := Lexer.isLetter_of_isAlpha (halpha d (hnext d hmem))
      have hstop := hfirst.whole text htoken m rfl hgap d hd
      rw [Lexer.isWordChar_of_isLetter hletter] at hstop
      cases hstop

/-- What an operand is, and which lexemes it is read from where it is a path or a bare `null`. -/
theorem of_parseOperand {stop depth : Nat} {bounded : Bool} {ls rest : List Lexeme} {operand : Operand}
    (hlexed : Lexed depth ls) (h : parseOperand stop bounded ls = .ok (operand, rest)) :
    operand.IsCanonical ∧ (∃ depth', Lexed depth' rest) ∧
      (∀ p, operand = .path p → ∃ l text, ls = l :: rest ∧ l.token = .path text) ∧
      (operand = .literal .null → ∃ l, ls = l :: rest ∧ l.token = .word "null") := by
  unfold parseOperand at h
  split at h
  · next name gap text offset gap' text' offset' inner =>
    obtain ⟨⟨operand', others⟩, hcall, heq⟩ := map_eq_ok_iff.1 h
    cases heq
    have hinner : Lexed (depth + 1) inner := hlexed.2.2
    obtain ⟨hterm, hisCall, hrest⟩ := isTerm_of_parseCall hinner hcall
    refine ⟨.call hisCall hterm, ⟨depth, hrest⟩, ?_, ?_⟩
    · rintro p rfl
      cases hisCall
    · rintro rfl
      cases hisCall
  · next hnot =>
    split at h
    · cases h
    · next text gap chars offset more others hcut =>
      obtain ⟨p, hp, heq⟩ := map_eq_ok_iff.1 h
      cases heq
      have hls := append_of_cut hcut
      rw [List.cons_append] at hls
      rw [← hls] at hlexed ⊢
      refine ⟨.path (isPlain_of_lexed hlexed rfl (of_pathOf hp)).outside, ⟨_, hlexed.2⟩, ?_, ?_⟩
      · intro q _
        exact ⟨_, text, rfl, rfl⟩
      · intro hnull
        cases hnull
    · next text gap chars offset others hcut =>
      obtain ⟨x, hx, heq⟩ := map_eq_ok_iff.1 h
      cases heq
      have hls := append_of_cut hcut
      rw [← hls] at hlexed
      refine ⟨.literal rfl ?_, ⟨_, hlexed.2⟩, ?_, ?_⟩
      · intro y hy
        cases hy
        exact Number.isFinite_of_ofText? (of_numberOf hx)
      · intro q hq
        cases hq
      · intro hnull
        cases hnull
    · next content gap chars offset others hcut =>
      cases h
      have hls := append_of_cut hcut
      rw [← hls] at hlexed
      refine ⟨.literal rfl (fun x hx => by cases hx), ⟨_, hlexed.2⟩, ?_, ?_⟩
      · intro q hq
        cases hq
      · intro hnull
        cases hnull
    · next extent others _ _ _ _ hcut =>
      cases h
      have hls := append_of_cut hcut
      rw [← hls] at hlexed ⊢
      refine ⟨isCanonical_ofLiteral _, hlexed.right, ?_, ?_⟩
      · intro q hq
        cases hq
      · intro hnull
        have hsource := congrArg String.toList (eq_null_of_ofLiteral (Operand.literal.inj hnull))
        rw [String.toList_ofList] at hsource
        obtain ⟨l, rfl, htoken⟩ := word_of_source hlexed.left hsource
        exact ⟨l, rfl, htoken⟩

/-! Cuts at words -/

/-- How many brackets are open after a token, for cuts at words. -/
def nesting (depth : Nat) : Token → Nat
  | .openParen | .openBracket => depth + 1
  | .closeParen | .closeBracket => depth - 1
  | _ => depth

theorem splitAtWord_cons (word : String) (depth : Nat) (l : Lexeme) (rest : List Lexeme) :
    splitAtWord word depth (l :: rest) =
      if depth = 0 ∧ l.token = .word word then some ([], l, rest)
      else (splitAtWord word (nesting depth l.token) rest).map fun (before, found, after) =>
        (l :: before, found, after) := by
  rw [splitAtWord]
  rfl

theorem of_splitAtWord {word : String} {depth : Nat} {ls before after : List Lexeme} {l : Lexeme}
    (h : splitAtWord word depth ls = some (before, l, after)) :
    ls = before ++ l :: after ∧ l.token = .word word ∧ splitAtWord word depth before = none := by
  induction ls generalizing depth before with
  | nil => cases h
  | cons first rest ih =>
    rw [splitAtWord_cons] at h
    split at h
    · next hfirst =>
      cases h
      exact ⟨rfl, hfirst.2, rfl⟩
    · next hfirst =>
      obtain ⟨⟨before', l', after'⟩, hrest, heq⟩ := Option.map_eq_some_iff.1 h
      cases heq
      obtain ⟨hls, htoken, hnone⟩ := ih hrest
      refine ⟨by rw [hls, List.cons_append], htoken, ?_⟩
      rw [splitAtWord_cons, if_neg hfirst, hnone]
      rfl

/-- A cut at one word does not bring another word to light. -/
theorem splitAtWord_other {word other : String} {depth : Nat} {ls before after : List Lexeme} {l : Lexeme}
    (hnone : splitAtWord other depth ls = none) (h : splitAtWord word depth ls = some (before, l, after)) :
    splitAtWord other depth before = none ∧ splitAtWord other 0 after = none := by
  induction ls generalizing depth before with
  | nil => cases h
  | cons first rest ih =>
    rw [splitAtWord_cons] at h hnone
    split at hnone
    · cases hnone
    · next hother =>
      rw [Option.map_eq_none_iff] at hnone
      split at h
      · next hfirst =>
        cases h
        refine ⟨rfl, ?_⟩
        rw [hfirst.2, hfirst.1] at hnone
        exact hnone
      · obtain ⟨⟨before', l', after'⟩, hrest, heq⟩ := Option.map_eq_some_iff.1 h
        cases heq
        obtain ⟨hbefore, hafter⟩ := ih hnone hrest
        refine ⟨?_, hafter⟩
        rw [splitAtWord_cons, if_neg hother, hbefore]
        rfl

/-- The word that starts a rule is not cut at. -/
theorem splitAtWord_tail {word other : String} {first : Lexeme} {rest : List Lexeme}
    (htoken : first.token = .word other) (hnone : splitAtWord word 0 (first :: rest) = none) :
    splitAtWord word 0 rest = none := by
  rw [splitAtWord_cons, htoken] at hnone
  split at hnone
  · cases hnone
  · exact Option.map_eq_none_iff.1 hnone

/-! Forms of rules -/

/-- The forms of rules in the order in which they are tried. -/
theorem ofLexemes_cons (stop : Nat) (first : Lexeme) (others : List Lexeme) :
    ofLexemes stop (first :: others) =
      match splitAtWord "OR" 0 (first :: others) with
      | some (before, word, after) =>
        if before.isEmpty || after.isEmpty then .error ⟨word.offset, .alternativeMissing⟩
        else do
          let left ← ofLexemes word.offset before
          let right ← ofLexemes stop after
          return .or left right
      | none =>
        if first.token = .word "SET" then parseSet stop others
        else if first.token = .word "IF" then
          match splitAtWord "THEN" 0 (first :: others) with
          | none => .error ⟨stop, .consequenceMissing⟩
          | some (before, word, after) =>
            if before.tail.isEmpty then .error ⟨word.offset, .conditionMissing⟩
            else do
              let condition ← ofLexemes word.offset before.tail
              let action ← ofLexemes stop after
              return .conditional condition action
        else match nullCheckOf? (first :: others) with
          | some (text, offset, negated) => (pathOf text offset).map (.nullCheck · negated)
          | none => parseComparison stop (first :: others) := by
  rw [ofLexemes.eq_2]
  split
  · next hor => simp only [hor]
  · next hor =>
    simp only [hor]
    split
    · rfl
    · split
      · split
        · next hthen => simp only [hthen]
        · next hthen => simp only [hthen]
      · rfl

theorem nonempty_of_ofLexemes {stop : Nat} {ls : List Lexeme} {rule : Rule} (h : ofLexemes stop ls = .ok rule) :
    ls ≠ [] := by
  rintro rfl
  rw [ofLexemes] at h
  cases h

theorem ofLexemes_or {stop : Nat} {ls before after : List Lexeme} {word : Lexeme} {left right : Rule}
    (hor : splitAtWord "OR" 0 ls = some (before, word, after)) (hleft : ofLexemes word.offset before = .ok left)
    (hright : ofLexemes stop after = .ok right) : ofLexemes stop ls = .ok (.or left right) := by
  cases ls with
  | nil => cases hor
  | cons first others =>
    have hbefore : before.isEmpty = false := List.isEmpty_eq_false_iff.2 (nonempty_of_ofLexemes hleft)
    have hafter : after.isEmpty = false := List.isEmpty_eq_false_iff.2 (nonempty_of_ofLexemes hright)
    rw [ofLexemes_cons, hor]
    simp only [hbefore, hafter, Bool.or_self, Bool.false_eq_true, if_false]
    exact bind_eq_ok_iff.2 ⟨_, hleft, bind_eq_ok_iff.2 ⟨_, hright, rfl⟩⟩

theorem ofLexemes_conditional {stop : Nat} {first : Lexeme} {before others after : List Lexeme} {word : Lexeme}
    {condition action : Rule} (hor : splitAtWord "OR" 0 (first :: others) = none) (hif : first.token = .word "IF")
    (hthen : splitAtWord "THEN" 0 (first :: others) = some (first :: before, word, after))
    (hcondition : ofLexemes word.offset before = .ok condition) (haction : ofLexemes stop after = .ok action) :
    ofLexemes stop (first :: others) = .ok (.conditional condition action) := by
  have hbefore : before.isEmpty = false := List.isEmpty_eq_false_iff.2 (nonempty_of_ofLexemes hcondition)
  rw [ofLexemes_cons, hor, hthen]
  simp only [hif, List.tail_cons, hbefore, Bool.false_eq_true, if_false, if_true]
  rw [if_neg (by decide)]
  exact bind_eq_ok_iff.2 ⟨_, hcondition, bind_eq_ok_iff.2 ⟨_, haction, rfl⟩⟩

theorem ofLexemes_set (stop : Nat) {first : Lexeme} {others : List Lexeme}
    (hor : splitAtWord "OR" 0 (first :: others) = none) (hset : first.token = .word "SET") :
    ofLexemes stop (first :: others) = parseSet stop others := by
  rw [ofLexemes_cons, hor]
  simp only [if_pos hset]

/-- What starts with none of the keywords is a null check or a comparison. -/
theorem ofLexemes_plain (stop : Nat) {first : Lexeme} {others : List Lexeme}
    (hor : splitAtWord "OR" 0 (first :: others) = none)
    (hfirst : first.token ≠ .word "SET" ∧ first.token ≠ .word "IF") :
    ofLexemes stop (first :: others) =
      match nullCheckOf? (first :: others) with
      | some (text, offset, negated) => (pathOf text offset).map (.nullCheck · negated)
      | none => parseComparison stop (first :: others) := by
  rw [ofLexemes_cons, hor]
  simp only [if_neg hfirst.1, if_neg hfirst.2]

/-- What a rule is read from, by induction on the lexemes left: a property of the lexemes and the rule holds if it holds
for the simple forms and comes from the parts to the compound ones. -/
theorem ofLexemes_induction {P : List Lexeme → Rule → Prop}
    (or : ∀ ls before word after left right, splitAtWord "OR" 0 ls = some (before, word, after) → P before left →
      P after right → P ls (.or left right))
    (set : ∀ stop first others rule, parseSet stop others = .ok rule → P (first :: others) rule)
    (conditional : ∀ first others inner word after condition action, splitAtWord "OR" 0 (first :: others) = none →
      first.token = .word "IF" → splitAtWord "THEN" 0 (first :: others) = some (first :: inner, word, after) →
      P inner condition → P after action → P (first :: others) (.conditional condition action))
    (nullCheck : ∀ ls text offset negated p, nullCheckOf? ls = some (text, offset, negated) →
      pathOf text offset = .ok p → P ls (.nullCheck p negated))
    (compare : ∀ stop ls rule, nullCheckOf? ls = none → parseComparison stop ls = .ok rule → P ls rule)
    {stop : Nat} {ls : List Lexeme} {rule : Rule} (h : ofLexemes stop ls = .ok rule) : P ls rule := by
  induction hn : ls.length using Nat.strongRecOn generalizing stop ls rule with
  | _ n ih =>
    cases ls with
    | nil => exact absurd rfl (nonempty_of_ofLexemes h)
    | cons first others =>
      rw [ofLexemes_cons] at h
      split at h
      · next before word after hor =>
        have hlength := length_splitAtWord hor
        split at h
        · cases h
        · obtain ⟨left, hleft, h⟩ := bind_eq_ok_iff.1 h
          obtain ⟨right, hright, h⟩ := bind_eq_ok_iff.1 h
          cases h
          exact or _ _ _ _ _ _ hor (ih _ (by omega) hleft rfl) (ih _ (by omega) hright rfl)
      · next hor =>
        split at h
        · exact set _ _ _ _ h
        · split at h
          · next hif =>
            split at h
            · cases h
            · next before word after hthen =>
              have hlength := length_splitAtWord hthen
              obtain ⟨hls, -, -⟩ := of_splitAtWord hthen
              split at h
              · cases h
              · next hnonempty =>
                obtain ⟨condition, hcondition, h⟩ := bind_eq_ok_iff.1 h
                obtain ⟨action, haction, h⟩ := bind_eq_ok_iff.1 h
                cases h
                cases before with
                | nil => exact absurd rfl hnonempty
                | cons start inner =>
                  obtain ⟨rfl, -⟩ := List.cons.inj hls
                  rw [List.length_cons] at hlength
                  exact conditional _ _ _ _ _ _ _ hor hif hthen (ih _ (by omega) hcondition rfl)
                    (ih _ (by omega) haction rfl)
          · split at h
            · next text offset negated hcheck =>
              obtain ⟨p, hp, heq⟩ := map_eq_ok_iff.1 h
              cases heq
              exact nullCheck _ _ _ _ _ hcheck hp
            · next hcheck => exact compare _ _ _ hcheck h

/-! Rules -/

theorem of_nullCheckOf? {ls : List Lexeme} {text : String} {offset : Nat} {negated : Bool}
    (h : nullCheckOf? ls = some (text, offset, negated)) : ∃ l rest, ls = l :: rest ∧ l.token = .path text := by
  unfold nullCheckOf? at h
  split at h
  · next path op null =>
    refine ⟨path, [op, null], rfl, ?_⟩
    split at h
    · next htoken _ _ =>
      cases h
      exact htoken
    · next htoken _ _ =>
      cases h
      exact htoken
    · cases h
  · cases h

theorem of_parseCompareOp {stop : Nat} {ls rest : List Lexeme} {op : CompareOp}
    (h : parseCompareOp stop ls = .ok (op, rest)) :
    (∃ before, ls = before ++ rest) ∧ (op = .eq → ∃ l, ls = l :: rest ∧ l.token = .eq) ∧
      (op = .ne → ∃ l, ls = l :: rest ∧ l.token = .ne) := by
  cases ls with
  | nil => cases h
  | cons l others =>
    unfold parseCompareOp at h
    rw [nextToken, List.tail_cons] at h
    have hone : ∃ before, l :: others = before ++ others := ⟨[l], rfl⟩
    split at h
    case h_8 =>
      split at h
      · cases h
        refine ⟨?_, by simp, by simp⟩
        cases others with
        | nil => exact ⟨[l], rfl⟩
        | cons m others => exact ⟨[l, m], rfl⟩
      · cases h
    case h_9 => cases h
    case h_1 =>
      next htoken =>
      cases h
      exact ⟨hone, fun _ => ⟨l, rfl, Option.some.inj htoken⟩, by simp⟩
    case h_2 =>
      next htoken =>
      cases h
      exact ⟨hone, by simp, fun _ => ⟨l, rfl, Option.some.inj htoken⟩⟩
    all_goals
      cases h
      exact ⟨hone, by simp, by simp⟩

theorem of_parseList {stop : Nat} {ls rest : List Lexeme} {operand : Operand}
    (h : parseList stop ls = .ok (operand, rest)) : ∃ items, operand = .list items := by
  unfold parseList at h
  obtain ⟨⟨others, _⟩, -, h⟩ := bind_eq_ok_iff.1 h
  simp only at h
  split at h
  · cases h
    exact ⟨[], rfl⟩
  · obtain ⟨⟨items, after⟩, -, heq⟩ := map_eq_ok_iff.1 h
    cases heq
    exact ⟨items, rfl⟩

theorem isCanonical_of_parseSet {stop depth : Nat} {ls : List Lexeme} {rule : Rule} (hlexed : Lexed depth ls)
    (h : parseSet stop ls = .ok rule) : rule.IsCanonical ∧ ∃ target value, rule = .set target value := by
  unfold parseSet at h
  obtain ⟨⟨target, afterTarget, htarget⟩, htake, h⟩ := bind_eq_ok_iff.1 h
  obtain ⟨⟨afterAssign, hassign⟩, hexpect, h⟩ := bind_eq_ok_iff.1 h
  obtain ⟨⟨value, rest⟩, hvalue, h⟩ := bind_eq_ok_iff.1 h
  obtain ⟨-, -, h⟩ := bind_eq_ok_iff.1 h
  cases h
  obtain ⟨l, text, hl, htoken, hparse⟩ := of_takePath htake
  obtain ⟨m, hm, -⟩ := of_expect hexpect
  simp only at hl hm
  subst hl hm
  obtain ⟨hcanonical, -⟩ := of_parseOperand hlexed.2.2 hvalue
  exact ⟨.set (isPlain_of_lexed hlexed htoken hparse).outside hcanonical, target, value, rfl⟩

theorem isCanonical_of_parseComparison {stop depth : Nat} {ls : List Lexeme} {rule : Rule} (hlexed : Lexed depth ls)
    (hcheck : nullCheckOf? ls = none) (h : parseComparison stop ls = .ok rule) : rule.IsCanonical ∧
      ∃ left op right, rule = .compare left op right := by
  unfold parseComparison at h
  obtain ⟨⟨left, afterLeft⟩, hleft, h⟩ := bind_eq_ok_iff.1 h
  obtain ⟨⟨op, afterOp⟩, hop, h⟩ := bind_eq_ok_iff.1 h
  simp only at h
  split at h
  · next hlist =>
    obtain ⟨⟨right, rest⟩, hright, h⟩ := bind_eq_ok_iff.1 h
    obtain ⟨-, -, h⟩ := bind_eq_ok_iff.1 h
    cases h
    obtain ⟨hcanonical, -⟩ := of_parseOperand hlexed hleft
    obtain ⟨items, rfl⟩ := of_parseList hright
    exact ⟨.membership hlist hcanonical, left, op, .list items, rfl⟩
  · next hsingle =>
    obtain ⟨⟨right, rest⟩, hright, h⟩ := bind_eq_ok_iff.1 h
    obtain ⟨⟨⟩, hend, h⟩ := bind_eq_ok_iff.1 h
    cases h
    rw [not_or] at hsingle
    obtain ⟨hcanonicalLeft, ⟨depth', hafterLeft⟩, hleftPath, -⟩ := of_parseOperand hlexed hleft
    obtain ⟨⟨before, hbefore⟩, heq, hne⟩ := of_parseCompareOp hop
    obtain ⟨depth'', hafterOp⟩ := Lexed.right (hbefore ▸ hafterLeft)
    obtain ⟨hcanonicalRight, -, -, hrightNull⟩ := of_parseOperand hafterOp hright
    refine ⟨.compare hsingle.1 hsingle.2 ?_ hcanonicalLeft hcanonicalRight, left, op, right, rfl⟩
    rintro ⟨⟨p, rfl⟩, hcheckOp, rfl⟩
    obtain ⟨l, text, rfl, htoken⟩ := hleftPath p rfl
    obtain ⟨n, rfl, hnull⟩ := hrightNull rfl
    have hnil : rest = [] := by
      cases rest with
      | nil => rfl
      | cons m rest => cases hend
    subst hnil
    rcases hcheckOp with rfl | rfl
    · obtain ⟨m, rfl, hm⟩ := heq rfl
      simp [nullCheckOf?, htoken, hm, hnull] at hcheck
    · obtain ⟨m, rfl, hm⟩ := hne rfl
      simp [nullCheckOf?, htoken, hm, hnull] at hcheck

/-- Parsing ends in canonical rules. Without the word `OR` or `THEN` in the open no such rule comes out, which is what
makes the parts of a compound rule tight. -/
theorem isCanonical_of_ofLexemes {stop depth : Nat} {ls : List Lexeme} {rule : Rule} (hlexed : Lexed depth ls)
    (h : ofLexemes stop ls = .ok rule) :
    rule.IsCanonical ∧ (splitAtWord "OR" 0 ls = none → rule.hasOr = false) ∧
      (splitAtWord "THEN" 0 ls = none → rule.isConditional = false) := by
  refine ofLexemes_induction (P := fun ls rule => ∀ depth, Lexed depth ls → rule.IsCanonical ∧
    (splitAtWord "OR" 0 ls = none → rule.hasOr = false) ∧
      (splitAtWord "THEN" 0 ls = none → rule.isConditional = false)) ?or ?set ?conditional ?nullCheck ?compare h
    depth hlexed
  case or =>
    intro ls before word after left right hor ihLeft ihRight depth hlexed
    obtain ⟨rfl, -, hnone⟩ := of_splitAtWord hor
    obtain ⟨depth', hright⟩ := hlexed.right
    obtain ⟨hcanonicalLeft, htight, -⟩ := ihLeft depth hlexed.left
    obtain ⟨hcanonicalRight, -⟩ := ihRight _ hright.2
    refine ⟨.or (htight hnone) hcanonicalLeft hcanonicalRight, ?_, fun _ => rfl⟩
    rw [hor]
    intro hcut
    cases hcut
  case set =>
    intro stop first others rule hset depth hlexed
    obtain ⟨hcanonical, target, value, rfl⟩ := isCanonical_of_parseSet hlexed.2 hset
    exact ⟨hcanonical, fun _ => rfl, fun _ => rfl⟩
  case conditional =>
    intro first others inner word after condition action hor hif hthen ihCondition ihAction depth hlexed
    obtain ⟨hls, -, hnone⟩ := of_splitAtWord hthen
    obtain ⟨hnoneBefore, hnoneAfter⟩ := splitAtWord_other hor hthen
    rw [hls] at hlexed
    have hlexedInner : Lexed depth (first :: inner) := hlexed.left
    obtain ⟨depth', hlexedAfter⟩ := hlexed.right
    obtain ⟨hcanonicalCondition, htight, hsimple⟩ := ihCondition _ hlexedInner.2
    obtain ⟨hcanonicalAction, htightAction, -⟩ := ihAction _ hlexedAfter.2
    have hconditionOr := htight (splitAtWord_tail hif hnoneBefore)
    have hactionOr := htightAction hnoneAfter
    refine ⟨.conditional (hsimple (splitAtWord_tail hif hnone)) hconditionOr hactionOr hcanonicalCondition
      hcanonicalAction, fun _ => ?_, ?_⟩
    · simp [hasOr, hconditionOr, hactionOr]
    · rw [hthen]
      intro hcut
      cases hcut
  case nullCheck =>
    intro ls text offset negated p hcheck hp depth hlexed
    obtain ⟨l, rest, rfl, htoken⟩ := of_nullCheckOf? hcheck
    exact ⟨.nullCheck (isPlain_of_lexed hlexed htoken (of_pathOf hp)).outside, fun _ => rfl, fun _ => rfl⟩
  case compare =>
    intro stop ls rule hcheck hcompare depth hlexed
    obtain ⟨hcanonical, left, op, right, rfl⟩ := isCanonical_of_parseComparison hlexed hcheck hcompare
    exact ⟨hcanonical, fun _ => rfl, fun _ => rfl⟩

theorem isCanonical_of_parse {text : String} {rule : Rule} (h : parse text = .ok rule) : rule.IsCanonical := by
  unfold parse at h
  obtain ⟨ls, hlex, h⟩ := bind_eq_ok_iff.1 h
  exact (isCanonical_of_ofLexemes (Lexer.lexed_of_lex hlex) h).1

end Rule

end PolicyEngine
