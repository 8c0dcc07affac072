import PolicyEngine.Proofs.Rule.Membership
import PolicyEngine.Proofs.Rule.Tiling
import PolicyEngine.Proofs.Rule.WellFormed

/-! Texts that rules take from their source as they stand there: bare literals, and elements of lists. Each is what
stands between the first and the last of some lexemes in a row. -/
namespace PolicyEngine

/-- A text that is taken as it stands: the characters of some lexemes in a row, with the blanks between them. -/
def Verbatim (ls : List Lexeme) (text : String) : Prop :=
  ∃ extent, extent <:+: ls ∧ extent ≠ [] ∧ text = String.ofList (Lexeme.source extent)

theorem Verbatim.mono {ls ms : List Lexeme} {text : String} (h : Verbatim ls text) (hstretch : ls <:+: ms) :
    Verbatim ms text := by
  obtain ⟨extent, hextent, hne, rfl⟩ := h
  exact ⟨extent, hextent.trans hstretch, hne, rfl⟩

namespace Operand

/-- Where the literal or the elements of an operand are from: a number, a quoted text, or text as it stands. -/
def TakenFrom (ls : List Lexeme) : Operand → Prop
  | .literal v => (∃ l ∈ ls, ∃ text x, l.token = .number text ∧ Number.ofText? text = some x ∧ v = .number x) ∨
    (∃ l ∈ ls, ∃ content, l.token = .string content ∧ v = .string content) ∨
    ∃ text, Verbatim ls text ∧ v = .ofLiteral text
  | .list items => ∀ item ∈ items, (∃ l ∈ ls, l.token = .string item) ∨ Verbatim ls item
  | _ => True

variable {ls ms : List Lexeme} {operand : Operand}

theorem TakenFrom.mono (h : operand.TakenFrom ls) (hstretch : ls <:+: ms) : operand.TakenFrom ms := by
  cases operand with
  | literal v =>
    rcases h with ⟨l, hl, hnumber⟩ | ⟨l, hl, hstring⟩ | ⟨text, hverbatim, rfl⟩
    · exact .inl ⟨l, hstretch.subset hl, hnumber⟩
    · exact .inr (.inl ⟨l, hstretch.subset hl, hstring⟩)
    · exact .inr (.inr ⟨text, hverbatim.mono hstretch, rfl⟩)
  | list items =>
    intro item hitem
    rcases h item hitem with ⟨l, hl, hstring⟩ | hverbatim
    · exact .inl ⟨l, hstretch.subset hl, hstring⟩
    · exact .inr (hverbatim.mono hstretch)
  | _ => trivial

end Operand

namespace Rule

variable {stop : Nat} {ls rest : List Lexeme} {operand : Operand}

/-- The numbers in a call are from lexemes of their own. -/
theorem takenFrom_of_parseCall {name : String} {offset : Nat} {after : Rest ls}
    (h : parseCall stop name offset ls = .ok (operand, after)) : ∀ part ∈ operand.parts, part.TakenFrom ls := by
  have hboth : (∀ part ∈ operand.parts, part.TakenFrom ls) ∧ after.1 <:+ ls := by
    refine parseCall_induction (P := fun ls operand rest => (∀ part ∈ operand.parts, part.TakenFrom ls) ∧ rest <:+ ls)
      (Q := fun ls operand rest => (∀ part ∈ operand.parts, part.TakenFrom ls) ∧ rest <:+ ls)
      ?exp ?arith ?aggregate ?call ?path ?number h
    case exp =>
      rintro ls term after rest ⟨hterm, hafter⟩ hclose
      exact ⟨List.forall_mem_cons.2 ⟨trivial, hterm⟩, (suffix_of_expect hclose).trans hafter⟩
    case arith =>
      rintro ls left after op right others rest ⟨hleft, hafter⟩ _ ⟨hright, hothers⟩ hclose
      have hbehind : after.tail <:+ ls := (List.tail_suffix after).trans hafter
      have hparts := fun part hpart => (hright part hpart).mono hbehind.isInfix
      exact ⟨List.forall_mem_cons.2 ⟨trivial, List.forall_mem_append.2 ⟨hleft, hparts⟩⟩,
        (suffix_of_expect hclose).trans (hothers.trans hbehind)⟩
    case aggregate =>
      intro ls op p after rest htake hclose
      exact ⟨List.forall_mem_singleton.2 trivial, (suffix_of_expect hclose).trans (suffix_of_takePath htake)⟩
    case call =>
      rintro name l paren inner operand rest _ _ ⟨hparts, hrest⟩
      have hsuffix : inner <:+ l :: paren :: inner := ⟨[l, paren], rfl⟩
      exact ⟨fun part hpart => (hparts part hpart).mono hsuffix.isInfix, hrest.trans hsuffix⟩
    case path =>
      intro text l p rest _ _
      exact ⟨List.forall_mem_singleton.2 trivial, List.suffix_cons l rest⟩
    case number =>
      intro text l x rest htoken hx
      have hnumber : (Operand.literal (.number x)).TakenFrom (l :: rest) :=
        .inl ⟨l, List.mem_cons_self, text, x, htoken, hx, rfl⟩
      exact ⟨List.forall_mem_singleton.2 hnumber, List.suffix_cons l rest⟩
  exact hboth.1

theorem takenFrom_of_parseOperand {bounded : Bool} (h : parseOperand stop bounded ls = .ok (operand, rest)) :
    ∀ part ∈ operand.parts, part.TakenFrom ls := by
  unfold parseOperand at h
  split at h
  · obtain ⟨⟨operand', others⟩, hcall, heq⟩ := map_eq_ok_iff.1 h
    cases heq
    exact fun part hpart => (takenFrom_of_parseCall hcall part hpart).mono ⟨[_, _], [], List.append_nil _⟩
  · split at h
    · cases h
    · obtain ⟨p, -, heq⟩ := map_eq_ok_iff.1 h
      cases heq
      exact List.forall_mem_singleton.2 trivial
    · next hcut =>
      obtain ⟨x, hx, heq⟩ := map_eq_ok_iff.1 h
      cases heq
      rw [← append_of_cut hcut]
      exact List.forall_mem_singleton.2 (.inl ⟨_, List.mem_cons_self, _, x, rfl, of_numberOf hx, rfl⟩)
    · next hcut =>
      cases h
      rw [← append_of_cut hcut]
      exact List.forall_mem_singleton.2 (.inr (.inl ⟨_, List.mem_cons_self, _, rfl, rfl⟩))
    · next extent others hne _ _ _ hcut =>
      cases h
      have hextent : extent ≠ [] := by
        rintro rfl
        exact hne rfl
      have hverbatim : Verbatim ls (String.ofList (Lexeme.source extent)) :=
        ⟨extent, ⟨[], _, append_of_cut hcut⟩, hextent, rfl⟩
      exact List.forall_mem_singleton.2 (.inr (.inr ⟨_, hverbatim, rfl⟩))

theorem takenFrom_elementText {element : List Lexeme} (hne : element ≠ []) (helement : element <:+: ls) :
    (∃ l ∈ ls, l.token = .string (elementText element)) ∨ Verbatim ls (elementText element) := by
  unfold elementText
  split
  · exact .inl ⟨_, helement.subset List.mem_cons_self, rfl⟩
  · exact .inr ⟨element, helement, hne, rfl⟩

/-- By induction on the lexemes left, element by element. -/
theorem takenFrom_of_parseElements {items : List String} (h : parseElements stop ls = .ok (items, rest)) :
    (Operand.list items).TakenFrom ls := by
  induction hn : ls.length using Nat.strongRecOn generalizing ls items with
  | _ n ih =>
    obtain ⟨element, m, others, rfl, hne, -, hitems⟩ := of_parseElements h
    have hfirst := takenFrom_elementText hne (List.infix_append [] element (m :: others))
    rcases hitems with ⟨-, more, rfl, hmore⟩ | ⟨-, rfl, -⟩
    · have hothers : others <:+: element ++ m :: others := ((List.suffix_cons m others).trans
        (List.suffix_append element _)).isInfix
      have hlength : others.length < n := by
        rw [← hn, List.length_append, List.length_cons]
        omega
      exact List.forall_mem_cons.2 ⟨hfirst, (ih _ hlength hmore rfl).mono hothers⟩
    · exact List.forall_mem_singleton.2 hfirst

theorem takenFrom_of_parseList (h : parseList stop ls = .ok (operand, rest)) :
    ∀ part ∈ operand.parts, part.TakenFrom ls := by
  unfold parseList at h
  obtain ⟨⟨others, _⟩, hexpect, h⟩ := bind_eq_ok_iff.1 h
  have hsuffix : others <:+ ls := suffix_of_expect hexpect
  simp only at h
  split at h
  · cases h
    exact List.forall_mem_singleton.2 fun item hitem => absurd hitem List.not_mem_nil
  · obtain ⟨⟨items, after⟩, helements, heq⟩ := map_eq_ok_iff.1 h
    cases heq
    exact List.forall_mem_singleton.2 ((takenFrom_of_parseElements helements).mono hsuffix.isInfix)

/-! Rules -/

/-- The operands of a rule and their parts are taken from some lexemes, at each of its nodes. -/
def TakenFrom (ls : List Lexeme) (rule : Rule) : Prop :=
  ∀ node ∈ rule.nodes, ∀ operand ∈ node.operands, ∀ part ∈ operand.parts, part.TakenFrom ls

variable {ms : List Lexeme} {rule : Rule}

theorem TakenFrom.mono (h : rule.TakenFrom ls) (hstretch : ls <:+: ms) : rule.TakenFrom ms :=
  fun node hnode operand hoperand part hpart => (h node hnode operand hoperand part hpart).mono hstretch

theorem takenFrom_of_parseSet (h : parseSet stop ls = .ok rule) : rule.TakenFrom ls := by
  unfold parseSet at h
  obtain ⟨⟨target, afterTarget, htarget⟩, htake, h⟩ := bind_eq_ok_iff.1 h
  obtain ⟨⟨afterAssign, hassign⟩, hexpect, h⟩ := bind_eq_ok_iff.1 h
  obtain ⟨⟨value, after⟩, hvalue, h⟩ := bind_eq_ok_iff.1 h
  obtain ⟨-, -, h⟩ := bind_eq_ok_iff.1 h
  cases h
  have hsuffix : afterAssign <:+ ls := (suffix_of_expect hexpect).trans (suffix_of_takePath htake)
  have htaken := fun part hpart => (takenFrom_of_parseOperand hvalue part hpart).mono hsuffix.isInfix
  exact List.forall_mem_singleton.2 (List.forall_mem_singleton.2 htaken)

theorem takenFrom_of_parseComparison (h : parseComparison stop ls = .ok rule) : rule.TakenFrom ls := by
  unfold parseComparison at h
  obtain ⟨⟨left, afterLeft⟩, hleft, h⟩ := bind_eq_ok_iff.1 h
  obtain ⟨⟨op, afterOp⟩, hop, h⟩ := bind_eq_ok_iff.1 h
  obtain ⟨⟨before, hbefore⟩, -⟩ := of_parseCompareOp hop
  have hsuffix : afterOp <:+ ls := (List.suffix_append before afterOp).trans (hbefore ▸ suffix_of_parseOperand hleft)
  have htakenLeft := takenFrom_of_parseOperand hleft
  have hboth : ∀ right : Operand, (∀ part ∈ right.parts, part.TakenFrom afterOp) →
      (compare left op right).TakenFrom ls := by
    intro right hright
    refine List.forall_mem_singleton.2 (List.forall_mem_cons.2 ⟨htakenLeft, List.forall_mem_singleton.2 ?_⟩)
    exact fun part hpart => (hright part hpart).mono hsuffix.isInfix
  simp only at h
  split at h
  · obtain ⟨⟨right, after⟩, hright, h⟩ := bind_eq_ok_iff.1 h
    obtain ⟨-, -, h⟩ := bind_eq_ok_iff.1 h
    cases h
    exact hboth right (takenFrom_of_parseList hright)
  · obtain ⟨⟨right, after⟩, hright, h⟩ := bind_eq_ok_iff.1 h
    obtain ⟨-, -, h⟩ := bind_eq_ok_iff.1 h
    cases h
    exact hboth right (takenFrom_of_parseOperand hright)

theorem takenFrom_of_ofLexemes (h : ofLexemes stop ls = .ok rule) : rule.TakenFrom ls := by
  refine ofLexemes_induction (P := TakenFrom) ?or ?set ?conditional ?nullCheck ?compare h
  case or =>
    intro ls before word after left right hor ihLeft ihRight
    obtain ⟨rfl, -, -⟩ := of_splitAtWord hor
    have hleft := ihLeft.mono (List.prefix_append before (word :: after)).isInfix
    have hright := ihRight.mono ((List.suffix_cons word after).trans (List.suffix_append before _)).isInfix
    exact List.forall_mem_cons.2 ⟨by simp [operands], List.forall_mem_append.2 ⟨hleft, hright⟩⟩
  case set =>
    intro stop first others rule hset
    exact (takenFrom_of_parseSet hset).mono (List.suffix_cons first others).isInfix
  case conditional =>
    intro first others inner word after condition action _ _ hthen ihCondition ihAction
    obtain ⟨hls, -, -⟩ := of_splitAtWord hthen
    rw [hls]
    have hcondition := ihCondition.mono (List.infix_append [first] inner (word :: after))
    have haction := ihAction.mono ((List.suffix_cons word after).trans (List.suffix_append (first :: inner) _)).isInfix
    exact List.forall_mem_cons.2 ⟨by simp [operands], List.forall_mem_append.2 ⟨hcondition, haction⟩⟩
  case nullCheck =>
    intro ls text offset negated p _ _
    exact List.forall_mem_singleton.2 (by simp [operands])
  case compare =>
    intro stop ls rule _ hcompare
    exact takenFrom_of_parseComparison hcompare

/-- The lexemes of a text tile it. So lexemes in a row cover a stretch of it that starts with the text of the first of
them and ends with that of the last, and such stretches are what a rule takes from its text as it stands. -/
theorem lexemes_tile {text : String} (h : Lexer.lex text = .ok ls) :
    Tiles text 0 ls ∧ (ls.Pairwise fun l m => l.stop ≤ m.offset) ∧
      (∀ extent, extent <:+: ls → ∀ first ∈ extent.head?, ∀ last ∈ extent.getLast?,
        Covers text first.offset last.stop (Lexeme.source extent) ∧ first.text <+: Lexeme.source extent ∧
          last.text <:+ Lexeme.source extent) ∧
      ∀ rule, parse text = .ok rule → rule.TakenFrom ls := by
  have htiles := tiles_of_lex h
  refine ⟨htiles, htiles.pairwise, fun extent hextent first hfirst last hlast => ?_, fun rule hparse => ?_⟩
  · exact ⟨covers_extent h hextent hfirst hlast, Lexeme.isPrefix_source hfirst, Lexeme.isSuffix_source hlast⟩
  · unfold parse at hparse
    rw [h] at hparse
    exact takenFrom_of_ofLexemes hparse

/-- Characters of two bytes, and an element of two words with two blanks between them. -/
theorem lexemes_tile_accents : ∃ ls rule, Lexer.lex "$.größe IN [très  chaud, 'x']" = .ok ls ∧
    parse "$.größe IN [très  chaud, 'x']" = .ok rule ∧ rule.render = "$.größe IN [très  chaud, x]" ∧
    ls.map Lexeme.offset = [0, 10, 13, 14, 21, 26, 28, 31] ∧ ls.map Lexeme.stop = [9, 12, 14, 19, 26, 27, 31, 32] ∧
    Tiles "$.größe IN [très  chaud, 'x']" 0 ls ∧ (ls.Pairwise fun l m => l.stop ≤ m.offset) ∧ rule.TakenFrom ls := by
  have hlexed : (Lexer.lex "$.größe IN [très  chaud, 'x']").toOption.any (fun ls =>
      ls.map Lexeme.offset == [0, 10, 13, 14, 21, 26, 28, 31] &&
        ls.map Lexeme.stop == [9, 12, 14, 19, 26, 27, 31, 32]) = true := by decide +kernel
  have hparsed : (parse "$.größe IN [très  chaud, 'x']").toOption.any
      (fun rule => rule.render == "$.größe IN [très  chaud, x]") = true := by decide +kernel
  obtain ⟨ls, hlex, hplaces⟩ := exists_eq_ok_of_any hlexed
  obtain ⟨rule, hparse, hrender⟩ := exists_eq_ok_of_any hparsed
  simp only [Bool.and_eq_true, beq_iff_eq] at hplaces hrender
  obtain ⟨htiles, hpairwise, -, htaken⟩ := lexemes_tile hlex
  exact ⟨ls, rule, hlex, hparse, hrender, hplaces.1, hplaces.2, htiles, hpairwise, htaken rule hparse⟩

end Rule

end PolicyEngine
