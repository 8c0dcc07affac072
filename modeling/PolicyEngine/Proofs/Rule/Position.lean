import PolicyEngine.Proofs.Rule.Membership
import PolicyEngine.Proofs.Rule.Tiling

/-! Where faults are reported. Each is reported where a lexeme starts, or where the lexemes end that are looked at: the
end of the text, or the word that a part of the rule stands in front of. So it is reported at a visible character of the
text, or at its end. -/
namespace PolicyEngine

open Text (isBlank)

/-- Where a fault in some lexemes can be reported: where one of them starts, or where they end. -/
def Placed (stop : Nat) (ls : List Lexeme) (position : Nat) : Prop := position = stop ∨ ∃ l ∈ ls, position = l.offset

namespace Placed

variable {stop position : Nat} {ls ms : List Lexeme}

theorem start {l : Lexeme} (h : l ∈ ls) : Placed stop ls l.offset := .inr ⟨l, h, rfl⟩

theorem mono (h : Placed stop ls position) (hsub : ls ⊆ ms) : Placed stop ms position :=
  h.imp_right fun ⟨l, hl, hposition⟩ => ⟨l, hsub hl, hposition⟩

/-- Lexemes that end in front of a word. -/
theorem before {word : Lexeme} (h : Placed word.offset ls position) (hsub : ls ⊆ ms) (hword : word ∈ ms) :
    Placed stop ms position := by
  rcases h with rfl | ⟨l, hl, rfl⟩
  · exact start hword
  · exact start (hsub hl)

end Placed

namespace Rule

variable {stop : Nat} {ls : List Lexeme} {e : ParseError}

/-! Readers of single lexemes -/

theorem placed_offsetOr (stop : Nat) (ls : List Lexeme) : Placed stop ls (offsetOr stop ls) := by
  cases ls with
  | nil => exact .inl rfl
  | cons l rest => exact .start List.mem_cons_self

theorem placed_of_failExpected {α : Type} {what : Expectation}
    (h : (failExpected stop what ls : Except _ α) = .error e) :
    Placed stop ls e.position := by
  cases h
  exact placed_offsetOr stop ls

theorem placed_of_expect {token : Token} (h : expect stop token ls = .error e) : Placed stop ls e.position := by
  unfold expect at h
  split at h
  · split at h
    · cases h
    · exact placed_of_failExpected h
  · exact placed_of_failExpected h

theorem position_of_pathOf {text : String} {offset : Nat} (h : pathOf text offset = .error e) :
    e.position = offset := by
  obtain ⟨fault, -, rfl⟩ := mapError_eq_error_iff.1 h
  rfl

theorem position_of_numberOf {text : String} {offset : Nat} (h : numberOf text offset = .error e) :
    e.position = offset := by
  unfold numberOf at h
  split at h
  · cases h
  · cases h
    rfl

theorem placed_of_takePath (h : takePath stop ls = .error e) : Placed stop ls e.position := by
  unfold takePath at h
  split at h
  · rw [position_of_pathOf (map_eq_error_iff.1 h)]
    exact .start List.mem_cons_self
  · exact placed_of_failExpected h

theorem placed_of_expectEnd (h : expectEnd ls = .error e) : Placed stop ls e.position := by
  cases ls with
  | nil => cases h
  | cons l rest =>
    cases h
    exact .start List.mem_cons_self

/-! Calls -/

theorem suffix_of_parseTerm {term : Operand} {rest : Rest ls} (h : parseTerm stop ls = .ok (term, rest)) :
    rest.1 <:+ ls := by
  rw [parseTerm.eq_def] at h
  split at h
  · obtain ⟨⟨operand, others⟩, hcall, heq⟩ := map_eq_ok_iff.1 h
    cases heq
    exact (suffix_of_parseCall hcall).trans ⟨[_, _], rfl⟩
  · obtain ⟨p, -, heq⟩ := map_eq_ok_iff.1 h
    cases heq
    exact List.suffix_cons _ _
  · obtain ⟨x, -, heq⟩ := map_eq_ok_iff.1 h
    cases heq
    exact List.suffix_cons _ _
  · cases h

mutual

/-- A fault in a call is reported at its name or behind it. -/
theorem placed_of_parseCall {stop : Nat} {name : String} {offset : Nat} {ls : List Lexeme} {e : ParseError}
    (h : parseCall stop name offset ls = .error e) : e.position = offset ∨ Placed stop ls e.position := by
  rw [parseCall] at h
  split at h
  · refine .inr ?_
    rcases bind_eq_error_iff.1 h with hfirst | ⟨⟨first, afterFirst, hlength⟩, hfirst, h⟩
    · exact placed_of_parseTerm hfirst
    have hafter : afterFirst <:+ ls := suffix_of_parseTerm hfirst
    simp only at h
    split at h
    · rcases bind_eq_error_iff.1 h with hclose | ⟨_, -, h⟩
      · exact (placed_of_expect hclose).mono hafter.subset
      · cases h
    · have htail : afterFirst.tail <:+ ls := (List.tail_suffix afterFirst).trans hafter
      rcases bind_eq_error_iff.1 h with hsecond | ⟨⟨second, afterSecond, _⟩, hsecond, h⟩
      · have hshorter : afterFirst.tail.length ≤ afterFirst.length := by simp
        exact (placed_of_parseTerm hsecond).mono htail.subset
      have hothers : afterSecond <:+ ls := (suffix_of_parseTerm hsecond).trans htail
      rcases bind_eq_error_iff.1 h with hclose | ⟨_, -, h⟩
      · exact (placed_of_expect hclose).mono hothers.subset
      · cases h
  · split at h
    · refine .inr ?_
      rcases bind_eq_error_iff.1 h with htake | ⟨⟨p, afterPath⟩, htake, h⟩
      · exact placed_of_takePath htake
      rcases bind_eq_error_iff.1 h with hclose | ⟨_, -, h⟩
      · exact (placed_of_expect hclose).mono (suffix_of_takePath htake).subset
      · cases h
    · cases h
      exact .inl rfl
termination_by 2 * ls.length + 1

theorem placed_of_parseTerm {stop : Nat} {ls : List Lexeme} {e : ParseError} (h : parseTerm stop ls = .error e) :
    Placed stop ls e.position := by
  rw [parseTerm.eq_def] at h
  split at h
  · next name _ _ offset _ _ _ inner =>
    rcases placed_of_parseCall (map_eq_error_iff.1 h) with hname | hplaced
    · rw [hname]
      exact .start List.mem_cons_self
    · exact hplaced.mono (List.subset_cons_of_subset _ (List.subset_cons_self _ _))
  · rw [position_of_pathOf (map_eq_error_iff.1 h)]
    exact .start List.mem_cons_self
  · rw [position_of_numberOf (map_eq_error_iff.1 h)]
    exact .start List.mem_cons_self
  · exact placed_of_failExpected h
termination_by 2 * ls.length

end

/-! Parts of rules -/

theorem placed_of_parseOperand {bounded : Bool} (h : parseOperand stop bounded ls = .error e) :
    Placed stop ls e.position := by
  unfold parseOperand at h
  split at h
  · rcases placed_of_parseCall (map_eq_error_iff.1 h) with hname | hplaced
    · rw [hname]
      exact .start List.mem_cons_self
    · exact hplaced.mono (List.subset_cons_of_subset _ (List.subset_cons_self _ _))
  · split at h
    · exact placed_of_failExpected h
    · next hcut =>
      rw [position_of_pathOf (map_eq_error_iff.1 h), ← append_of_cut hcut]
      exact .start List.mem_cons_self
    · next hcut =>
      rw [position_of_numberOf (map_eq_error_iff.1 h), ← append_of_cut hcut]
      exact .start List.mem_cons_self
    · cases h
    · cases h

theorem placed_of_parseCompareOp (h : parseCompareOp stop ls = .error e) : Placed stop ls e.position := by
  unfold parseCompareOp at h
  split at h
  case h_8 =>
    split at h
    · cases h
    · exact (placed_of_failExpected h).mono (List.tail_subset ls)
  case h_9 => exact placed_of_failExpected h
  all_goals cases h

/-- By induction on the lexemes left, element by element. -/
theorem placed_of_parseElements (h : parseElements stop ls = .error e) : Placed stop ls e.position := by
  induction hn : ls.length using Nat.strongRecOn generalizing ls with
  | _ n ih =>
    rw [parseElements_eq] at h
    simp only at h
    split at h
    · exact placed_of_failExpected h
    · split at h
      · exact .inl (by cases h; rfl)
      · next l rest hrest =>
        have hsuffix : l :: rest <:+ ls := hrest ▸ List.dropWhile_suffix _
        split at h
        · have hlength := hsuffix.length_le
          rw [List.length_cons] at hlength
          have hothers : rest <:+ ls := (List.suffix_cons l rest).trans hsuffix
          exact (ih rest.length (by omega) (map_eq_error_iff.1 h) rfl).mono hothers.subset
        · cases h

theorem placed_of_parseList (h : parseList stop ls = .error e) : Placed stop ls e.position := by
  unfold parseList at h
  rcases bind_eq_error_iff.1 h with hexpect | ⟨⟨rest, _⟩, hexpect, h⟩
  · exact placed_of_expect hexpect
  simp only at h
  split at h
  · cases h
  · exact (placed_of_parseElements (map_eq_error_iff.1 h)).mono (suffix_of_expect hexpect).subset

theorem suffix_of_parseElements {items : List String} {after : List Lexeme}
    (h : parseElements stop ls = .ok (items, after)) : after <:+ ls := by
  induction hn : ls.length using Nat.strongRecOn generalizing ls items with
  | _ n ih =>
    obtain ⟨element, m, rest, rfl, -, -, hmark⟩ := of_parseElements h
    have hrest : rest <:+ element ++ m :: rest := (List.suffix_cons m rest).trans (List.suffix_append element _)
    rcases hmark with ⟨-, more, -, hmore⟩ | ⟨-, -, rfl⟩
    · rw [List.length_append, List.length_cons] at hn
      exact (ih rest.length (by omega) hmore rfl).trans hrest
    · exact hrest

theorem suffix_of_parseList {operand : Operand} {after : List Lexeme}
    (h : parseList stop ls = .ok (operand, after)) : after <:+ ls := by
  unfold parseList at h
  obtain ⟨⟨rest, _⟩, hexpect, h⟩ := bind_eq_ok_iff.1 h
  have hrest : rest <:+ ls := suffix_of_expect hexpect
  simp only at h
  split at h
  · cases h
    exact (List.tail_suffix rest).trans hrest
  · obtain ⟨⟨items, others⟩, helements, heq⟩ := map_eq_ok_iff.1 h
    cases heq
    exact (suffix_of_parseElements helements).trans hrest

theorem placed_of_parseSet (h : parseSet stop ls = .error e) : Placed stop ls e.position := by
  unfold parseSet at h
  rcases bind_eq_error_iff.1 h with htake | ⟨⟨target, afterTarget, _⟩, htake, h⟩
  · exact placed_of_takePath htake
  have htarget : afterTarget <:+ ls := suffix_of_takePath htake
  rcases bind_eq_error_iff.1 h with hexpect | ⟨⟨afterAssign, _⟩, hexpect, h⟩
  · exact (placed_of_expect hexpect).mono htarget.subset
  have hassign : afterAssign <:+ ls := (suffix_of_expect hexpect).trans htarget
  rcases bind_eq_error_iff.1 h with hvalue | ⟨⟨value, rest⟩, hvalue, h⟩
  · exact (placed_of_parseOperand hvalue).mono hassign.subset
  have hrest : rest <:+ ls := (suffix_of_parseOperand hvalue).trans hassign
  rcases bind_eq_error_iff.1 h with hend | ⟨_, -, h⟩
  · exact (placed_of_expectEnd hend).mono hrest.subset
  · cases h

theorem placed_of_parseComparison (h : parseComparison stop ls = .error e) : Placed stop ls e.position := by
  unfold parseComparison at h
  rcases bind_eq_error_iff.1 h with hleft | ⟨⟨left, afterLeft⟩, hleft, h⟩
  · exact placed_of_parseOperand hleft
  have hafterLeft : afterLeft <:+ ls := suffix_of_parseOperand hleft
  rcases bind_eq_error_iff.1 h with hop | ⟨⟨op, afterOp⟩, hop, h⟩
  · exact (placed_of_parseCompareOp hop).mono hafterLeft.subset
  obtain ⟨⟨before, hbefore⟩, -⟩ := of_parseCompareOp hop
  have hafterOp : afterOp <:+ ls := (List.suffix_append before afterOp).trans (hbefore ▸ hafterLeft)
  simp only at h
  split at h
  · rcases bind_eq_error_iff.1 h with hright | ⟨⟨right, rest⟩, hright, h⟩
    · exact (placed_of_parseList hright).mono hafterOp.subset
    rcases bind_eq_error_iff.1 h with hend | ⟨_, -, h⟩
    · exact (placed_of_expectEnd hend).mono ((suffix_of_parseList hright).trans hafterOp).subset
    · cases h
  · rcases bind_eq_error_iff.1 h with hright | ⟨⟨right, rest⟩, hright, h⟩
    · exact (placed_of_parseOperand hright).mono hafterOp.subset
    rcases bind_eq_error_iff.1 h with hend | ⟨_, -, h⟩
    · exact (placed_of_expectEnd hend).mono ((suffix_of_parseOperand hright).trans hafterOp).subset
    · cases h

/-! Rules -/

theorem position_of_nullCheckOf? {text : String} {offset : Nat} {negated : Bool}
    (h : nullCheckOf? ls = some (text, offset, negated)) : ∃ l ∈ ls, offset = l.offset := by
  unfold nullCheckOf? at h
  split at h
  · next path op null =>
    refine ⟨path, List.mem_cons_self, ?_⟩
    split at h
    · cases h
      rfl
    · cases h
      rfl
    · cases h
  · cases h

/-- The two parts of a rule at a word: the lexemes of the first end in front of it, those of the other where all
do. -/
theorem placed_of_parts {before after : List Lexeme} {word : Lexeme} {f : Rule → Rule → Rule}
    (hbefore : before ⊆ ls) (hword : word ∈ ls) (hafter : after ⊆ ls)
    (ihBefore : ∀ {e}, ofLexemes word.offset before = .error e → Placed word.offset before e.position)
    (ihAfter : ∀ {e}, ofLexemes stop after = .error e → Placed stop after e.position)
    (h : (do
      let first ← ofLexemes word.offset before
      let second ← ofLexemes stop after
      return f first second : Except ParseError Rule) = .error e) : Placed stop ls e.position := by
  rcases bind_eq_error_iff.1 h with hfirst | ⟨first, -, h⟩
  · exact (ihBefore hfirst).before hbefore hword
  rcases bind_eq_error_iff.1 h with hsecond | ⟨second, -, h⟩
  · exact (ihAfter hsecond).mono hafter
  · cases h

/-- By induction on the lexemes left. -/
theorem placed_of_ofLexemes (h : ofLexemes stop ls = .error e) : Placed stop ls e.position := by
  induction hn : ls.length using Nat.strongRecOn generalizing stop ls e with
  | _ n ih =>
    cases ls with
    | nil =>
      rw [ofLexemes] at h
      cases h
      exact .inl rfl
    | cons first others =>
      rw [ofLexemes_cons] at h
      split at h
      · next before word after hor =>
        have hlength := length_splitAtWord hor
        obtain ⟨hls, -, -⟩ := of_splitAtWord hor
        have hword : word ∈ first :: others := by simp [hls]
        split at h
        · cases h
          exact .start hword
        · exact placed_of_parts (by simp [hls]) hword (by simp [hls]) (fun h => ih _ (by omega) h rfl)
            (fun h => ih _ (by omega) h rfl) h
      · split at h
        · exact (placed_of_parseSet h).mono (List.subset_cons_self _ _)
        · split at h
          · split at h
            · cases h
              exact .inl rfl
            · next before word after hthen =>
              have hlength := length_splitAtWord hthen
              obtain ⟨hls, -, -⟩ := of_splitAtWord hthen
              have hword : word ∈ first :: others := by simp [hls]
              split at h
              · cases h
                exact .start hword
              · have htail : before.tail.length ≤ before.length := by simp
                have hinner : before.tail ⊆ first :: others :=
                  hls ▸ List.subset_append_of_subset_left _ (List.tail_subset before)
                exact placed_of_parts hinner hword (by simp [hls]) (fun h => ih _ (by omega) h rfl)
                  (fun h => ih _ (by omega) h rfl) h
          · split at h
            · next hcheck =>
              obtain ⟨l, hl, hoffset⟩ := position_of_nullCheckOf? hcheck
              rw [position_of_pathOf (map_eq_error_iff.1 h), hoffset]
              exact .start hl
            · exact placed_of_parseComparison h

end Rule

/-! Characters of the text -/

/-- A visible character stands in the text behind so many bytes. -/
def Visible (cs : List Char) (position : Nat) : Prop :=
  ∃ front c back, cs = front ++ c :: back ∧ position = byteSize front ∧ isBlank c = false

namespace Visible

variable {cs : List Char} {position : Nat}

theorem append (h : Visible cs position) (front : List Char) :
    Visible (front ++ cs) (byteSize front + position) := by
  obtain ⟨before, c, after, rfl, rfl, hc⟩ := h
  exact ⟨front ++ before, c, after, by simp, by simp, hc⟩

end Visible

namespace Lexer

/-- Lexemes start with visible characters. -/
theorem visible_of_mem {text : String} {ls : List Lexeme} {l : Lexeme} (h : lex text = .ok ls) (hl : l ∈ ls) :
    Visible text.toList l.offset := by
  obtain ⟨before, after, rfl⟩ := List.append_of_mem hl
  obtain ⟨front, c, rest, previous, count, htext, hc, hoffset, -⟩ := exists_scan h
  exact ⟨front, c, rest, htext, by rw [hoffset, Nat.zero_add], hc⟩

/-- Scanning fails at a visible character. -/
theorem visible_of_error {offset depth : Nat} {previous : Option Token} {gap cs : List Char} {e : ParseError}
    (h : lexFrom offset depth previous gap cs = .error e) : ∃ position, Visible cs position ∧
      e.position = offset + position := by
  fun_induction lexFrom offset depth previous gap cs with
  | case1 => cases h
  | case2 offset depth previous gap c rest hblank ih =>
    obtain ⟨position, hvisible, hposition⟩ := ih h
    refine ⟨_, hvisible.append [c], ?_⟩
    rw [hposition, byteSize_cons, byteSize_nil]
    omega
  | case3 offset depth previous gap c rest hblank fault hscan =>
    cases h
    exact ⟨0, ⟨[], c, rest, rfl, rfl, by simpa using hblank⟩, rfl⟩
  | case4 offset depth previous gap c rest hblank token count hscan text ih =>
    obtain ⟨position, hvisible, hposition⟩ := ih (map_eq_error_iff.1 h)
    have hcs : c :: rest = (c :: rest.take count) ++ rest.drop count := by simp
    exact ⟨_, hcs ▸ hvisible.append _, hposition.trans (Nat.add_assoc _ _ _)⟩

end Lexer

namespace Rule

theorem visible_of_parse {text : String} {e : ParseError} (h : parse text = .error e) :
    e.position = byteSize text.toList ∨ Visible text.toList e.position := by
  unfold parse at h
  rcases bind_eq_error_iff.1 h with hlex | ⟨ls, hlex, hrule⟩
  · obtain ⟨position, hvisible, hposition⟩ := Lexer.visible_of_error hlex
    rw [Nat.zero_add] at hposition
    exact .inr (hposition ▸ hvisible)
  · refine (placed_of_ofLexemes hrule).imp_right ?_
    rintro ⟨l, hl, hposition⟩
    exact hposition ▸ Lexer.visible_of_mem hlex hl

/-- A fault in a text is reported on a boundary of its characters: at its end, or where a visible character stands. -/
theorem position_of_parse_error {text : String} {e : ParseError} (h : parse text = .error e) :
    String.Pos.Raw.IsValid text ⟨e.position⟩ ∧ e.position ≤ text.utf8ByteSize ∧
      (e.position = text.utf8ByteSize ∨
        ∃ c, Covers text e.position (e.position + c.utf8Size) [c] ∧ isBlank c = false) := by
  have hsize : text.utf8ByteSize = byteSize text.toList := utf8ByteSize_of_toList rfl
  rcases visible_of_parse h with hend | ⟨front, c, back, htext, hposition, hc⟩
  · rw [hend, hsize]
    exact ⟨isValid_of_toList (List.append_nil _).symm, le_rfl, .inl rfl⟩
  · have hcovers : Covers text (byteSize front) (byteSize (front ++ [c])) [c] :=
      covers_of_toList (htext.trans (by simp : front ++ c :: back = front ++ [c] ++ back))
    rw [hsize, htext, hposition]
    refine ⟨isValid_of_toList htext, by simp, .inr ⟨c, ?_, hc⟩⟩
    simpa using hcovers

/-- A condition without its right side, behind characters of two bytes. -/
theorem position_of_parse_error_accents : ∃ c,
    parse "IF $.größe > THEN SET $.maß = 1" = .error ⟨15, .expected .operand none⟩ ∧
      String.Pos.Raw.IsValid "IF $.größe > THEN SET $.maß = 1" ⟨15⟩ ∧
      Covers "IF $.größe > THEN SET $.maß = 1" 15 (15 + c.utf8Size) [c] ∧ isBlank c = false := by
  have hparse : parse "IF $.größe > THEN SET $.maß = 1" = .error ⟨15, .expected .operand none⟩ :=
    error?_eq_some_iff.1 (by decide +kernel)
  obtain ⟨hvalid, -, hend | ⟨c, hcovers, hc⟩⟩ := position_of_parse_error hparse
  · exact absurd hend (by decide)
  · exact ⟨c, hparse, hvalid, hcovers, hc⟩

end Rule

end PolicyEngine
