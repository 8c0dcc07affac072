import Mathlib.Data.List.Basic
import PolicyEngine.Proofs.Outcomes
import PolicyEngine.Proofs.Number.Digits
import PolicyEngine.Path.Basic

/-! The grammar of paths: pieces between points, each a name with indices in brackets behind it. Parsing accepts
the texts of the grammar and no others, and the segments of a path render as a text of the grammar, so that it is
read back from the text of each of its places. -/
namespace PolicyEngine

namespace Text

theorem split_append {mark : Char} {cs : List Char} (h : mark ∉ cs) (ds : List Char) :
    split mark (cs ++ mark :: ds) = (cs, (split mark ds).1 :: (split mark ds).2) := by
  induction cs with
  | nil => simp [split]
  | cons c cs ih =>
    rw [List.mem_cons, not_or] at h
    obtain ⟨hc, hcs⟩ := h
    rw [List.cons_append, split, ih hcs]
    simp [Ne.symm hc]

theorem split_of_notMem {mark : Char} {cs : List Char} (h : mark ∉ cs) : split mark cs = (cs, []) := by
  induction cs with
  | nil => rfl
  | cons c cs ih =>
    rw [List.mem_cons, not_or] at h
    obtain ⟨hc, hcs⟩ := h
    rw [split, ih hcs]
    simp [Ne.symm hc]

/-- What stands in front of a mark is what a text starts with up to it. -/
theorem span_mark {mark : Char} {cs : List Char} (h : mark ∉ cs) (ds : List Char) :
    (cs ++ mark :: ds).takeWhile (· ≠ mark) = cs ∧ (cs ++ mark :: ds).dropWhile (· ≠ mark) = mark :: ds := by
  have hkeep : ∀ c ∈ cs, decide (c ≠ mark) = true := fun c hc => decide_eq_true fun heq => h (heq ▸ hc)
  rw [List.takeWhile_append_of_pos hkeep, List.dropWhile_append_of_pos hkeep]
  simp

end Text

namespace Path

/-! Texts of the grammar -/

/-- The texts between brackets that stand for an index. -/
def SpellsIndex (cs : List Char) (i : Nat) : Prop :=
  ∃ sign digits, cs = sign ++ digits ∧ (sign = [] ∨ sign = ['+']) ∧ digits ≠ [] ∧ (∀ c ∈ digits, c.isDigit) ∧
    Number.digitsValue digits = i ∧ i < indexBound

/-- Any number of indices in brackets. -/
inductive SpellsIndices : List Char → List Segment → Prop
  | nil : SpellsIndices [] []
  | cons {cs rest : List Char} {i : Nat} {segments : List Segment} (first : SpellsIndex cs i)
      (others : SpellsIndices rest segments) : SpellsIndices ('[' :: cs ++ ']' :: rest) (.index i :: segments)

/-- The names of keys that a path can spell. -/
structure IsKey (name : List Char) : Prop where
  nonempty : name ≠ []
  point : '.' ∉ name
  opening : '[' ∉ name
  closing : ']' ∉ name

theorem isKey_iff {name : List Char} : IsKey name ↔ name ≠ [] ∧ '.' ∉ name ∧ '[' ∉ name ∧ ']' ∉ name :=
  ⟨fun h => ⟨h.nonempty, h.point, h.opening, h.closing⟩, fun h => ⟨h.1, h.2.1, h.2.2.1, h.2.2.2⟩⟩

instance (name : List Char) : Decidable (IsKey name) := decidable_of_iff _ isKey_iff.symm

/-- A piece of a path: a name with the indices behind it. -/
def SpellsPiece (cs : List Char) (segments : List Segment) : Prop :=
  ∃ name rest indices, cs = name ++ rest ∧ IsKey name ∧ SpellsIndices rest indices ∧
    segments = .key (String.ofList name) :: indices

/-- Pieces with points between them. -/
inductive SpellsPieces : List Char → List Segment → Prop
  | last {cs : List Char} {segments : List Segment} (piece : SpellsPiece cs segments) : SpellsPieces cs segments
  | cons {cs rest : List Char} {segments others : List Segment} (piece : SpellsPiece cs segments)
      (tail : SpellsPieces rest others) : SpellsPieces (cs ++ '.' :: rest) (segments ++ others)

/-- The texts of paths: a dollar sign, a point, and pieces with points between them. -/
def Spells (text : String) (segments : List Segment) : Prop :=
  ∃ body, text.toList = '$' :: '.' :: body ∧ SpellsPieces body segments

/-! Parsing by the grammar -/

theorem SpellsIndex.notMem {cs : List Char} {i : Nat} (h : SpellsIndex cs i) {m : Char} (hdigit : m.isDigit = false)
    (hplus : m ≠ '+') : m ∉ cs := by
  obtain ⟨sign, digits, rfl, hsign, -, hdigits, -⟩ := h
  intro hmem
  rcases List.mem_append.1 hmem with hmem | hmem
  · rcases hsign with rfl | rfl
    · cases hmem
    · exact hplus (List.mem_singleton.1 hmem)
  · rw [hdigits m hmem] at hdigit
    cases hdigit

/-- The closing bracket of an index is the first one in the text. -/
theorem indices_cons {cs : List Char} {i : Nat} (h : SpellsIndex cs i) (rest : List Char) :
    indices ('[' :: cs ++ ']' :: rest) = (indices rest).map (.index i :: ·) := by
  have hopening : '[' ∉ cs := h.notMem (by decide) (by decide)
  have hclosing : ']' ∉ cs := h.notMem (by decide) (by decide)
  have hindex : indexOf? cs = some i := Number.naturalBelow?_eq_some_iff.2 h
  obtain ⟨htake, hdrop⟩ := Text.span_mark hclosing rest
  rw [List.cons_append, indices]
  simp only [htake, hdrop, List.tail_cons, hindex]
  rw [if_neg (by simp [hopening])]

theorem indices_eq_ok_iff {cs : List Char} {segments : List Segment} :
    indices cs = .ok segments ↔ SpellsIndices cs segments := by
  constructor
  · intro h
    induction cs using indices.induct generalizing segments with
    | case1 =>
      rw [indices] at h
      cases h
      exact .nil
    | case2 =>
      rename_i hmalformed
      rw [indices, if_pos hmalformed] at h
      cases h
    | case3 =>
      rename_i hformed hnone
      rw [indices, if_neg hformed, hnone] at h
      cases h
    | case4 c rest =>
      rename_i inner hformed i hindex ih
      rw [indices, if_neg hformed, hindex] at h
      obtain ⟨others, hothers, rfl⟩ := map_eq_ok_iff.1 h
      simp only [not_or, not_not] at hformed
      obtain ⟨rfl, hclosing, -⟩ := hformed
      obtain ⟨front, back, rfl, hfront⟩ := List.eq_append_cons_of_mem hclosing
      obtain ⟨htake, hdrop⟩ := Text.span_mark hfront back
      have hinner : inner = front := htake
      rw [hinner] at hindex
      rw [hdrop, List.tail_cons] at ih hothers
      exact .cons (Number.naturalBelow?_eq_some_iff.1 hindex) (ih hothers)
  · intro h
    induction h with
    | nil => rw [indices]
    | cons first others ih =>
      rw [indices_cons first]
      exact map_eq_ok_iff.2 ⟨_, ih, rfl⟩

theorem SpellsIndices.point_notMem {cs : List Char} {segments : List Segment} (h : SpellsIndices cs segments) :
    '.' ∉ cs := by
  induction h with
  | nil => simp
  | cons first others ih =>
    have hindex := first.notMem (m := '.') (by decide) (by decide)
    simp [hindex, ih]

theorem SpellsIndices.head? {cs : List Char} {segments : List Segment} (h : SpellsIndices cs segments) :
    ∀ c ∈ cs.head?, c = '[' := by
  cases h <;> simp

theorem SpellsPiece.point_notMem {cs : List Char} {segments : List Segment} (h : SpellsPiece cs segments) :
    '.' ∉ cs := by
  obtain ⟨name, rest, indices, rfl, hname, hindices, -⟩ := h
  simp [hname.point, hindices.point_notMem]

/-- A name ends at the first opening bracket, or with its piece. -/
theorem span_name {name rest : List Char} (hname : '[' ∉ name) (hrest : ∀ c ∈ rest.head?, c = '[') :
    (name ++ rest).takeWhile (· ≠ '[') = name ∧ (name ++ rest).dropWhile (· ≠ '[') = rest := by
  have hkeep : ∀ c ∈ name, decide (c ≠ '[') = true := fun c hc => decide_eq_true fun heq => hname (heq ▸ hc)
  rw [List.takeWhile_append_of_pos hkeep, List.dropWhile_append_of_pos hkeep]
  cases rest with
  | nil => simp
  | cons c rest => simp [hrest c rfl]

theorem piece_eq_ok_iff {full : String} {cs : List Char} (hpoint : '.' ∉ cs) {name : String}
    {segments : List Segment} :
    piece full cs = .ok (name, segments) ↔ SpellsPiece cs (.key name :: segments) := by
  constructor
  · intro h
    have hcut : cs.takeWhile (· ≠ '[') ++ cs.dropWhile (· ≠ '[') = cs := List.takeWhile_append_dropWhile
    have hopening : ∀ c ∈ cs.takeWhile (· ≠ '['), c ≠ '[' := fun c hc =>
      of_decide_eq_true (List.all_eq_true.1 List.all_takeWhile c hc)
    have hinside : '.' ∉ cs.takeWhile (· ≠ '[') := fun hmem => hpoint ((List.takeWhile_sublist _).subset hmem)
    unfold piece at h
    split at h
    · cases h
    · simp only at h
      split at h
      · cases h
      · next hname =>
        simp only [Bool.or_eq_true, List.isEmpty_iff, decide_eq_true_eq, not_or] at hname
        split at h
        · next hindices =>
          cases h
          exact ⟨_, _, _, hcut.symm, ⟨hname.1, hinside, (hopening _ · rfl), hname.2⟩, indices_eq_ok_iff.1 hindices, rfl⟩
        · cases h
        · cases h
  · rintro ⟨name', rest, indices, rfl, hname, hindices, heq⟩
    obtain ⟨rfl, rfl⟩ : name = String.ofList name' ∧ segments = indices := by simpa using heq
    obtain ⟨htake, hdrop⟩ := span_name hname.opening hindices.head?
    have hempty : (name' ++ rest).isEmpty = false := by simp [hname.nonempty]
    have hnonempty : name'.isEmpty = false := List.isEmpty_eq_false_iff.2 hname.nonempty
    unfold piece
    simp only [htake, hdrop, hempty, hnonempty, hname.closing, indices_eq_ok_iff.2 hindices]
    simp

theorem spellsPieces_of_pieces {full : String} {first : List Char} {others : List (List Char)} {name : String}
    {segments more : List Segment} (hfirst : '.' ∉ first) (hothers : ∀ cs ∈ others, '.' ∉ cs)
    (hpiece : piece full first = .ok (name, segments)) (hpieces : pieces full others = .ok more) :
    SpellsPieces (Text.join '.' first others) (.key name :: segments ++ more) := by
  induction others generalizing first name segments more with
  | nil =>
    cases hpieces
    rw [Text.join, List.flatMap_nil, List.append_nil, List.append_nil]
    exact .last ((piece_eq_ok_iff hfirst).1 hpiece)
  | cons next rest ih =>
    rw [pieces] at hpieces
    obtain ⟨⟨name', segments'⟩, hnext, hpieces⟩ := bind_eq_ok_iff.1 hpieces
    obtain ⟨more', hrest, heq⟩ := bind_eq_ok_iff.1 hpieces
    cases heq
    obtain ⟨hpoint, hpoints⟩ := List.forall_mem_cons.1 hothers
    rw [Text.join_cons]
    exact .cons ((piece_eq_ok_iff hfirst).1 hpiece) (ih hpoint hpoints hnext hrest)

theorem SpellsPieces.exists_pieces {cs : List Char} {segments : List Segment} (h : SpellsPieces cs segments)
    (full : String) :
    ∃ name firsts others, piece full (Text.split '.' cs).1 = .ok (name, firsts) ∧
      pieces full (Text.split '.' cs).2 = .ok others ∧ segments = .key name :: firsts ++ others := by
  induction h with
  | @last cs segments piece =>
    have hpoint := piece.point_notMem
    obtain ⟨name, rest, indices, -, -, -, rfl⟩ := id piece
    rw [Text.split_of_notMem hpoint]
    exact ⟨_, indices, [], (piece_eq_ok_iff hpoint).2 piece, rfl, by simp⟩
  | @cons cs rest segments others piece tail ih =>
    have hpoint := piece.point_notMem
    obtain ⟨name, firsts, more, hfirst, hmore, rfl⟩ := ih
    obtain ⟨name', rest', indices, -, -, -, rfl⟩ := id piece
    rw [Text.split_append hpoint]
    refine ⟨_, indices, .key name :: firsts ++ more, (piece_eq_ok_iff hpoint).2 piece, ?_, by simp⟩
    exact bind_eq_ok_iff.2 ⟨_, hfirst, bind_eq_ok_iff.2 ⟨_, hmore, rfl⟩⟩

theorem parse_eq_ok_iff {text : String} {p : Path} : parse text = .ok p ↔ Spells text p.segments := by
  constructor
  · intro h
    unfold parse at h
    split at h
    · next body htext =>
      obtain ⟨hfirst, hothers⟩ := Text.notMem_split '.' body
      obtain ⟨⟨root, segments⟩, hpiece, h⟩ := bind_eq_ok_iff.1 h
      obtain ⟨more, hpieces, heq⟩ := bind_eq_ok_iff.1 h
      cases heq
      have hspells := spellsPieces_of_pieces hfirst hothers hpiece hpieces
      rw [Text.join_split] at hspells
      exact ⟨body, htext, hspells⟩
    · cases h
  · rintro ⟨body, htext, hbody⟩
    obtain ⟨name, firsts, others, hfirst, hothers, heq⟩ := hbody.exists_pieces text
    obtain ⟨root, rest⟩ := p
    obtain ⟨hroot, rfl⟩ := List.cons.inj heq
    cases hroot
    unfold parse
    rw [htext]
    exact bind_eq_ok_iff.2 ⟨_, hfirst, bind_eq_ok_iff.2 ⟨_, hothers, rfl⟩⟩

/-! Rendering by the grammar -/

/-- The segments that a text can spell. -/
def IsSpellable : Segment → Prop
  | .key name => IsKey name.toList
  | .index i => i < indexBound

instance : DecidablePred IsSpellable
  | .key name => inferInstanceAs (Decidable (IsKey name.toList))
  | .index i => inferInstanceAs (Decidable (i < indexBound))

def segmentChars (segments : List Segment) : List Char := segments.flatMap fun s => s.render.toList

theorem toList_renderPlace (place : List Segment) : (renderPlace place).toList = '$' :: segmentChars place := by
  have hfold : ∀ text : String,
      (place.foldl (fun text segment => text ++ segment.render) text).toList = text.toList ++ segmentChars place := by
    induction place with
    | nil => simp [segmentChars]
    | cons s rest ih =>
      intro text
      rw [List.foldl_cons, ih, String.toList_append, List.append_assoc]
      rfl
  exact hfold "$"

theorem toList_render_key (name : String) : (Segment.key name).render.toList = '.' :: name.toList := by
  simp [Segment.render]

/-- The text of an index between its brackets. -/
def indexChars (i : Nat) : List Char := '[' :: Number.digitsOf i ++ [']']

theorem toList_render_index (i : Nat) : (Segment.index i).render.toList = indexChars i := by
  simp [Segment.render, indexChars, Number.digitsOf]

theorem segmentChars_key (name : String) (rest : List Segment) :
    segmentChars (.key name :: rest) = '.' :: (name.toList ++ segmentChars rest) := by
  rw [segmentChars, List.flatMap_cons, toList_render_key]
  rfl

theorem segmentChars_index (i : Nat) (rest : List Segment) :
    segmentChars (.index i :: rest) = indexChars i ++ segmentChars rest := by
  rw [segmentChars, List.flatMap_cons, toList_render_index]
  rfl

theorem SpellsIndices.append {cs ds : List Char} {segments more : List Segment} (h : SpellsIndices cs segments)
    (hmore : SpellsIndices ds more) : SpellsIndices (cs ++ ds) (segments ++ more) := by
  induction h with
  | nil => exact hmore
  | cons first others ih => simpa using SpellsIndices.cons first ih

theorem spellsIndices_indexChars {i : Nat} (h : i < indexBound) : SpellsIndices (indexChars i) [.index i] :=
  .cons (Number.naturalBelow?_eq_some_iff.1 (Number.naturalBelow?_digitsOf h)) .nil

theorem SpellsPiece.append_index {cs : List Char} {segments : List Segment} (h : SpellsPiece cs segments) {i : Nat}
    (hi : i < indexBound) : SpellsPiece (cs ++ indexChars i) (segments ++ [.index i]) := by
  obtain ⟨name, rest, indices, rfl, hname, hindices, rfl⟩ := h
  exact ⟨name, rest ++ indexChars i, indices ++ [.index i], List.append_assoc .., hname,
    hindices.append (spellsIndices_indexChars hi), rfl⟩

theorem spellsPiece_key {name : String} (h : IsKey name.toList) : SpellsPiece name.toList [.key name] :=
  ⟨name.toList, [], [], (List.append_nil _).symm, h, .nil, by rw [String.ofList_toList]⟩

/-- An index belongs to the piece in front of it, and a key opens the next piece. -/
theorem SpellsPiece.append_segments {cs : List Char} {firsts rest : List Segment} (hpiece : SpellsPiece cs firsts)
    (h : ∀ s ∈ rest, IsSpellable s) : SpellsPieces (cs ++ segmentChars rest) (firsts ++ rest) := by
  induction rest generalizing cs firsts with
  | nil =>
    rw [segmentChars, List.flatMap_nil, List.append_nil, List.append_nil]
    exact .last hpiece
  | cons s rest ih =>
    obtain ⟨hs, hrest⟩ := List.forall_mem_cons.1 h
    cases s with
    | index i =>
      have hspells := ih (hpiece.append_index hs) hrest
      rwa [List.append_assoc, List.append_assoc, ← segmentChars_index] at hspells
    | key name =>
      rw [segmentChars_key]
      exact .cons hpiece (ih (spellsPiece_key hs) hrest)

theorem spells_renderPlace {name : String} {rest : List Segment} (hname : IsKey name.toList)
    (hrest : ∀ s ∈ rest, IsSpellable s) : Spells (renderPlace (.key name :: rest)) (.key name :: rest) :=
  ⟨name.toList ++ segmentChars rest, by rw [toList_renderPlace, segmentChars_key],
    (spellsPiece_key hname).append_segments hrest⟩

theorem SpellsIndices.spellable {cs : List Char} {segments : List Segment} (h : SpellsIndices cs segments) :
    ∀ s ∈ segments, IsSpellable s := by
  induction h with
  | nil => simp
  | cons first others ih =>
    obtain ⟨-, -, -, -, -, -, -, hbound⟩ := first
    exact List.forall_mem_cons.2 ⟨hbound, ih⟩

theorem SpellsPiece.spellable {cs : List Char} {segments : List Segment} (h : SpellsPiece cs segments) :
    ∀ s ∈ segments, IsSpellable s := by
  obtain ⟨name, rest, indices, -, hname, hindices, rfl⟩ := h
  refine List.forall_mem_cons.2 ⟨?_, hindices.spellable⟩
  rwa [IsSpellable, String.toList_ofList]

theorem SpellsPieces.spellable {cs : List Char} {segments : List Segment} (h : SpellsPieces cs segments) :
    ∀ s ∈ segments, IsSpellable s := by
  induction h with
  | last piece => exact piece.spellable
  | cons piece tail ih =>
    intro s hs
    exact (List.mem_append.1 hs).elim (piece.spellable s) (ih s)

theorem spellable_of_parse {text : String} {p : Path} (h : parse text = .ok p) :
    ∀ s ∈ p.segments, IsSpellable s := by
  obtain ⟨body, -, hbody⟩ := parse_eq_ok_iff.1 h
  exact hbody.spellable

theorem parse_renderPlace {name : String} {rest : List Segment} (h : ∀ s ∈ Segment.key name :: rest, IsSpellable s) :
    parse (renderPlace (.key name :: rest)) = .ok ⟨name, rest⟩ := by
  obtain ⟨hname, hrest⟩ := List.forall_mem_cons.1 h
  exact parse_eq_ok_iff.2 (spells_renderPlace hname hrest)

theorem parse_renderPlace_of_prefix {text : String} {p : Path} (h : parse text = .ok p) {place : List Segment}
    (hplace : place <+: p.segments) (hne : place ≠ []) :
    ∃ q, parse (renderPlace place) = .ok q ∧ q.segments = place := by
  have hspellable : ∀ s ∈ place, IsSpellable s := fun s hs => spellable_of_parse h s (hplace.subset hs)
  cases place with
  | nil => exact absurd rfl hne
  | cons s rest =>
    obtain ⟨rfl, -⟩ := List.cons_prefix_cons.1 hplace
    exact ⟨⟨p.root, rest⟩, parse_renderPlace hspellable, rfl⟩

/-- Parsing accepts the texts of the grammar and reads off their segments, and the texts of a parsed path and of its
beginnings read back to their segments. -/
theorem parse_accepts_grammar (text : String) :
    (∀ p, parse text = .ok p ↔ Spells text p.segments) ∧
      ((∃ p, parse text = .ok p) ↔ ∃ segments, Spells text segments) ∧
      ∀ p, parse text = .ok p →
        (∀ len, 0 < len → ∃ q, parse (p.renderPrefix len) = .ok q ∧ q.segments = p.segments.take len) ∧
        parse p.render = .ok p := by
  refine ⟨fun p => parse_eq_ok_iff, ⟨?_, ?_⟩, fun p h => ⟨fun len hpos => ?_, ?_⟩⟩
  · rintro ⟨p, h⟩
    exact ⟨p.segments, parse_eq_ok_iff.1 h⟩
  · rintro ⟨segments, body, htext, hbody⟩
    obtain ⟨name, firsts, others, -, -, rfl⟩ := hbody.exists_pieces text
    exact ⟨⟨name, firsts ++ others⟩, parse_eq_ok_iff.2 ⟨body, htext, hbody⟩⟩
  · refine parse_renderPlace_of_prefix h (List.take_prefix len p.segments) ?_
    rw [ne_eq, List.take_eq_nil_iff, not_or]
    exact ⟨Nat.pos_iff_ne_zero.1 hpos, p.segments_ne_nil⟩
  · exact parse_renderPlace (spellable_of_parse h)

/-- A name with a blank, and an index with a plus and leading zeros. -/
theorem parse_signed_index :
    parse "$.a b[+07][0].c" = .ok ⟨"a b", [.index 7, .index 0, .key "c"]⟩ ∧
      ∃ q, parse "$.a b[7]" = .ok q ∧ q.segments = [.key "a b", .index 7] := by
  have hseven : SpellsIndex ['+', '0', '7'] 7 :=
    ⟨['+'], ['0', '7'], rfl, .inr rfl, by decide, List.all_eq_true.1 rfl, by decide, by decide⟩
  have hzero : SpellsIndex ['0'] 0 :=
    ⟨[], ['0'], rfl, .inl rfl, by decide, List.all_eq_true.1 rfl, by decide, by decide⟩
  have hpiece : SpellsPiece "a b[+07][0]".toList [.key "a b", .index 7, .index 0] :=
    ⟨"a b".toList, "[+07][0]".toList, _, by decide, by decide, .cons hseven (.cons hzero .nil), by decide⟩
  have hlast : SpellsPieces "c".toList [.key "c"] := .last (spellsPiece_key (by decide))
  obtain ⟨hreads, -, hback⟩ := parse_accepts_grammar "$.a b[+07][0].c"
  have hparse := (hreads ⟨"a b", [.index 7, .index 0, .key "c"]⟩).2
    ⟨"a b[+07][0].c".toList, by decide, .cons hpiece hlast⟩
  exact ⟨hparse, (hback _ hparse).1 2 (by decide)⟩

end Path

end PolicyEngine
