import PolicyEngine.Proofs.Json.Numeral
import PolicyEngine.Proofs.Json.Spelling

/-! The JSON text of a document is read as one tree. Texts and containers come back as they were written; a
number comes back as whatever its own spelling is read as. -/
namespace PolicyEngine
open Json (Node Rest readLeaf readValue readItems readMembers skipBlanks piece nullChars)

namespace Value

/-- What the text of a number is read as. -/
def numberNode (x : Float) : Node := ((readLeaf (numberChars x)).map Prod.fst).getD .null

mutual

/-- The tree that the text of a document is read as. -/
def node : Value → Node
  | .null => .null
  | .bool b => .bool b
  | .number x => numberNode x
  | .string s => .string (s.toList.map piece)
  | .array items => .array (itemNodes items)
  | .object fields => .object (memberNodes fields)

def itemNodes : List Value → List Node
  | [] => []
  | item :: rest => node item :: itemNodes rest

def memberNodes : List (String × Value) → List (List Json.Piece × Node)
  | [] => []
  | (key, value) :: rest => (key.toList.map piece, node value) :: memberNodes rest

end

end Value

namespace Json

/-- What stands after a value in a written text. -/
def EndsValue (rest : List Char) : Prop := ∀ c ∈ rest.head?, c = ',' ∨ c = ']' ∨ c = '}'

theorem EndsValue.number {rest : List Char} (h : EndsValue rest) : EndsNumber rest := by
  intro c hc
  rcases h c hc with rfl | rfl | rfl <;> decide

theorem endsValue_cons {c : Char} (h : c = ',' ∨ c = ']' ∨ c = '}') (rest : List Char) : EndsValue (c :: rest) := by
  intro d hd
  cases hd
  exact h

/-! Leaves -/

theorem readLeaf_numeral {t : NumberText} (h : t.WellFormed) {rest : List Char} (hrest : EndsNumber rest) :
    readLeaf (t.chars ++ rest) = some (.number t, rest) := by
  obtain ⟨c, cs, hchars, hc⟩ := h.head
  have hne : ∀ m ∈ ['"', 'n', 't', 'f'], c ≠ m := by
    rintro m hm rfl
    rcases hc with rfl | hc
    · exact absurd hm (by decide)
    · have hdigit : ∀ m ∈ ['"', 'n', 't', 'f'], m.isDigit = false := by simp
      rw [hdigit c hm] at hc
      cases hc
  have hread := h.readNumber hrest
  rw [hchars] at hread ⊢
  rw [List.cons_append] at hread ⊢
  rw [readLeaf, if_neg (hne _ (by decide)), if_neg (hne _ (by decide)), if_neg (hne _ (by decide)),
    if_neg (hne _ (by decide)), hread]
  rfl

/-- A number that is written as a numeral is read as that numeral. -/
theorem numberNode_eq {x : Float} {t : NumberText} (h : t.WellFormed) (hchars : Value.numberChars x = t.chars) :
    Value.numberNode x = .number t := by
  have hend : EndsNumber [] := by simp [EndsNumber]
  have hread := readLeaf_numeral h hend
  rw [List.append_nil] at hread
  rw [Value.numberNode, hchars, hread]
  rfl

theorem readLeaf_numberChars (x : Float) {rest : List Char} (hrest : EndsNumber rest) :
    readLeaf (Value.numberChars x ++ rest) = some (Value.numberNode x, rest) := by
  rcases exists_numeral x with ⟨t, ht, hchars⟩ | hchars
  · rw [numberNode_eq ht hchars, hchars]
    exact readLeaf_numeral ht hrest
  · rw [Value.numberNode, hchars]
    rfl

theorem readLeaf_quoteChars (s : String) (rest : List Char) :
    readLeaf (quoteChars s ++ rest) = some (.string (s.toList.map piece), rest) := by
  have hquoted := readQuoted_quoteChars s.toList rest
  have htext : quoteChars s ++ rest = '"' :: (s.toList.flatMap escapeChar ++ '"' :: rest) := by
    simp [quoteChars]
  rw [htext, readLeaf, if_pos rfl, hquoted]
  rfl

theorem readValue_of_leaf {c : Char} {cs after : List Char} {leaf : Node} (hopening : c ≠ '[' ∧ c ≠ '{')
    (h : readLeaf (c :: cs) = some (leaf, after)) :
    ∃ rest, readValue (c :: cs) = some (leaf, rest) ∧ rest.1 = after := by
  refine ⟨⟨after, length_readLeaf h⟩, ?_, rfl⟩
  rw [readValue, if_neg hopening.1, if_neg hopening.2]
  split
  · next heq =>
    rw [h] at heq
    cases heq
    rfl
  · next heq =>
    rw [h] at heq
    cases heq

/-! Documents -/

theorem skipBlanks_cons {c : Char} (h : isBlank c = false) (cs : List Char) : skipBlanks (c :: cs) = c :: cs := by
  simp [skipBlanks, h]

/-- The first character of a value is neither blank nor the end of a container. -/
theorem exists_jsonChars (v : Value) :
    ∃ c cs, v.jsonChars = c :: cs ∧ isBlank c = false ∧ c ≠ ']' ∧ c ≠ '}' ∧
      (v.isScalar = true → c ≠ '[' ∧ c ≠ '{') := by
  cases v with
  | null => exact ⟨'n', _, rfl, by decide⟩
  | bool b => cases b <;> exact ⟨_, _, rfl, by decide⟩
  | number x =>
    rcases exists_numeral x with ⟨t, ht, hchars⟩ | hchars
    · obtain ⟨c, cs, htext, hc⟩ := ht.head
      refine ⟨c, cs, hchars.trans htext, ?_⟩
      rcases hc with rfl | hc
      · simp [isBlank]
      · have hmark : ∀ m ∈ [' ', '\t', '\n', '\r', ']', '}', '[', '{'], m.isDigit = false := by simp
        have hne : ∀ m ∈ [' ', '\t', '\n', '\r', ']', '}', '[', '{'], c ≠ m := by
          rintro m hm rfl
          rw [hmark c hm] at hc
          cases hc
        simp only [List.mem_cons, List.not_mem_nil, or_false, forall_eq_or_imp, forall_eq] at hne
        simp [isBlank, hne]
    · exact ⟨'n', _, hchars, by simp [isBlank]⟩
  | string s => exact ⟨'"', _, rfl, by simp [isBlank]⟩
  | array items => exact ⟨'[', _, rfl, by decide, by decide, by decide, fun h => by cases h⟩
  | object fields => exact ⟨'{', _, rfl, by decide, by decide, by decide, fun h => by cases h⟩

theorem skipBlanks_jsonChars (v : Value) (rest : List Char) :
    skipBlanks (v.jsonChars ++ rest) = v.jsonChars ++ rest := by
  obtain ⟨c, cs, hchars, hblank, -⟩ := exists_jsonChars v
  rw [hchars, List.cons_append, skipBlanks_cons hblank]

theorem readValue_scalar {v : Value} (hscalar : v.isScalar = true) {rest : List Char}
    (h : readLeaf (v.jsonChars ++ rest) = some (v.node, rest)) :
    ∃ after, readValue (v.jsonChars ++ rest) = some (v.node, after) ∧ after.1 = rest := by
  obtain ⟨c, cs, hchars, -, -, -, hopening⟩ := exists_jsonChars v
  rw [hchars, List.cons_append] at h ⊢
  exact readValue_of_leaf (hopening hscalar) h

/-! Containers -/

/-- Whether a text is read as a tree, up to what follows it. -/
def ReadsTo (cs : List Char) (node : Node) (rest : List Char) : Prop :=
  ∃ after, readValue cs = some (node, after) ∧ after.1 = rest

def ItemsReadTo (cs : List Char) (items : List Node) (rest : List Char) : Prop :=
  ∃ after, readItems cs = some (items, after) ∧ after.1 = rest

def MembersReadTo (cs : List Char) (members : List (List Piece × Node)) (rest : List Char) : Prop :=
  ∃ after, readMembers cs = some (members, after) ∧ after.1 = rest

theorem readsTo_array_nil (rest : List Char) : ReadsTo ('[' :: ']' :: rest) (.array []) rest := by
  refine ⟨⟨rest, by simp only [List.length_cons]; omega⟩, ?_, rfl⟩
  rw [readValue, if_pos rfl]
  split
  · next heq =>
    rw [skipBlanks_cons (by decide)] at heq
    cases heq
    rfl
  · next hne => exact absurd (skipBlanks_cons (by decide) rest) (hne rest)

theorem readsTo_array {cs rest : List Char} {items : List Node} (hne : ∀ after, skipBlanks cs ≠ ']' :: after)
    (h : ItemsReadTo cs items rest) : ReadsTo ('[' :: cs) (.array items) rest := by
  obtain ⟨after, hitems, rfl⟩ := h
  refine ⟨⟨after.1, Nat.lt_succ_of_lt after.2⟩, ?_, rfl⟩
  rw [readValue, if_pos rfl]
  split
  · next heq => exact absurd heq (hne _)
  · rw [hitems]
    rfl

theorem readsTo_object_nil (rest : List Char) : ReadsTo ('{' :: '}' :: rest) (.object []) rest := by
  refine ⟨⟨rest, by simp only [List.length_cons]; omega⟩, ?_, rfl⟩
  rw [readValue, if_neg (by decide), if_pos rfl]
  split
  · next heq =>
    rw [skipBlanks_cons (by decide)] at heq
    cases heq
    rfl
  · next hne => exact absurd (skipBlanks_cons (by decide) rest) (hne rest)

theorem readsTo_object {cs rest : List Char} {members : List (List Piece × Node)}
    (hne : ∀ after, skipBlanks cs ≠ '}' :: after) (h : MembersReadTo cs members rest) :
    ReadsTo ('{' :: cs) (.object members) rest := by
  obtain ⟨after, hmembers, rfl⟩ := h
  refine ⟨⟨after.1, Nat.lt_succ_of_lt after.2⟩, ?_, rfl⟩
  rw [readValue, if_neg (by decide), if_pos rfl]
  split
  · next heq => exact absurd heq (hne _)
  · rw [hmembers]
    rfl

theorem itemsReadTo_last {cs rest : List Char} {item : Node} (h : ReadsTo (skipBlanks cs) item (']' :: rest)) :
    ItemsReadTo cs [item] rest := by
  obtain ⟨⟨after, hafter⟩, hread, rfl⟩ := h
  have hskip := length_skipBlanks_le cs
  refine ⟨⟨rest, by simp only [List.length_cons] at hafter; omega⟩, ?_, rfl⟩
  rw [readItems, hread]
  dsimp only
  split
  · next heq =>
    rw [skipBlanks_cons (by decide)] at heq
    cases heq
    rfl
  · next heq =>
    rw [skipBlanks_cons (by decide)] at heq
    cases heq
  · next hne _ => exact absurd (skipBlanks_cons (by decide) rest) (hne rest)

theorem itemsReadTo_cons {cs more rest : List Char} {item : Node} {items : List Node}
    (h : ReadsTo (skipBlanks cs) item (',' :: more)) (hmore : ItemsReadTo more items rest) :
    ItemsReadTo cs (item :: items) rest := by
  obtain ⟨⟨after, hafter⟩, hread, rfl⟩ := h
  obtain ⟨after, hitems, rfl⟩ := hmore
  have hskip := length_skipBlanks_le cs
  have hlt := after.2
  refine ⟨⟨after.1, by simp only [List.length_cons] at hafter; omega⟩, ?_, rfl⟩
  rw [readItems, hread]
  dsimp only
  split
  · next heq =>
    rw [skipBlanks_cons (by decide)] at heq
    cases heq
  · next heq =>
    rw [skipBlanks_cons (by decide)] at heq
    cases heq
    rw [hitems]
    rfl
  · next _ hne => exact absurd (skipBlanks_cons (by decide) more) (hne more)

/-- A key with its value, up to what follows the value. -/
def MemberReadsTo (cs : List Char) (key : List Piece) (value : Node) (rest : List Char) : Prop :=
  ∃ quoted colon afterKey, skipBlanks cs = '"' :: quoted ∧ readQuoted quoted = some (key, afterKey) ∧
    skipBlanks afterKey = ':' :: colon ∧ ReadsTo (skipBlanks colon) value rest

theorem MemberReadsTo.length_lt {cs rest : List Char} {key : List Piece} {value : Node}
    (h : MemberReadsTo cs key value rest) : rest.length < cs.length := by
  obtain ⟨quoted, colon, afterKey, hquoted, hkey, hcolon, ⟨after, hafter⟩, -, rfl⟩ := h
  have hlt := hafter
  have hcs := length_skipBlanks_le cs
  have hq := length_readQuoted hkey
  have hk := length_skipBlanks_le afterKey
  have ha := length_skipBlanks_le colon
  simp only [hquoted, hcolon, List.length_cons] at hlt hcs hq hk ha ⊢
  omega

theorem membersReadTo_last {cs rest : List Char} {key : List Piece} {value : Node}
    (h : MemberReadsTo cs key value ('}' :: rest)) : MembersReadTo cs [(key, value)] rest := by
  have hlength : rest.length < cs.length := Nat.lt_of_succ_lt h.length_lt
  obtain ⟨quoted, colon, afterKey, hquoted, hkey, hcolon, ⟨after, hafter⟩, hread, rfl⟩ := h
  refine ⟨⟨rest, hlength⟩, ?_, rfl⟩
  rw [readMembers]
  dsimp only
  split
  · next heq =>
    cases hquoted.symm.trans heq
    split
    · next heq => cases hkey.symm.trans heq
    · next heq =>
      cases hkey.symm.trans heq
      split
      · next heq =>
        cases hcolon.symm.trans heq
        rw [hread]
        dsimp only
        split
        · next heq =>
          cases (skipBlanks_cons (by decide) rest).symm.trans heq
          rfl
        · next heq => cases (skipBlanks_cons (by decide) rest).symm.trans heq
        · next hne _ => exact absurd (skipBlanks_cons (by decide) rest) (hne rest)
      · next hne => exact absurd hcolon (hne _)
  · next hne => exact absurd hquoted (hne _)

theorem membersReadTo_cons {cs more rest : List Char} {key : List Piece} {value : Node}
    {members : List (List Piece × Node)} (h : MemberReadsTo cs key value (',' :: more))
    (hmore : MembersReadTo more members rest) : MembersReadTo cs ((key, value) :: members) rest := by
  have hlength : more.length < cs.length := Nat.lt_of_succ_lt h.length_lt
  obtain ⟨quoted, colon, afterKey, hquoted, hkey, hcolon, ⟨after, hafter⟩, hread, rfl⟩ := h
  obtain ⟨after, hmembers, rfl⟩ := hmore
  refine ⟨⟨after.1, Nat.lt_trans after.2 hlength⟩, ?_, rfl⟩
  rw [readMembers]
  dsimp only
  split
  · next heq =>
    cases hquoted.symm.trans heq
    split
    · next heq => cases hkey.symm.trans heq
    · next heq =>
      cases hkey.symm.trans heq
      split
      · next heq =>
        cases hcolon.symm.trans heq
        rw [hread]
        dsimp only
        split
        · next heq => cases (skipBlanks_cons (by decide) more).symm.trans heq
        · next heq =>
          cases (skipBlanks_cons (by decide) more).symm.trans heq
          rw [hmembers]
          rfl
        · next _ hne => exact absurd (skipBlanks_cons (by decide) more) (hne more)
      · next hne => exact absurd hcolon (hne _)
  · next hne => exact absurd hquoted (hne _)

/-! Documents -/

theorem memberReadsTo_jsonFields {value : Value} {rest : List Char} (key : String)
    (h : ReadsTo (value.jsonChars ++ rest) value.node rest) :
    MemberReadsTo (quoteChars key ++ ':' :: (value.jsonChars ++ rest)) (key.toList.map piece) value.node rest := by
  have hquoted := readQuoted_quoteChars key.toList (':' :: (value.jsonChars ++ rest))
  refine ⟨key.toList.flatMap escapeChar ++ '"' :: ':' :: (value.jsonChars ++ rest), value.jsonChars ++ rest,
    ':' :: (value.jsonChars ++ rest), ?_, hquoted, skipBlanks_cons (by decide) _, ?_⟩
  · have htext : quoteChars key ++ ':' :: (value.jsonChars ++ rest) =
        '"' :: (key.toList.flatMap escapeChar ++ '"' :: ':' :: (value.jsonChars ++ rest)) := by
      simp [quoteChars]
    rw [htext, skipBlanks_cons (by decide)]
  · rwa [skipBlanks_jsonChars]

mutual

/-- Written documents are read up to their end, by induction on the document. -/
theorem readsTo_jsonChars : ∀ (v : Value) (rest : List Char), EndsValue rest →
    ReadsTo (v.jsonChars ++ rest) v.node rest
  | .null, rest, _ => readValue_scalar rfl rfl
  | .bool true, rest, _ => readValue_scalar rfl rfl
  | .bool false, rest, _ => readValue_scalar rfl rfl
  | .number x, rest, hrest => readValue_scalar rfl (readLeaf_numberChars x hrest.number)
  | .string s, rest, _ => readValue_scalar rfl (readLeaf_quoteChars s rest)
  | .array [], rest, _ => readsTo_array_nil rest
  | .array (item :: others), rest, _ => by
    have htext : (Value.array (item :: others)).jsonChars ++ rest =
        '[' :: (Value.jsonItems (item :: others) ++ ']' :: rest) := by
      simp [Value.jsonChars]
    rw [htext]
    refine readsTo_array ?_ (itemsReadTo_jsonItems (item :: others) rest (by simp))
    obtain ⟨tail, htail⟩ : ∃ tail, Value.jsonItems (item :: others) = item.jsonChars ++ tail := by
      cases others with
      | nil => exact ⟨[], by rw [Value.jsonItems, List.append_nil]⟩
      | cons next more => exact ⟨',' :: Value.jsonItems (next :: more), rfl⟩
    obtain ⟨c, cs, hchars, -, hclosing, -⟩ := exists_jsonChars item
    intro after heq
    rw [htail, List.append_assoc, skipBlanks_jsonChars, hchars] at heq
    exact hclosing (List.cons.inj heq).1
  | .object [], rest, _ => readsTo_object_nil rest
  | .object ((key, value) :: others), rest, _ => by
    have htext : (Value.object ((key, value) :: others)).jsonChars ++ rest =
        '{' :: (Value.jsonFields ((key, value) :: others) ++ '}' :: rest) := by
      simp [Value.jsonChars]
    rw [htext]
    refine readsTo_object ?_ (membersReadTo_jsonFields ((key, value) :: others) rest (by simp))
    obtain ⟨tail, htail⟩ : ∃ tail, Value.jsonFields ((key, value) :: others) = '"' :: tail := by
      cases others with
      | nil => exact ⟨_, rfl⟩
      | cons next more => exact ⟨_, rfl⟩
    intro after heq
    rw [htail, List.cons_append, skipBlanks_cons (by decide)] at heq
    cases heq

theorem itemsReadTo_jsonItems : ∀ (items : List Value) (rest : List Char), items ≠ [] →
    ItemsReadTo (Value.jsonItems items ++ ']' :: rest) (Value.itemNodes items) rest
  | [], rest, h => absurd rfl h
  | [item], rest, _ => by
    refine itemsReadTo_last ?_
    rw [Value.jsonItems, skipBlanks_jsonChars]
    exact readsTo_jsonChars item _ (endsValue_cons (by simp) rest)
  | item :: next :: more, rest, _ => by
    have htext : Value.jsonItems (item :: next :: more) ++ ']' :: rest =
        item.jsonChars ++ ',' :: (Value.jsonItems (next :: more) ++ ']' :: rest) := by
      simp [Value.jsonItems]
    rw [htext]
    refine itemsReadTo_cons ?_ (itemsReadTo_jsonItems (next :: more) rest (by simp))
    rw [skipBlanks_jsonChars]
    exact readsTo_jsonChars item _ (endsValue_cons (by simp) _)

theorem membersReadTo_jsonFields : ∀ (fields : List (String × Value)) (rest : List Char), fields ≠ [] →
    MembersReadTo (Value.jsonFields fields ++ '}' :: rest) (Value.memberNodes fields) rest
  | [], rest, h => absurd rfl h
  | [(key, value)], rest, _ => by
    have htext : Value.jsonFields [(key, value)] ++ '}' :: rest =
        quoteChars key ++ ':' :: (value.jsonChars ++ '}' :: rest) := by
      simp [Value.jsonFields]
    rw [htext]
    exact membersReadTo_last
      (memberReadsTo_jsonFields key (readsTo_jsonChars value _ (endsValue_cons (by simp) rest)))
  | (key, value) :: next :: more, rest, _ => by
    have htext : Value.jsonFields ((key, value) :: next :: more) ++ '}' :: rest =
        quoteChars key ++ ':' :: (value.jsonChars ++ ',' :: (Value.jsonFields (next :: more) ++ '}' :: rest)) := by
      simp [Value.jsonFields]
    rw [htext]
    exact membersReadTo_cons
      (memberReadsTo_jsonFields key (readsTo_jsonChars value _ (endsValue_cons (by simp) _)))
      (membersReadTo_jsonFields (next :: more) rest (by simp))

end

/-- The JSON text of a document is read as its tree. -/
theorem ofText?_json (v : Value) : Node.ofText? v.json = some v.node := by
  have hreads : ReadsTo (skipBlanks v.jsonChars) v.node [] := by
    have hreads := readsTo_jsonChars v [] (by simp [EndsValue])
    rw [← skipBlanks_jsonChars, List.append_nil] at hreads
    exact hreads
  obtain ⟨after, hread, hafter⟩ := hreads
  rw [Node.ofText?, Node.ofChars?, Value.json, String.toList_ofList, hread]
  dsimp only
  rw [hafter]
  rfl

end Json

end PolicyEngine
