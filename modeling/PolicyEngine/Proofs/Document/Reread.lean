import PolicyEngine.Proofs.Document.Equality
import PolicyEngine.Proofs.Document.Ordered
import PolicyEngine.Proofs.Json.Reading

/-! What becomes of a document that is written as JSON text and read again. Its numbers may change, each by itself,
and nothing else does; there may be no document where a number overflows or too many containers are open. -/
namespace PolicyEngine.Value
open Json (Piece)

mutual

/-- How many containers are inside each other. -/
def depth : Value → Nat
  | .array items => itemsDepth items + 1
  | .object fields => fieldsDepth fields + 1
  | .null | .bool _ | .number _ | .string _ => 0

def itemsDepth : List Value → Nat
  | [] => 0
  | item :: rest => max (depth item) (itemsDepth rest)

def fieldsDepth : List (String × Value) → Nat
  | [] => 0
  | (_, value) :: rest => max (depth value) (fieldsDepth rest)

end

mutual

/-- All numbers of a document. -/
def numbers : Value → List Float
  | .number x => [x]
  | .array items => itemNumbers items
  | .object fields => fieldNumbers fields
  | .null | .bool _ | .string _ => []

def itemNumbers : List Value → List Float
  | [] => []
  | item :: rest => numbers item ++ itemNumbers rest

def fieldNumbers : List (String × Value) → List Float
  | [] => []
  | (_, value) :: rest => numbers value ++ fieldNumbers rest

end

/-- What the text of a number is read as, if it is read. -/
def rereadNumber? (x : Float) : Option Value := ofNode? 0 (numberNode x)

mutual

/-- The document with each number replaced by what its text is read as. -/
def reread? : Value → Option Value
  | .null => some .null
  | .bool b => some (.bool b)
  | .number x => rereadNumber? x
  | .string s => some (.string s)
  | .array items => (rereadItems? items).map .array
  | .object fields => (rereadFields? fields).map .object

def rereadItems? : List Value → Option (List Value)
  | [] => some []
  | item :: rest =>
    match reread? item with
    | none => none
    | some v => (rereadItems? rest).map (v :: ·)

def rereadFields? : List (String × Value) → Option (List (String × Value))
  | [] => some []
  | (key, value) :: rest =>
    match reread? value with
    | none => none
    | some v => (rereadFields? rest).map ((key, v) :: ·)

end

/-! The document that is read -/

theorem ofNode?_numberNode (depth : Nat) (x : Float) : ofNode? depth (numberNode x) = rereadNumber? x := by
  unfold rereadNumber?
  rcases Json.exists_numeral x with ⟨t, ht, hchars⟩ | hchars
  · rw [Json.numberNode_eq ht hchars, ofNode?, ofNode?]
  · have hnode : numberNode x = .null := by
      rw [numberNode, hchars]
      rfl
    rw [hnode, ofNode?, ofNode?]

theorem keys_of_rereadFields? {fields pairs : List (String × Value)} (h : rereadFields? fields = some pairs) :
    pairs.map Prod.fst = fields.map Prod.fst := by
  induction fields generalizing pairs with
  | nil =>
    cases h
    rfl
  | cons entry rest ih =>
    obtain ⟨key, value⟩ := entry
    rw [rereadFields?] at h
    split at h
    · cases h
    · obtain ⟨others, hothers, rfl⟩ := Option.map_eq_some_iff.1 h
      simp [ih hothers]

/-- Rereading leaves the keys alone, so they stay in order. -/
theorem ascending_of_rereadFields? {fields pairs : List (String × Value)} (ascending : Fields.Ascending fields)
    (h : rereadFields? fields = some pairs) : Fields.Ascending pairs := ascending.of_keys (keys_of_rereadFields? h)

mutual

/-- Reading the tree of a document gives it back up to its numbers, if it may be that deep. -/
theorem ofNode?_node : ∀ (limit : Nat) (v : Value), v.Ordered →
    ofNode? limit v.node = if v.depth ≤ limit then v.reread? else none
  | limit, .null, _ => by simp [node, ofNode?, reread?, depth]
  | limit, .bool b, _ => by simp [node, ofNode?, reread?, depth]
  | limit, .number x, _ => by
    rw [node, ofNode?_numberNode, depth, if_pos (Nat.zero_le limit), reread?]
  | limit, .string s, _ => by
    rw [node, ofNode?, Json.text?_map_piece, depth, if_pos (Nat.zero_le limit), reread?]
    rfl
  | 0, .array items, _ => by
    rw [node, ofNode?, depth, if_neg (Nat.not_succ_le_zero _)]
  | limit + 1, .array items, h => by
    rw [node, ofNode?, ofItems?_itemNodes limit items h.items, depth, reread?]
    simp only [Nat.add_le_add_iff_right]
    split <;> rfl
  | 0, .object fields, _ => by
    rw [node, ofNode?, depth, if_neg (Nat.not_succ_le_zero _)]
  | limit + 1, .object fields, h => by
    obtain ⟨ascending, hfields⟩ := h.fields
    rw [node, ofNode?, ofMembers?_memberNodes limit fields hfields, depth, reread?]
    simp only [Nat.add_le_add_iff_right]
    split
    · cases hpairs : rereadFields? fields with
      | none => rfl
      | some pairs =>
        have hascending := ascending_of_rereadFields? ascending hpairs
        simp only [Option.map_some, Fields.ofPairs_of_ascending hascending]
    · rfl

theorem ofItems?_itemNodes : ∀ (limit : Nat) (items : List Value), (∀ item ∈ items, item.Ordered) →
    ofItems? limit (itemNodes items) = if itemsDepth items ≤ limit then rereadItems? items else none
  | limit, [], _ => by simp [itemNodes, ofItems?, rereadItems?, itemsDepth]
  | limit, item :: rest, h => by
    have hitem := ofNode?_node limit item (h item List.mem_cons_self)
    have hrest := ofItems?_itemNodes limit rest fun other hother => h other (List.mem_cons_of_mem _ hother)
    rw [itemNodes, ofItems?, hitem, hrest, itemsDepth, rereadItems?]
    by_cases hdepth : item.depth ≤ limit <;> by_cases hothers : itemsDepth rest ≤ limit <;>
      cases item.reread? <;> simp [hdepth, hothers]

theorem ofMembers?_memberNodes : ∀ (limit : Nat) (fields : List (String × Value)), (∀ p ∈ fields, p.2.Ordered) →
    ofMembers? limit (memberNodes fields) = if fieldsDepth fields ≤ limit then rereadFields? fields else none
  | limit, [], _ => by simp [memberNodes, ofMembers?, rereadFields?, fieldsDepth]
  | limit, (key, value) :: rest, h => by
    have hvalue := ofNode?_node limit value (h _ List.mem_cons_self)
    have hrest := ofMembers?_memberNodes limit rest fun other hother => h other (List.mem_cons_of_mem _ hother)
    rw [memberNodes, ofMembers?, Json.text?_map_piece, hvalue, hrest, fieldsDepth, rereadFields?]
    by_cases hdepth : value.depth ≤ limit <;> by_cases hothers : fieldsDepth rest ≤ limit <;>
      cases value.reread? <;> simp [hdepth, hothers]

end

theorem ofJson?_json {v : Value} (h : v.Ordered) :
    ofJson? v.json = if v.depth ≤ maxDepth then v.reread? else none := by
  rw [ofJson?, Json.ofText?_json, Option.bind_some, ofNode?_node maxDepth v h]

theorem ofJson?_json_number (x : Float) : ofJson? (number x).json = rereadNumber? x := by
  rw [ofJson?_json (.scalar rfl), depth, if_pos (Nat.zero_le _), reread?]

/-! Numbers that come back -/

/-- Whether a number is equal to the one that its text is read as. -/
def survives (x : Float) : Bool :=
  match ofJson? (number x).json with
  | some (.number y) => y == x
  | _ => false

theorem survives_iff {x : Float} :
    survives x = true ↔ ∃ y, rereadNumber? x = some (.number y) ∧ (y == x) = true := by
  rw [survives, ofJson?_json_number]
  constructor
  · intro h
    split at h
    · next y hread => exact ⟨y, hread, h⟩
    · cases h
  · rintro ⟨y, hread, hequal⟩
    rw [hread]
    exact hequal

theorem survives_of_jsonInt? {x : Float} {i : Int} (h : Number.jsonInt? x = some i) : survives x = true := by
  obtain ⟨y, hy, hequal⟩ := Json.exists_toNumber?_ofInt h
  have hchars : numberChars x = (Json.NumberText.ofInt i).chars := by
    rw [numberChars, h, Json.NumberText.chars_ofInt]
  have hnode := Json.numberNode_eq (Json.NumberText.wellFormed_ofInt i) hchars
  refine survives_iff.2 ⟨y, ?_, hequal⟩
  rw [rereadNumber?, hnode, ofNode?, hy]
  rfl

mutual

theorem isSome_reread? : ∀ v : Value,
    v.reread?.isSome ↔ ∀ x ∈ v.numbers, (rereadNumber? x).isSome
  | .null => by simp [reread?, numbers]
  | .bool b => by simp [reread?, numbers]
  | .number x => by simp [reread?, numbers]
  | .string s => by simp [reread?, numbers]
  | .array items => by
    rw [reread?, numbers, Option.isSome_map, isSome_rereadItems? items]
  | .object fields => by
    rw [reread?, numbers, Option.isSome_map, isSome_rereadFields? fields]

theorem isSome_rereadItems? : ∀ items : List Value,
    (rereadItems? items).isSome ↔ ∀ x ∈ itemNumbers items, (rereadNumber? x).isSome
  | [] => by simp [rereadItems?, itemNumbers]
  | item :: rest => by
    rw [rereadItems?, itemNumbers, List.forall_mem_append, ← isSome_reread? item, ← isSome_rereadItems? rest]
    cases item.reread? <;> simp

theorem isSome_rereadFields? : ∀ fields : List (String × Value),
    (rereadFields? fields).isSome ↔ ∀ x ∈ fieldNumbers fields, (rereadNumber? x).isSome
  | [] => by simp [rereadFields?, fieldNumbers]
  | (key, value) :: rest => by
    rw [rereadFields?, fieldNumbers, List.forall_mem_append, ← isSome_reread? value, ← isSome_rereadFields? rest]
    cases value.reread? <;> simp

end

mutual

/-- A document whose numbers all survive comes back equal. -/
theorem exists_reread?_beq : ∀ v : Value, (∀ x ∈ v.numbers, survives x = true) →
    ∃ w, v.reread? = some w ∧ w.beq v = true
  | .null, _ => ⟨.null, rfl, rfl⟩
  | .bool b, _ => ⟨.bool b, rfl, by simp [beq]⟩
  | .number x, h => by
    obtain ⟨y, hread, hequal⟩ := survives_iff.1 (h x (by simp [numbers]))
    exact ⟨.number y, hread, hequal⟩
  | .string s, _ => ⟨.string s, rfl, by simp [beq]⟩
  | .array items, h => by
    obtain ⟨others, hothers, hequal⟩ := exists_rereadItems?_beq items h
    exact ⟨.array others, by rw [reread?, hothers]; rfl, hequal⟩
  | .object fields, h => by
    obtain ⟨others, hothers, hequal⟩ := exists_rereadFields?_beq fields h
    exact ⟨.object others, by rw [reread?, hothers]; rfl, hequal⟩

theorem exists_rereadItems?_beq : ∀ items : List Value, (∀ x ∈ itemNumbers items, survives x = true) →
    ∃ others, rereadItems? items = some others ∧ beqItems others items = true
  | [], _ => ⟨[], rfl, rfl⟩
  | item :: rest, h => by
    rw [itemNumbers, List.forall_mem_append] at h
    obtain ⟨w, hw, hequal⟩ := exists_reread?_beq item h.1
    obtain ⟨others, hothers, hrest⟩ := exists_rereadItems?_beq rest h.2
    exact ⟨w :: others, by rw [rereadItems?, hw, hothers]; rfl, beqItems_cons.2 ⟨hequal, hrest⟩⟩

theorem exists_rereadFields?_beq : ∀ fields : List (String × Value), (∀ x ∈ fieldNumbers fields, survives x = true) →
    ∃ others, rereadFields? fields = some others ∧ beqFields others fields = true
  | [], _ => ⟨[], rfl, rfl⟩
  | (key, value) :: rest, h => by
    rw [fieldNumbers, List.forall_mem_append] at h
    obtain ⟨w, hw, hequal⟩ := exists_reread?_beq value h.1
    obtain ⟨others, hothers, hrest⟩ := exists_rereadFields?_beq rest h.2
    exact ⟨(key, w) :: others, by rw [rereadFields?, hw, hothers]; rfl, beqFields_cons.2 ⟨rfl, hequal, hrest⟩⟩

end

end PolicyEngine.Value
