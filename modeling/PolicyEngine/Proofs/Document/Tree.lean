import PolicyEngine.Proofs.Document.Equality
import PolicyEngine.Proofs.Document.Ordered
import PolicyEngine.Proofs.Json.Numeral

/-! Documents as JSON trees. A document and its tree are written as the same text, and the tree gives the document back
except for the numbers that JSON cannot spell. -/
namespace PolicyEngine.Value

mutual

/-- The document with null in the place of each number that is not finite. -/
def spelled : Value → Value
  | .number x => if x.isFinite then .number x else .null
  | .array items => .array (spelledItems items)
  | .object fields => .object (spelledFields fields)
  | .null => .null
  | .bool b => .bool b
  | .string s => .string s

def spelledItems : List Value → List Value
  | [] => []
  | item :: rest => spelled item :: spelledItems rest

def spelledFields : List (String × Value) → List (String × Value)
  | [] => []
  | (key, value) :: rest => (key, spelled value) :: spelledFields rest

end

/-! Numbers -/

theorem isFinite_of_jsonInt? {x : Float} {i : Int} (h : Number.jsonInt? x = some i) : x.isFinite = true := by
  obtain ⟨hint, -⟩ := Option.filter_eq_some_iff.1 h
  rw [Number.isFinite_eq_view]
  cases hview : Number.view x with
  | nan =>
    rw [Number.toInt?_of_nan hview] at hint
    cases hint
  | infinite negative =>
    rw [Number.toInt?_of_infinite hview] at hint
    cases hint
  | finite p => exact ⟨p, rfl⟩

theorem realChars_of_not_finite {x : Float} (h : ¬ x.isFinite = true) : Json.realChars x = Json.nullChars := by
  rw [Number.isFinite_eq_view] at h
  cases hview : Number.view x with
  | finite p => exact absurd ⟨p, hview⟩ h
  | nan => simp [Json.realChars, Number.jsonReal?, hview]
  | infinite negative => simp [Json.realChars, Number.jsonReal?, hview]

/-- The three ways in which a number becomes a tree: as an integer, as a real, and as null where it is not finite. -/
theorem toJson_number (x : Float) :
    (∃ i, Number.jsonInt? x = some i ∧ (number x).toJson = .integer i) ∨
      (Number.jsonInt? x = none ∧ x.isFinite = true ∧ (number x).toJson = .real x) ∨
      (Number.jsonInt? x = none ∧ ¬ x.isFinite = true ∧ (number x).toJson = .null) := by
  rw [toJson]
  cases hint : Number.jsonInt? x with
  | some i => exact .inl ⟨i, rfl, rfl⟩
  | none =>
    by_cases hfinite : x.isFinite = true
    · exact .inr (.inl ⟨rfl, hfinite, if_pos hfinite⟩)
    · exact .inr (.inr ⟨rfl, hfinite, if_neg hfinite⟩)

/-! Texts -/

mutual

/-- The text of a tree is that of its document. -/
theorem compactChars_toJson : ∀ v : Value, v.toJson.compactChars = v.jsonChars
  | .null => rfl
  | .bool b => rfl
  | .string s => rfl
  | .number x => by
    rw [jsonChars, numberChars]
    rcases toJson_number x with ⟨i, hint, htree⟩ | ⟨hint, -, htree⟩ | ⟨hint, hfinite, htree⟩ <;>
      rw [htree, hint]
    · rfl
    · rfl
    · exact (realChars_of_not_finite hfinite).symm
  | .array items => by rw [toJson, Json.compactChars, jsonChars, itemChars_toItems items]
  | .object fields => by rw [toJson, Json.compactChars, jsonChars, memberChars_toMembers fields]

theorem itemChars_toItems : ∀ items : List Value, Json.itemChars (toItems items) = jsonItems items
  | [] => rfl
  | [item] => compactChars_toJson item
  | item :: next :: rest => by
    change item.toJson.compactChars ++ ',' :: Json.itemChars (toItems (next :: rest)) =
      item.jsonChars ++ ',' :: jsonItems (next :: rest)
    rw [compactChars_toJson item, itemChars_toItems (next :: rest)]

theorem memberChars_toMembers : ∀ fields : List (String × Value),
    Json.memberChars (toMembers fields) = jsonFields fields
  | [] => rfl
  | [(key, value)] => by
    change Json.quoteChars key ++ ':' :: value.toJson.compactChars = Json.quoteChars key ++ ':' :: value.jsonChars
    rw [compactChars_toJson value]
  | (key, value) :: next :: rest => by
    change Json.quoteChars key ++ ':' :: value.toJson.compactChars ++
        ',' :: Json.memberChars (toMembers (next :: rest)) =
      Json.quoteChars key ++ ':' :: value.jsonChars ++ ',' :: jsonFields (next :: rest)
    rw [compactChars_toJson value, memberChars_toMembers (next :: rest)]

end

/-! Trees -/

theorem keys_of_ofTreeMembers_toMembers (fields : List (String × Value)) :
    (ofTreeMembers (toMembers fields)).map Prod.fst = fields.map Prod.fst := by
  induction fields with
  | nil => rfl
  | cons entry rest ih => simp [toMembers, ofTreeMembers, ih]

/-- The number of an integer tree, or of a real one, is the number that the tree was made from. -/
theorem ofTree_toJson_number (x : Float) : (ofTree (number x).toJson).beq (number x).spelled = true := by
  rw [spelled]
  rcases toJson_number x with ⟨i, hint, htree⟩ | ⟨-, hfinite, htree⟩ | ⟨-, hfinite, htree⟩
  · rw [htree, if_pos (isFinite_of_jsonInt? hint)]
    exact Json.ofInteger_beq hint
  · rw [htree, if_pos hfinite]
    exact Number.beq_self hfinite
  · rw [htree, if_neg hfinite]
    rfl

mutual

/-- Of a document whose objects have their keys in order, its tree keeps everything but numbers that are not finite. -/
theorem ofTree_toJson : ∀ v : Value, v.Ordered → (ofTree v.toJson).beq v.spelled = true
  | .null, _ => rfl
  | .bool b, _ => by simp [toJson, ofTree, spelled, beq]
  | .string s, _ => by simp [toJson, ofTree, spelled, beq]
  | .number x, _ => ofTree_toJson_number x
  | .array items, h => ofTreeItems_toItems items h.items
  | .object fields, h => by
    obtain ⟨ascending, hfields⟩ := h.fields
    have hkeys := keys_of_ofTreeMembers_toMembers fields
    rw [toJson, ofTree, spelled, Fields.ofPairs_of_ascending (ascending.of_keys hkeys)]
    exact ofTreeMembers_toMembers fields hfields

theorem ofTreeItems_toItems : ∀ items : List Value, (∀ item ∈ items, item.Ordered) →
    beqItems (ofTreeItems (toItems items)) (spelledItems items) = true
  | [], _ => rfl
  | item :: rest, h => by
    have hitem := ofTree_toJson item (h item List.mem_cons_self)
    have hrest := ofTreeItems_toItems rest fun other hother => h other (List.mem_cons_of_mem _ hother)
    exact beqItems_cons.2 ⟨hitem, hrest⟩

theorem ofTreeMembers_toMembers : ∀ fields : List (String × Value), (∀ p ∈ fields, p.2.Ordered) →
    beqFields (ofTreeMembers (toMembers fields)) (spelledFields fields) = true
  | [], _ => rfl
  | (key, value) :: rest, h => by
    have hvalue := ofTree_toJson value (h _ List.mem_cons_self)
    have hrest := ofTreeMembers_toMembers rest fun other hother => h other (List.mem_cons_of_mem _ hother)
    exact beqFields_cons.2 ⟨rfl, hvalue, hrest⟩

end

/-- A document and its tree have one compact text, and the tree holds the document again, with null for each number that
is not finite. -/
theorem tree_agrees (v : Value) :
    v.toJson.compact = v.json ∧ (v.Ordered → (ofTree v.toJson == v.spelled) = true) := by
  refine ⟨?_, ofTree_toJson v⟩
  rw [Json.compact, compactChars_toJson v, json]

/-- Numbers around the bound for integers, zeros, and numbers that JSON cannot spell. -/
def limits : Value := .object [
  ("", .array [.number 9007199254740991, .number 9007199254740992, .number (-9007199254740991), .number (-0.0)]),
  ("beyond", .array [.number (Number.infinity false), .number (Number.infinity true), .number (0.0 / 0.0)]),
  ("real", .object [("a", .number 0.1), ("b", .number 5e-324)])]

theorem ordered_limits : limits.Ordered := by
  have hnumber : ∀ x : Float, (number x).Ordered := fun _ => .scalar rfl
  have hreals : Fields.Ascending [("a", number 0.1), ("b", number 5e-324)] := by decide
  exact .object (by decide) (by simp [hnumber, hreals])

/-- The zero is an integer without a sign, as is every whole number below the bound. -/
theorem tree_agrees_limits :
    limits.Ordered ∧ limits.toJson.compact = limits.json ∧
      limits.json = "\x7b\"\":[9007199254740991,9007199254740992.0,-9007199254740991,0]," ++
        "\"beyond\":[null,null,null],\"real\":\x7b\"a\":0.1,\"b\":5e-324\x7d\x7d" ∧
      (ofTree limits.toJson == limits.spelled) = true ∧ (limits == limits.spelled) = false :=
  ⟨ordered_limits, (tree_agrees limits).1, by decide +kernel, (tree_agrees limits).2 ordered_limits, by decide +kernel⟩

end PolicyEngine.Value
