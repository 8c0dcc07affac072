import PolicyEngine.Proofs.Document.Ordered
import PolicyEngine.Proofs.Schema.Place
import PolicyEngine.Proofs.Schema.Walk

/-! Where in a document a violation lies, and how far its path tells. The path tells the location where keys hold
neither points nor opening brackets and the document itself has no empty key; empty keys at the start are not seen in
it. -/
namespace PolicyEngine

/-- The steps from the root of the document to the value that a violation is about. -/
def Violation.location (v : Violation) : List Segment := v.place.map Step.segment

namespace Step

theorem segment_eq_blank_iff {step : Step} : step.segment = .key "" ↔ step = property "" := by
  cases step <;> simp [segment]

theorem map_segment_visible (place : List Step) :
    (visible place).map segment = (place.map segment).dropWhile (· = .key "") := by
  simp only [visible, List.dropWhile_map, Function.comp_def, segment_eq_blank_iff]

theorem GoesTo.child? {v child : Value} {step : Step} (h : step.GoesTo v child) (hv : v.Ordered) :
    v.child? step.segment = some child := by
  obtain ⟨key, fields, rfl, rfl, hmem⟩ | ⟨i, items, hsegment, rfl, hget⟩ := h.key_or_index
  · exact hv.fields.1.get?_of_mem hmem
  · rw [hsegment]
    exact hget

theorem Leads.getAt {v : Value} {place : List Step} (h : Leads v place) (hv : v.Ordered) :
    ∃ found, v.getAt (place.map segment) = .ok (some found) := by
  induction h with
  | here v => exact ⟨v, Value.getAt_nil v⟩
  | deeper hstep _ ih =>
    have hchild := hstep.child? hv
    obtain ⟨found, hfound⟩ := ih (hv.child? hchild)
    exact ⟨found, Value.getAt_cons_eq_some_iff.2 ⟨_, hchild, hfound⟩⟩

theorem Leads.plain {v : Value} {place : List Step} (h : Leads v place)
    (hkeys : ∀ key ∈ v.keys, '.' ∉ key.toList ∧ '[' ∉ key.toList) : ∀ s ∈ place, s.Plain := by
  intro s hs
  cases s with
  | property key => exact hkeys key (h.key_mem hs)
  | _ => trivial

/-- A place starts with an empty key only in a document that has one at its root. -/
theorem Leads.visible_eq {v : Value} {place : List Step} (h : Leads v place)
    (hroot : ∀ fields, v = .object fields → Fields.contains "" fields = false) : visible place = place := by
  cases h with
  | here v => rfl
  | @deeper _ child step rest hstep tail =>
    have hne : step ≠ property "" := by
      rintro rfl
      obtain ⟨fields, hfields, hmem⟩ := hstep
      have hcontains := Fields.contains_iff_mem.2 ⟨child, hmem⟩
      rw [hroot fields hfields] at hcontains
      cases hcontains
    simp [visible, hne]

end Step

namespace Schema

/-- Each violation lies at a value of the document, and the paths of two violations are equal only where their locations
are, up to the empty keys at the start. Without an empty key at the root, other locations have other paths. -/
theorem path_tells_location (s : Schema) {doc : Value}
    (hkeys : ∀ key ∈ doc.keys, '.' ∉ key.toList ∧ '[' ∉ key.toList) {v w : Violation}
    (hv : v ∈ s.validate doc) (hw : w ∈ s.validate doc) :
    (doc.Ordered → ∃ found, doc.getAt v.location = .ok (some found)) ∧
    (v.path = w.path → v.location.dropWhile (· = .key "") = w.location.dropWhile (· = .key "")) ∧
    ((∀ fields, doc = .object fields → Fields.contains "" fields = false) →
      v.location ≠ w.location → v.path ≠ w.path) := by
  have hvleads : Step.Leads doc v.place := leads_of_mem_violations hv
  have hwleads : Step.Leads doc w.place := leads_of_mem_violations hw
  have hpath : v.path = w.path ↔ Step.visible v.place = Step.visible w.place :=
    Step.renderPlace_eq_iff (hvleads.plain hkeys) (hwleads.plain hkeys)
  refine ⟨hvleads.getAt, fun h => ?_, fun hroot hne h => hne ?_⟩
  · rw [Violation.location, Violation.location, ← Step.map_segment_visible, hpath.1 h, Step.map_segment_visible]
  · have hplace := hpath.1 h
    rw [hvleads.visible_eq hroot, hwleads.visible_eq hroot] at hplace
    rw [Violation.location, hplace, Violation.location]

/-- Two items of a list under the key `items`, one of them covered by the schema of all others. -/
theorem path_tells_location_items :
    let items := Value.object [("additionalItems", .object [("type", .string "string")]),
      ("items", .array [.object [("type", .string "null")]])]
    let s := load (.object [("properties", .object [("items", items)])])
    let doc := Value.object [("items", .array [.number 1, .number 2])]
    let v : Violation := ⟨[.property "items", .item 0], .wrongType "null" (.number 1)⟩
    let w : Violation := ⟨[.property "items", .additionalItem 1], .wrongType "string" (.number 2)⟩
    (∀ key ∈ doc.keys, '.' ∉ key.toList ∧ '[' ∉ key.toList) ∧ v ∈ s.validate doc ∧ w ∈ s.validate doc ∧
      (∀ fields, doc = .object fields → Fields.contains "" fields = false) ∧
      v.location ≠ w.location ∧ v.path ≠ w.path := by
  intro items s doc v w
  have hkeys : ∀ key ∈ doc.keys, '.' ∉ key.toList ∧ '[' ∉ key.toList := by decide
  have hfound : s.validate doc = [v, w] := by cbv
  have hv : v ∈ s.validate doc := by simp [hfound]
  have hw : w ∈ s.validate doc := by simp [hfound]
  have hroot : ∀ fields, doc = .object fields → Fields.contains "" fields = false := by
    intro fields hfields
    rw [← Value.object.inj hfields]
    rfl
  have hne : v.location ≠ w.location := by decide
  obtain ⟨-, -, hpath⟩ := path_tells_location s hkeys hv hw
  exact ⟨hkeys, hv, hw, hroot, hne, hpath hroot hne⟩

/-- An empty key at the root is not seen in the paths of what lies under it: the violations of two values have one path
and one message. -/
theorem path_hides_empty_key :
    let text := Value.object [("type", .string "string")]
    let inner := Value.object [("properties", .object [("a", text)])]
    let root := Value.object [("properties", .object [("", inner), ("a", text)])]
    let doc := Value.object [("", .object [("a", .number 1)]), ("a", .number 1)]
    ∃ s, ofValue root = .ok s ∧ (∀ key ∈ doc.keys, '.' ∉ key.toList ∧ '[' ∉ key.toList) ∧
      ∃ v ∈ s.validate doc, ∃ w ∈ s.validate doc,
        v.location ≠ w.location ∧ v.path = w.path ∧ v.message = w.message := by
  intro text inner root doc
  have hfound : (load root).validate doc =
      [⟨[.property "", .property "a"], .wrongType "string" (.number 1)⟩,
        ⟨[.property "a"], .wrongType "string" (.number 1)⟩] := by cbv
  refine ⟨load root, rfl, by decide, _, hfound ▸ List.mem_cons_self, _,
    hfound ▸ List.mem_cons_of_mem _ List.mem_cons_self, by decide, by decide, by decide⟩

end Schema

end PolicyEngine
