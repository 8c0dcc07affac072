import PolicyEngine.Engine.Basic
import PolicyEngine.Proofs.Document.Reread
import PolicyEngine.Proofs.Policy.Invariant
import PolicyEngine.Proofs.Schema.Equality

/-! What the reader of an answer finds. The response schema is put to the document that the policies left, and the
reader has the JSON text of that document. -/
namespace PolicyEngine

/-- The data of a request has its keys in order, whatever order they were sent in. -/
theorem Request.ordered_of_ofBytes? {bytes : List UInt8} {q : Request} (h : ofBytes? bytes = some q) :
    q.data.Ordered := by
  obtain ⟨n, -, h⟩ := Option.bind_eq_some_iff.1 h
  simp only [ofNode?, bind, Option.bind_eq_some_iff] at h
  obtain ⟨parts, -, id, -, timestamp, -, context, -, data, hdata, policies, -, h⟩ := h
  cases h
  rw [part?] at hdata
  split at hdata
  · next n _ => exact Value.ordered_of_ofNode? maxDataDepth n data hdata
  · cases hdata

namespace Engine

variable {e : Engine} {schema : Schema} {bytes : List UInt8} {r : Response}

theorem of_answer {q : Request} (h : e.answer q = .ok r) :
    r.data = (e.policies.execute q.policies q.data).2 ∧ violations e.responseSchema r.data = [] := by
  rw [answer] at h
  dsimp only at h
  split at h
  · cases h
  · split at h
    · next hfound =>
      cases h
      exact ⟨rfl, List.isEmpty_iff.1 hfound⟩
    · cases h

theorem answer_of_process {q : Request} (h : e.process q = .ok r) : e.answer q = .ok r := by
  rw [process] at h
  split at h
  · dsimp only at h
    split at h
    · exact h
    · cases h
  · cases h

theorem exists_answer_of_processBytes (h : e.processBytes bytes = .ok r) :
    ∃ q, Request.ofBytes? bytes = some q ∧ e.answer q = .ok r := by
  rw [processBytes] at h
  split at h
  · next q hq => exact ⟨q, hq, answer_of_process h⟩
  · cases h

theorem ordered_of_processBytes (h : e.processBytes bytes = .ok r) : r.data.Ordered := by
  obtain ⟨q, hq, hanswer⟩ := exists_answer_of_processBytes h
  rw [(of_answer hanswer).1]
  exact e.policies.ordered_execute q.policies (Request.ordered_of_ofBytes? hq)

theorem validate_of_processBytes (hschema : e.responseSchema = some schema) (h : e.processBytes bytes = .ok r) :
    schema.validate r.data = [] := by
  obtain ⟨q, -, hanswer⟩ := exists_answer_of_processBytes h
  have hviolations := (of_answer hanswer).2
  rw [hschema] at hviolations
  exact hviolations

/-- An answer is read back where it is not too deep and each of its numbers is read back. If the numbers that are
not written as integers come back equal, so does the whole, and it fits the response schema. -/
theorem reread_of_processBytes (hschema : e.responseSchema = some schema) (h : e.processBytes bytes = .ok r) :
    ((Value.ofJson? r.data.json).isSome ↔
        r.data.depth ≤ Value.maxDepth ∧ ∀ x ∈ r.data.numbers, (Value.ofJson? (Value.number x).json).isSome) ∧
      (r.data.depth ≤ Value.maxDepth →
        (∀ x ∈ r.data.numbers, Number.jsonInt? x = none → Value.survives x = true) →
        ∃ v, Value.ofJson? r.data.json = some v ∧ (v == r.data) = true ∧ schema.validate v = []) := by
  have hread := Value.ofJson?_json (ordered_of_processBytes h)
  constructor
  · simp only [Value.ofJson?_json_number, ← Value.isSome_reread?, hread]
    by_cases hdepth : r.data.depth ≤ Value.maxDepth <;> simp [hdepth]
  · intro hdepth hreals
    have hnumbers : ∀ x ∈ r.data.numbers, Value.survives x = true := by
      intro x hx
      cases hint : Number.jsonInt? x with
      | none => exact hreals x hx hint
      | some i => exact Value.survives_of_jsonInt? hint
    obtain ⟨v, hv, hequal⟩ := Value.exists_reread?_beq r.data hnumbers
    rw [if_pos hdepth, hv] at hread
    exact ⟨v, hread, hequal, (schema.validate_congr hequal).2 (validate_of_processBytes hschema h)⟩

/-- An engine with one policy and a response schema. -/
def ofRules (rules : List String) (schema : Value) : Engine := ⟨.ofSource [("p", rules)], none, some (.load schema)⟩

/-- A request for that policy. -/
def requestOn (data : String) : List UInt8 :=
  ("\x7b\"data\":".toList ++ data.toList ++ ",\"policies\":[\"p\"]\x7d".toList).map fun c => UInt8.ofNat c.toNat

def changeSchema : Value := .object [("properties", .object [
  ("change", .object [("type", .string "integer")]),
  ("total", .object [("minimum", .number 0), ("type", .string "number")])])]

def changeEngine : Engine :=
  ofRules ["SET $.total = EXP($.price * 3)", "SET $.change = EXP(0 * -1)"] changeSchema

/-- The zero loses its sign, and it still is an integer and equal to what it was. -/
theorem reread_change :
    ∃ r v, changeEngine.processBytes (requestOn "\x7b\"price\":0.1\x7d") = .ok r ∧
      r.data.json = "\x7b\"change\":0,\"price\":0.1,\"total\":0.30000000000000004\x7d" ∧
      Value.ofJson? r.data.json = some v ∧ (v == r.data) = true ∧ (Schema.load changeSchema).validate v = [] := by
  have hcheck : (changeEngine.processBytes (requestOn "\x7b\"price\":0.1\x7d")).toOption.any (fun r =>
      r.data.json == "\x7b\"change\":0,\"price\":0.1,\"total\":0.30000000000000004\x7d" &&
        r.data.depth ≤ Value.maxDepth && r.data.numbers.all Value.survives) = true := by
    decide +kernel
  obtain ⟨r, hr, hfacts⟩ := exists_eq_ok_of_any hcheck
  simp only [Bool.and_eq_true, beq_iff_eq, decide_eq_true_eq, List.all_eq_true] at hfacts
  obtain ⟨⟨hjson, hdepth⟩, hnumbers⟩ := hfacts
  obtain ⟨v, hread, hequal, hvalid⟩ := (reread_of_processBytes rfl hr).2 hdepth fun x hx _ => hnumbers x hx
  exact ⟨r, v, hr, hjson, hread, hequal, hvalid⟩

/-- Puts an overflowed number where a number is asked for; its text is `null`. -/
def overflowing : Engine :=
  ofRules ["SET $.x = EXP(1e308 * 10)"]
    (.object [("properties", .object [("x", .object [("type", .string "number")])])])

/-- Moves a value deeper and deeper into its own place. -/
def nesting : Engine := ofRules (List.replicate 9 "SET $.x.x.x.x.x.x.x.x.x.x.x.x.x.x.x.x = $.x") (.bool true)

/-- Puts a number at a maximum that is read from its text as the next greater one. -/
def misreading : Engine :=
  ofRules ["SET $.x = 0.42800000000000005"]
    (.object [("properties", .object [("x", .object [("maximum", .number 0.42800000000000005)])])])

/-- There is an answer to the empty document that its reader cannot read, or finds to break the response schema. -/
def Misleads (e : Engine) : Prop :=
  ∃ schema r, e.responseSchema = some schema ∧ e.processBytes (requestOn "\x7b\x7d") = .ok r ∧
    ¬ ∃ v, Value.ofJson? r.data.json = some v ∧ schema.validate v = []

theorem misleads_of_rejected (hschema : e.responseSchema = some schema)
    (hcheck : (e.processBytes (requestOn "\x7b\x7d")).toOption.any (fun r =>
      (Value.ofJson? r.data.json).all fun v => !schema.accepts v) = true) : e.Misleads := by
  obtain ⟨r, hr, hfound⟩ := exists_eq_ok_of_any hcheck
  refine ⟨schema, r, hschema, hr, ?_⟩
  rintro ⟨v, hread, hvalid⟩
  simp [hread, Schema.accepts, hvalid] at hfound

/-- The conditions on the depth and on the numbers cannot be left out. -/
theorem misleads_of_overflow_nesting_misreading :
    overflowing.Misleads ∧ nesting.Misleads ∧ misreading.Misleads := by
  refine ⟨misleads_of_rejected rfl (by decide +kernel), ?_, misleads_of_rejected rfl (by decide +kernel)⟩
  have hdeep : (nesting.processBytes (requestOn "\x7b\x7d")).toOption.any
      (fun r => Value.maxDepth < r.data.depth) = true := by
    decide +kernel
  obtain ⟨r, hr, hdepth⟩ := exists_eq_ok_of_any hdeep
  refine ⟨_, r, rfl, hr, ?_⟩
  rintro ⟨v, hread, -⟩
  rw [Value.ofJson?_json (ordered_of_processBytes hr), if_neg (Nat.not_le.2 (of_decide_eq_true hdepth))] at hread
  cases hread

end Engine

end PolicyEngine
