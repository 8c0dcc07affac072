import PolicyEngine.Proofs.Document.Finite

/-! Documents through JSON text. The reader of numbers may misread the digits that are written for a real; as far as it
does not, a document of finite numbers comes back equal from its text exactly if it is not too deep. -/
namespace PolicyEngine

/-- The number that a text spells as JSON. -/
def Json.numberOf? (cs : List Char) : Option Float :=
  match readNumber cs with
  | some (text, []) => text.toNumber?
  | _ => none

namespace Value

/-- Whether the reader of numbers gives a number back from the digits that are written for it as a real. -/
def ReadsBack (x : Float) : Prop := ∀ cs ∈ Number.jsonReal? x, Json.numberOf? cs = some x

instance (x : Float) : Decidable (ReadsBack x) :=
  inferInstanceAs (Decidable (∀ cs ∈ Number.jsonReal? x, Json.numberOf? cs = some x))

variable {v : Value} {x : Float}

/-- A real that is read back on its own is read back as a document. -/
theorem survives_of_readsBack (hfinite : x.isFinite = true) (hint : Number.jsonInt? x = none) (h : ReadsBack x) :
    survives x = true := by
  obtain ⟨p, hview⟩ := (Number.isFinite_eq_view x).1 hfinite
  obtain ⟨t, ht, hreal⟩ := Json.exists_real hview hint
  have hread : Json.readNumber t.chars = some (t, []) := by
    have hend : Json.EndsNumber [] := by simp [Json.EndsNumber]
    have hread := ht.readNumber hend
    rwa [List.append_nil] at hread
  have hx : t.toNumber? = some x := by
    have hnumber := h t.chars hreal
    rwa [Json.numberOf?, hread] at hnumber
  have hchars : numberChars x = t.chars := by
    rw [numberChars, hint]
    change Json.realChars x = t.chars
    rw [Json.realChars, hreal, Option.getD_some]
  refine survives_iff.2 ⟨x, ?_, Number.beq_self hfinite⟩
  rw [rereadNumber?, Json.numberNode_eq ht hchars, ofNode?, hx]
  rfl

theorem survives_of_mem_numbers (hfinite : v.IsFinite)
    (hreader : ∀ x ∈ v.numbers, Number.jsonInt? x = none → ReadsBack x) : ∀ x ∈ v.numbers, survives x = true := by
  intro x hx
  cases hint : Number.jsonInt? x with
  | some i => exact survives_of_jsonInt? hint
  | none => exact survives_of_readsBack (hfinite x hx) hint (hreader x hx hint)

/-- A document of finite numbers whose reals are read back comes back equal from its JSON text, unless it nests deeper
than the reader goes. -/
theorem ofJson?_json_beq_iff (h : v.Ordered) (hfinite : v.IsFinite)
    (hreader : ∀ x ∈ v.numbers, Number.jsonInt? x = none → ReadsBack x) :
    (∃ w, ofJson? v.json = some w ∧ (w == v) = true) ↔ v.depth ≤ maxDepth := by
  rw [ofJson?_json h]
  constructor
  · rintro ⟨w, hw, -⟩
    by_contra hdeep
    rw [if_neg hdeep] at hw
    cases hw
  · intro hdepth
    rw [if_pos hdepth]
    exact exists_reread?_beq v (survives_of_mem_numbers hfinite hreader)

/-- A value inside some arrays. -/
def nested : Nat → Value → Value
  | 0, v => v
  | n + 1, v => .array [nested n v]

theorem Ordered.nested (h : v.Ordered) (n : Nat) : (nested n v).Ordered := by
  induction n with
  | zero => exact h
  | succ n ih => exact .array fun item hitem => List.mem_singleton.1 hitem ▸ ih

/-- Texts with every kind of escape, a zero with a sign, and reals of all spellings. -/
def mixed : Value := .object [
  ("", .number (-0.0)),
  ("a\"b\\\n", .array [.number 0.1, .number 1e300, .number 9007199254740992, .number (-1.5e-7)]),
  ("é", .string "\x01\x7f☃😀")]

theorem ordered_mixed : mixed.Ordered := by
  have hnumber : ∀ x : Float, (number x).Ordered := fun _ => .scalar rfl
  have hstring : ∀ s : String, (string s).Ordered := fun _ => .scalar rfl
  exact .object (by decide) (by simp [hnumber, hstring])

/-- The reader goes as deep as 127 containers, and no deeper. -/
theorem ofJson?_json_beq_iff_nested :
    ((nested 125 mixed).depth = 127 ∧
        ∃ w, ofJson? (nested 125 mixed).json = some w ∧ (w == nested 125 mixed) = true) ∧
      (nested 126 mixed).depth = 128 ∧
        ¬ ∃ w, ofJson? (nested 126 mixed).json = some w ∧ (w == nested 126 mixed) = true := by
  have hordered := ordered_mixed.nested
  refine ⟨⟨by decide +kernel, ?_⟩, by decide +kernel, ?_⟩
  · exact (ofJson?_json_beq_iff (hordered 125) (by decide +kernel) (by decide +kernel)).2 (by decide +kernel)
  · exact mt (ofJson?_json_beq_iff (hordered 126) (by decide +kernel) (by decide +kernel)).1 (by decide +kernel)

end Value

end PolicyEngine
