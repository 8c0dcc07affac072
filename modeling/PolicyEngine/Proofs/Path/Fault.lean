import PolicyEngine.Proofs.Path.Grammar
import PolicyEngine.Proofs.Path.InPlace

/-! What faults tell of a document. A walk stops at one value on its way; the fault names the place of that value, or of
the key that is absent there, by a text that leads back to it. -/
namespace PolicyEngine

/-- The value that a text leads to: the dollar sign stands for the document itself. -/
def Value.located? (doc : Value) (text : String) : Option Value :=
  if text = "$" then some doc else (Path.parse text).toOption.bind fun q => (doc.get q).toOption.join

namespace AccessFault

/-- The place that a fault names. -/
def place : AccessFault → List Segment
  | indexOutOfBounds place _ _ => place
  | notAnObject place | notAnArray place | missingKey place | scalarCollision place => place

/-- The path in a fault, as its message spells it. -/
def text (fault : AccessFault) : String := renderPlace fault.place

/-- The document bears out what a fault says of it, when the path in the fault is looked up again. -/
def Confirmed (doc : Value) : AccessFault → Prop
  | notAnObject place => ∃ found, doc.located? (renderPlace place) = some found ∧ found.object? = none
  | notAnArray place => ∃ found, doc.located? (renderPlace place) = some found ∧ found.array? = none
  | scalarCollision place => ∃ found, doc.located? (renderPlace place) = some found ∧ found.isScalar = true
  | indexOutOfBounds place i size =>
    ∃ items, doc.located? (renderPlace place) = some (.array items) ∧ items.length = size ∧ size ≤ i
  | missingKey place => ∃ holder name fields q, place = holder ++ [.key name] ∧
    doc.located? (renderPlace holder) = some (.object fields) ∧ Fields.get? name fields = none ∧
    Path.parse (renderPlace place) = .ok q ∧ doc.get q = .ok none

/-- A fault of a walk along a path tells the truth about the document. -/
structure TellsTruth (doc : Value) (p : Path) (fault : AccessFault) : Prop where
  on_way : fault.place <+: p.segments
  named : (fault.place = [] ∧ fault.text = "$") ∨ ∃ q, Path.parse fault.text = .ok q ∧ q.segments = fault.place
  confirmed : fault.Confirmed doc
  containers : ∀ front, front <+: fault.place → front ≠ fault.place →
    ∃ found, doc.located? (renderPlace front) = some found ∧ found.isScalar = false

end AccessFault

namespace Value

open AccessFault (TellsTruth)

/-! Where a walk stops -/

/-- Why a walk stops at a value: the place of the value, the step that it cannot take there, and the fault. -/
inductive Refuses (place : List Segment) : Segment → Value → AccessFault → Prop
  | mismatch {step : Segment} {v : Value} (h : step.leadsInto v = false) : Refuses place step v (step.mismatch place)
  | scalar {step : Segment} {v : Value} (h : v.isScalar = true) : Refuses place step v (.scalarCollision place)
  | missing {name : String} {fields : List (String × Value)} (h : Fields.get? name fields = none) :
      Refuses place (.key name) (.object fields) (.missingKey (place ++ [.key name]))
  | beyond {i : Nat} {items : List Value} (h : items.length ≤ i) :
      Refuses place (.index i) (.array items) (.indexOutOfBounds place i items.length)

variable {v found doc value : Value} {step : Segment} {way rest place front : List Segment} {fault : AccessFault}

theorem Refuses.under (h : Refuses place step found fault) (first : Segment) :
    Refuses (first :: place) step found (fault.under first) := by
  cases h with
  | mismatch h =>
    rw [Segment.under_mismatch]
    exact .mismatch h
  | scalar h => exact .scalar h
  | missing h => exact .missing h
  | beyond h => exact .beyond h

theorem refuses_of_absent (hkind : step.leadsInto v = true) (h : v.child? step = none)
    (hget : v.getAt (step :: rest) = .error fault) : Refuses [] step v fault := by
  cases step with
  | key name =>
    cases v with
    | object fields =>
      have hnone : Fields.get? name fields = none := h
      rw [getAt, hnone] at hget
      cases rest with
      | nil => cases hget
      | cons next later =>
        cases hget
        exact .missing hnone
    | _ => cases hkind
  | index i =>
    cases v with
    | array items =>
      have hnone : items[i]? = none := h
      rw [getAt, hnone] at hget
      cases hget
      exact .beyond (List.getElem?_eq_none_iff.1 hnone)
    | _ => cases hkind

/-- Reading that fails has come to a value on its way and cannot take the next step from there. -/
theorem exists_refuses_of_getAt (h : v.getAt way = .error fault) :
    ∃ place step found, place ++ [step] <+: way ∧ v.getAt place = .ok (some found) ∧
      Refuses place step found fault := by
  induction way generalizing v fault with
  | nil =>
    rw [getAt_nil] at h
    cases h
  | cons step rest ih =>
    cases hkind : step.leadsInto v with
    | false =>
      rw [getAt_cons_of_mismatch hkind] at h
      cases h
      exact ⟨[], step, v, List.prefix_append [step] rest, getAt_nil v, .mismatch hkind⟩
    | true =>
      cases hchild : v.child? step with
      | none =>
        exact ⟨[], step, v, List.prefix_append [step] rest, getAt_nil v, refuses_of_absent hkind hchild h⟩
      | some child =>
        rw [getAt_cons_of_child? hchild] at h
        obtain ⟨inner, hinner, rfl⟩ := mapError_eq_error_iff.1 h
        obtain ⟨place, last, found, hway, hfound, hrefuses⟩ := ih hinner
        exact ⟨step :: place, last, found, List.cons_prefix_cons.2 ⟨rfl, hway⟩,
          getAt_cons_eq_some_iff.2 ⟨child, hchild, hfound⟩, hrefuses.under step⟩

theorem Blocked.step_on_way (h : Blocked v way place step found) : place ++ [step] <+: way := by
  induction h with
  | here _ => exact List.prefix_append [_] _
  | deeper _ _ ih => exact List.cons_prefix_cons.2 ⟨rfl, ih⟩

theorem Blocked.leadsInto (h : Blocked v way place step found) : step.leadsInto found = false := by
  induction h with
  | here hkind => exact hkind
  | deeper _ _ ih => exact ih

/-- Writing that fails has come to a value that was in the document before. -/
theorem exists_refuses_of_setAt (h : setAt value way v = .error fault) :
    ∃ place step found, place ++ [step] <+: way ∧ v.getAt place = .ok (some found) ∧
      Refuses place step found fault := by
  obtain ⟨place, step, found, hblocked, rfl⟩ := setAt_eq_error_iff.1 h
  refine ⟨place, step, found, hblocked.step_on_way, hblocked.getAt_place, ?_⟩
  unfold Segment.collision
  split
  · next hscalar => exact .scalar hscalar
  · exact .mismatch hblocked.leadsInto

/-! Places on the way -/

theorem isScalar_of_child? {child : Value} (h : v.child? step = some child) : v.isScalar = false := by
  cases step <;> cases v <;> first | rfl | cases h

theorem getAt_of_prefix (hfront : front <+: place) (h : v.getAt place = .ok (some found)) :
    ∃ w, v.getAt front = .ok (some w) ∧ (front ≠ place → w.isScalar = false) := by
  induction front generalizing v place with
  | nil =>
    refine ⟨v, getAt_nil v, fun hne => ?_⟩
    cases place with
    | nil => exact absurd rfl hne
    | cons step rest =>
      obtain ⟨child, hchild, -⟩ := getAt_cons_eq_some_iff.1 h
      exact isScalar_of_child? hchild
  | cons step front ih =>
    obtain ⟨rest, rfl, hrest⟩ := List.cons_prefix_iff.1 hfront
    obtain ⟨child, hchild, hfound⟩ := getAt_cons_eq_some_iff.1 h
    obtain ⟨w, hw, hcontainer⟩ := ih hrest hfound
    refine ⟨w, getAt_cons_eq_some_iff.2 ⟨child, hchild, hw⟩, fun hne => hcontainer fun heq => hne ?_⟩
    rw [heq]

theorem getAt_append_key {name : String} {fields : List (String × Value)}
    (h : v.getAt place = .ok (some (.object fields))) (hnone : Fields.get? name fields = none) :
    v.getAt (place ++ [.key name]) = .ok none := by
  induction place generalizing v with
  | nil =>
    rw [getAt_nil] at h
    cases h
    rw [List.nil_append, getAt, hnone]
    rfl
  | cons step rest ih =>
    obtain ⟨child, hchild, hrest⟩ := getAt_cons_eq_some_iff.1 h
    rw [List.cons_append, getAt_cons_of_child? hchild, ih hrest]
    rfl

/-! The text of a place on the way of a parsed path -/

section

variable {text : String} {p : Path}

theorem named_of_prefix (hp : Path.parse text = .ok p) (hplace : place <+: p.segments) :
    (place = [] ∧ renderPlace place = "$") ∨ ∃ q, Path.parse (renderPlace place) = .ok q ∧ q.segments = place := by
  cases place with
  | nil => exact .inl ⟨rfl, rfl⟩
  | cons step rest => exact .inr (Path.parse_renderPlace_of_prefix hp hplace (List.cons_ne_nil step rest))

theorem located?_renderPlace (hp : Path.parse text = .ok p) (hplace : place <+: p.segments)
    (hget : doc.getAt place = .ok (some found)) : doc.located? (renderPlace place) = some found := by
  rcases named_of_prefix hp hplace with ⟨rfl, htext⟩ | ⟨q, hq, rfl⟩
  · rw [getAt_nil] at hget
    cases hget
    rw [located?, if_pos htext]
  · have htext : renderPlace q.segments ≠ "$" := by
      intro heq
      rw [heq] at hq
      cases hq
    have hfound : doc.get q = .ok (some found) := hget
    rw [located?, if_neg htext, hq]
    simp [Except.toOption, hfound]

theorem located?_front (hp : Path.parse text = .ok p) (hplace : place <+: p.segments)
    (hget : doc.getAt place = .ok (some found)) (hfront : front <+: place) (hne : front ≠ place) :
    ∃ w, doc.located? (renderPlace front) = some w ∧ w.isScalar = false := by
  obtain ⟨w, hw, hcontainer⟩ := getAt_of_prefix hfront hget
  exact ⟨w, located?_renderPlace hp (hfront.trans hplace) hw, hcontainer hne⟩

/-- A fault names the place of the value at which the walk stops, but for an absent key, which is named itself. -/
theorem Refuses.tellsTruth (hp : Path.parse text = .ok p) (hway : place ++ [step] <+: p.segments)
    (hget : doc.getAt place = .ok (some found)) (h : Refuses place step found fault) : TellsTruth doc p fault := by
  have hplace : place <+: p.segments := (List.prefix_append place [step]).trans hway
  have hnamed := named_of_prefix hp hplace
  have hlocated := located?_renderPlace hp hplace hget
  have hcontainers := fun front (hfront : front <+: place) (hne : front ≠ place) =>
    located?_front hp hplace hget hfront hne
  cases h with
  | mismatch hkind =>
    cases step with
    | key name =>
      refine ⟨hplace, hnamed, ⟨found, hlocated, ?_⟩, hcontainers⟩
      cases found <;> first | rfl | cases hkind
    | index i =>
      refine ⟨hplace, hnamed, ⟨found, hlocated, ?_⟩, hcontainers⟩
      cases found <;> first | rfl | cases hkind
  | scalar hscalar => exact ⟨hplace, hnamed, ⟨found, hlocated, hscalar⟩, hcontainers⟩
  | beyond hlength => exact ⟨hplace, hnamed, ⟨_, hlocated, rfl, hlength⟩, hcontainers⟩
  | @missing name fields hnone =>
    obtain ⟨q, hq, hsegments⟩ := Path.parse_renderPlace_of_prefix hp hway (by simp)
    have habsent : doc.get q = .ok none := by
      rw [get, hsegments]
      exact getAt_append_key hget hnone
    refine ⟨hway, .inr ⟨q, hq, hsegments⟩, ⟨place, name, fields, q, rfl, hlocated, hnone, hq, habsent⟩, ?_⟩
    intro front hfront hne
    rcases List.prefix_concat_iff.1 hfront with heq | hfront
    · exact absurd heq hne
    · by_cases heq : front = place
      · exact ⟨.object fields, heq ▸ hlocated, rfl⟩
      · exact hcontainers front hfront heq

/-- The faults of reading and of writing tell the truth about the document. A document written in place is, after a
fault, the one that it was before. -/
theorem faults_tell_truth (hp : Path.parse text = .ok p) (doc value : Value) (fault : AccessFault) :
    (doc.get p = .error fault → TellsTruth doc p fault) ∧ (doc.set p value = .error fault → TellsTruth doc p fault) ∧
      (doc.Ordered → ∀ after, doc.assign p value = (after, some fault) → after = doc ∧ TellsTruth after p fault) := by
  have hset : doc.set p value = .error fault → TellsTruth doc p fault := by
    intro h
    obtain ⟨place, step, found, hway, hget, hrefuses⟩ := exists_refuses_of_setAt h
    exact hrefuses.tellsTruth hp hway hget
  refine ⟨fun h => ?_, hset, fun hordered after h => ?_⟩
  · obtain ⟨place, step, found, hway, hget, hrefuses⟩ := exists_refuses_of_getAt h
    exact hrefuses.tellsTruth hp hway hget
  · rw [hordered.assign_eq] at h
    obtain ⟨rfl, hfault⟩ := settled_eq_some_iff.1 h
    exact ⟨rfl, hset hfault⟩

end

/-- A number stands in the way below the first row, which reading and writing report in words of their own. -/
theorem faults_tell_truth_number :
    let doc := Value.object [("rows", .array [.object [("n", .number 1)]])]
    let p : Path := ⟨"rows", [.index 0, .key "n", .key "x", .index 1]⟩
    let place : List Segment := [.key "rows", .index 0, .key "n"]
    Path.parse "$.rows[0].n.x[1]" = .ok p ∧ renderPlace place = "$.rows[0].n" ∧ doc.Ordered ∧
      doc.get p = .error (.notAnObject place) ∧ TellsTruth doc p (.notAnObject place) ∧
      doc.set p .null = .error (.scalarCollision place) ∧ TellsTruth doc p (.scalarCollision place) ∧
      (doc.assign p .null).2 = some (.scalarCollision place) ∧ (doc.assign p .null).1 = doc := by
  intro doc p place
  have hspellable : ∀ s ∈ p.segments, Path.IsSpellable s := by decide
  have hparse : Path.parse "$.rows[0].n.x[1]" = .ok p := Path.parse_renderPlace hspellable
  have hnumber : (Value.number 1).Ordered := .scalar rfl
  have hordered : doc.Ordered := ordered_object_iff.2 ⟨by decide, by simp [Fields.Ascending, hnumber]⟩
  have hget : doc.get p = .error (.notAnObject place) := rfl
  have hset : doc.set p .null = .error (.scalarCollision place) := rfl
  have hfault : (doc.assign p .null).2 = some (.scalarCollision place) := rfl
  obtain ⟨hread, -, -⟩ := faults_tell_truth hparse doc .null (.notAnObject place)
  obtain ⟨-, hwrite, hkept⟩ := faults_tell_truth hparse doc .null (.scalarCollision place)
  exact ⟨hparse, by decide, hordered, hget, hread hget, hset, hwrite hset, hfault,
    (hkept hordered _ (Prod.ext rfl hfault)).1⟩

end Value

end PolicyEngine
