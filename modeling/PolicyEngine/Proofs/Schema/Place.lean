import Mathlib.Data.List.Basic
import PolicyEngine.Proofs.Number.Digits
import PolicyEngine.Schema.Violation

/-! The texts of places. A text is made of the texts of the steps with points between them, and where keys hold neither
points nor opening brackets the steps can be read off it again. Only the empty keys that a place starts with leave no
trace in its text. -/
namespace PolicyEngine.Step

/-! Texts of steps -/

@[simp] theorem render_property (key : String) : (property key).render = key := rfl

@[simp] theorem render_item (i : Nat) : (item i).render = "items[" ++ toString i ++ "]" := rfl

@[simp] theorem render_additionalItem (i : Nat) :
    (additionalItem i).render = "additionalItems[" ++ toString i ++ "]" := rfl

theorem render_eq_empty_iff {step : Step} : step.render = "" ↔ step = property "" := by
  cases step <;> simp

/-! Texts of places -/

@[simp] theorem renderPlace_nil : renderPlace [] = "" := rfl

theorem renderPlace_cons_blank {step : Step} (h : step.render = "") (rest : List Step) :
    renderPlace (step :: rest) = renderPlace rest := by
  simp [renderPlace, h]

def chars (step : Step) : List Char := step.render.toList

theorem toList_renderPlace {step : Step} (h : step.render ≠ "") (rest : List Step) :
    (renderPlace (step :: rest)).toList = ['.'].intercalate ((step :: rest).map chars) := by
  have hfold : ∀ (rest : List Step) (text : String), text ≠ "" →
      (rest.foldl (fun text step => if text.isEmpty then step.render else text ++ "." ++ step.render) text).toList =
        ['.'].intercalate (text.toList :: rest.map chars) := by
    intro rest
    induction rest with
    | nil => exact fun text _ => List.intercalate_singleton.symm
    | cons s rest ih =>
      intro text htext
      have hjoined : text ++ "." ++ s.render ≠ "" := by simp [htext]
      rw [List.foldl_cons, if_neg (by simpa using htext), ih _ hjoined, List.map_cons, List.intercalate_cons_cons]
      cases rest with
      | nil => simp [List.intercalate_singleton, chars]
      | cons t rest => simp [List.intercalate_cons_cons, chars]
  exact hfold rest step.render h

theorem renderPlace_cons_ne_empty {step : Step} (h : step.render ≠ "") (rest : List Step) :
    renderPlace (step :: rest) ≠ "" := by
  have hchars : step.chars ≠ [] := mt String.toList_eq_nil_iff.1 h
  intro hempty
  have htext := toList_renderPlace h rest
  rw [hempty, List.map_cons] at htext
  cases rest with
  | nil => exact hchars (by simpa [List.intercalate_singleton] using htext.symm)
  | cons next others => simp [List.intercalate_cons_cons] at htext

/-- The place of a part's violation, seen from the container: the text of the step comes in front, with a point. -/
theorem renderPlace_cons {step : Step} {place : List Step} (hstep : step.render ≠ "")
    (hplace : ∀ s ∈ place, s.render ≠ "") :
    renderPlace (step :: place) =
      if (renderPlace place).isEmpty then step.render else step.render ++ "." ++ renderPlace place := by
  cases place with
  | nil => rfl
  | cons next rest =>
    have hnext : next.render ≠ "" := hplace next List.mem_cons_self
    rw [if_neg (by simpa using renderPlace_cons_ne_empty hnext rest)]
    apply String.toList_injective
    rw [toList_renderPlace hstep, List.map_cons, List.map_cons, List.intercalate_cons_cons]
    simp [toList_renderPlace hnext, chars]

/-! Steps from their texts -/

/-- Keys hold neither points nor opening brackets. -/
def Plain : Step → Prop
  | property key => '.' ∉ key.toList ∧ '[' ∉ key.toList
  | _ => True

theorem chars_property (key : String) : (property key).chars = key.toList := rfl

theorem chars_item (i : Nat) : (item i).chars = "items[".toList ++ Number.digitsOf i ++ [']'] := by
  simp only [chars, render_item, Number.digitsOf, String.toList_append, Nat.toString_eq_repr, Nat.toList_repr]
  rfl

theorem chars_additionalItem (i : Nat) :
    (additionalItem i).chars = "additionalItems[".toList ++ Number.digitsOf i ++ [']'] := by
  simp only [chars, render_additionalItem, Number.digitsOf, String.toList_append, Nat.toString_eq_repr,
    Nat.toList_repr]
  rfl

theorem Plain.point_notMem {step : Step} (h : step.Plain) : '.' ∉ step.chars := by
  have hdigits : ∀ i, '.' ∉ Number.digitsOf i := Number.notMem_digitsOf (by decide)
  cases step with
  | property key => exact h.1
  | item i => simp [chars_item, hdigits]
  | additionalItem i => simp [chars_additionalItem, hdigits]

/-- Items can be told from keys by their brackets. -/
theorem Plain.bracket_mem_iff {step : Step} (h : step.Plain) : '[' ∈ step.chars ↔ ∀ key, step ≠ property key := by
  cases step with
  | property key => simpa [chars_property] using h.2
  | item i => simp [chars_item]
  | additionalItem i => simp [chars_additionalItem]

theorem digitsOf_injective {i j : Nat} (h : Number.digitsOf i = Number.digitsOf j) : i = j := by
  rw [← Number.digitsValue_digitsOf i, h, Number.digitsValue_digitsOf]

theorem Plain.eq_of_chars_eq {step other : Step} (h : step.Plain) (hother : other.Plain)
    (heq : step.chars = other.chars) : step = other := by
  have hkind : (∀ key, step ≠ property key) ↔ ∀ key, other ≠ property key := by
    rw [← h.bracket_mem_iff, ← hother.bracket_mem_iff, heq]
  cases step with
  | property key =>
    cases other with
    | property key' => exact congrArg property (String.toList_injective heq)
    | _ => simp at hkind
  | item i =>
    cases other with
    | property key => simp at hkind
    | item j =>
      rw [chars_item, chars_item] at heq
      exact congrArg item (digitsOf_injective (by simpa using heq))
    | additionalItem j => simp [chars_item, chars_additionalItem] at heq
  | additionalItem i =>
    cases other with
    | property key => simp at hkind
    | item j => simp [chars_item, chars_additionalItem] at heq
    | additionalItem j =>
      rw [chars_additionalItem, chars_additionalItem] at heq
      exact congrArg additionalItem (digitsOf_injective (by simpa using heq))

theorem eq_of_map_chars_eq {p q : List Step} (hp : ∀ s ∈ p, s.Plain) (hq : ∀ s ∈ q, s.Plain)
    (h : p.map chars = q.map chars) : p = q := by
  induction p generalizing q with
  | nil => exact (List.map_eq_nil_iff.1 h.symm).symm
  | cons s rest ih =>
    cases q with
    | nil => cases h
    | cons t others =>
      obtain ⟨hfirst, hrest⟩ := List.cons.inj h
      rw [(hp s List.mem_cons_self).eq_of_chars_eq (hq t List.mem_cons_self) hfirst,
        ih (fun s hs => hp s (List.mem_cons_of_mem _ hs)) (fun t ht => hq t (List.mem_cons_of_mem _ ht)) hrest]

/-! Places from their texts -/

/-- A place without the empty keys that it starts with. -/
def visible (place : List Step) : List Step := place.dropWhile (· = property "")

theorem renderPlace_visible (place : List Step) : renderPlace (visible place) = renderPlace place := by
  induction place with
  | nil => rfl
  | cons step rest ih =>
    by_cases h : step = property ""
    · have hdrop : visible (step :: rest) = visible rest := by simp [visible, h]
      rw [hdrop, ih, renderPlace_cons_blank (render_eq_empty_iff.2 h)]
    · have hkeep : visible (step :: rest) = step :: rest := by simp [visible, h]
      rw [hkeep]

theorem visible_eq_nil_or_cons (place : List Step) :
    visible place = [] ∨ ∃ step rest, visible place = step :: rest ∧ step.render ≠ "" := by
  have hhead := List.head?_dropWhile_not (fun s : Step => decide (s = property "")) place
  cases hvisible : visible place with
  | nil => exact .inl rfl
  | cons step rest =>
    rw [visible] at hvisible
    rw [hvisible] at hhead
    exact .inr ⟨step, rest, rfl, mt render_eq_empty_iff.1 (of_decide_eq_false hhead)⟩

theorem plain_visible {place : List Step} (h : ∀ s ∈ place, s.Plain) : ∀ s ∈ visible place, s.Plain :=
  fun s hs => h s ((List.dropWhile_sublist _).subset hs)

/-- The text of a place tells its steps, but for the empty keys that it starts with. -/
theorem renderPlace_eq_iff {p q : List Step} (hp : ∀ s ∈ p, s.Plain) (hq : ∀ s ∈ q, s.Plain) :
    renderPlace p = renderPlace q ↔ visible p = visible q := by
  constructor
  · intro h
    rw [← renderPlace_visible p, ← renderPlace_visible q] at h
    have hpoint : ∀ place : List Step, (∀ s ∈ place, s.Plain) → ∀ text ∈ place.map chars, '.' ∉ text := by
      intro place hplace text htext
      obtain ⟨s, hs, rfl⟩ := List.mem_map.1 htext
      exact (hplace s hs).point_notMem
    have hpplain := plain_visible hp
    have hqplain := plain_visible hq
    rcases visible_eq_nil_or_cons p with hpnil | ⟨s, rest, hpcons, hs⟩ <;>
      rcases visible_eq_nil_or_cons q with hqnil | ⟨t, others, hqcons, ht⟩
    · rw [hpnil, hqnil]
    · rw [hpnil, hqcons] at h
      exact absurd h.symm (renderPlace_cons_ne_empty ht others)
    · rw [hpcons, hqnil] at h
      exact absurd h (renderPlace_cons_ne_empty hs rest)
    · rw [hpcons] at h hpplain ⊢
      rw [hqcons] at h hqplain ⊢
      have htexts := congrArg (fun text : String => text.toList.splitOn '.') h
      simp only [toList_renderPlace hs, toList_renderPlace ht] at htexts
      rw [List.splitOn_intercalate '.' (hpoint _ hpplain) (by simp),
        List.splitOn_intercalate '.' (hpoint _ hqplain) (by simp)] at htexts
      exact eq_of_map_chars_eq hpplain hqplain htexts
  · intro h
    rw [← renderPlace_visible p, h, renderPlace_visible]

end PolicyEngine.Step
