import PolicyEngine.Path.Basic
import PolicyEngine.Proofs.Schema.Decision

/-! How the validator walks a document. What an object schema says of a value is said of the value itself or comes
from its parts, and the way to a violation leads from part to part of the document. -/
namespace PolicyEngine

namespace Value

mutual

/-- The keys of all objects in a document. -/
def keys : Value → List String
  | .array items => itemKeys items
  | .object fields => fieldKeys fields
  | _ => []

def itemKeys : List Value → List String
  | [] => []
  | item :: rest => keys item ++ itemKeys rest

def fieldKeys : List (String × Value) → List String
  | [] => []
  | (key, value) :: rest => key :: (keys value ++ fieldKeys rest)

end

theorem keys_subset_itemKeys {items : List Value} {item : Value} (h : item ∈ items) :
    item.keys ⊆ itemKeys items := by
  induction items with
  | nil => cases h
  | cons first rest ih =>
    rw [itemKeys]
    rcases List.mem_cons.1 h with rfl | h
    · exact List.subset_append_left _ _
    · exact List.subset_append_of_subset_right _ (ih h)

theorem keys_subset_fieldKeys {fields : List (String × Value)} {key : String} {child : Value}
    (h : (key, child) ∈ fields) : key ∈ fieldKeys fields ∧ child.keys ⊆ fieldKeys fields := by
  induction fields with
  | nil => cases h
  | cons first rest ih =>
    obtain ⟨k, v⟩ := first
    rw [fieldKeys]
    rcases List.mem_cons.1 h with heq | h
    · cases heq
      exact ⟨List.mem_cons_self, List.subset_cons_of_subset _ (List.subset_append_left _ _)⟩
    · obtain ⟨hkey, hchild⟩ := ih h
      exact ⟨List.mem_cons_of_mem _ (List.mem_append_right _ hkey),
        List.subset_cons_of_subset _ (List.subset_append_of_subset_right _ hchild)⟩

end Value

/-! Ways from part to part -/

namespace Step

/-- The step into a document, whichever keyword an item is covered by. -/
def segment : Step → Segment
  | property key => .key key
  | item i | additionalItem i => .index i

/-- Whether a step goes from a value to one of its parts. -/
def GoesTo (v : Value) (step : Step) (child : Value) : Prop :=
  match step with
  | property key => ∃ fields, v = .object fields ∧ (key, child) ∈ fields
  | item i | additionalItem i => ∃ items, v = .array items ∧ items[i]? = some child

variable {v child : Value} {step : Step} {place : List Step}

theorem GoesTo.key_or_index (h : step.GoesTo v child) :
    (∃ key fields, step = property key ∧ v = .object fields ∧ (key, child) ∈ fields) ∨
      ∃ i items, step.segment = .index i ∧ v = .array items ∧ items[i]? = some child := by
  cases step with
  | property key =>
    obtain ⟨fields, hv, hmem⟩ := h
    exact .inl ⟨key, fields, rfl, hv, hmem⟩
  | item i =>
    obtain ⟨items, hv, hget⟩ := h
    exact .inr ⟨i, items, rfl, hv, hget⟩
  | additionalItem i =>
    obtain ⟨items, hv, hget⟩ := h
    exact .inr ⟨i, items, rfl, hv, hget⟩

theorem GoesTo.keys_subset (h : step.GoesTo v child) : child.keys ⊆ v.keys := by
  obtain ⟨key, fields, -, rfl, hmem⟩ | ⟨i, items, -, rfl, hget⟩ := h.key_or_index
  · exact (Value.keys_subset_fieldKeys hmem).2
  · exact Value.keys_subset_itemKeys (List.mem_of_getElem? hget)

theorem GoesTo.sizeOf_lt (h : step.GoesTo v child) : sizeOf child < sizeOf v := by
  obtain ⟨key, fields, -, rfl, hmem⟩ | ⟨i, items, -, rfl, hget⟩ := h.key_or_index
  · have := List.sizeOf_lt_of_mem hmem
    simp only [Value.object.sizeOf_spec, Prod.mk.sizeOf_spec] at this ⊢
    omega
  · have := List.sizeOf_lt_of_mem (List.mem_of_getElem? hget)
    simp only [Value.array.sizeOf_spec]
    omega

/-- A way that leads from a value from part to part. -/
inductive Leads : Value → List Step → Prop
  | here (v : Value) : Leads v []
  | deeper {v child : Value} {step : Step} {place : List Step} (h : step.GoesTo v child)
      (tail : Leads child place) : Leads v (step :: place)

theorem Leads.key_mem (h : Leads v place) {key : String} (hkey : property key ∈ place) : key ∈ v.keys := by
  induction h with
  | here v => cases hkey
  | deeper hstep _ ih =>
    rcases List.mem_cons.1 hkey with rfl | hkey
    · obtain ⟨fields, rfl, hmem⟩ := hstep
      exact (Value.keys_subset_fieldKeys hmem).1
    · exact hstep.keys_subset (ih hkey)

end Step

namespace Schema
open Violation (here)

/-! The walk at one value -/

/-- The parts of a value with the rules for them, in the order of the walk. A container that `type` does not admit
is not gone into. -/
def partsOf (keywords : Keywords) (v : Value) : List (PartRule × Value) :=
  match v with
  | .object fields => if admits keywords "object" then fields.map fun p => (propertyRule keywords p.1, p.2) else []
  | .array items => if admits keywords "array" then items.zipIdx.map fun p => (itemRule keywords p.2, p.1) else []
  | _ => []

/-- What is found at a value before its parts are gone into. -/
def opening (keywords : Keywords) (v : Value) : List Violation :=
  ofKeyword keywords .type (typeViolations · v) ++
    match v with
    | .object fields =>
      if admits keywords "object" then requiredViolations keywords fields ++ propertiesViolations keywords else []
    | .array _ => if admits keywords "array" then itemsViolations keywords else []
    | _ => []

/-- What is found at a value after its parts. -/
def closing (patterns : PatternTable) (keywords : Keywords) (v : Value) : List Violation :=
  (match v with
    | .array items => if admits keywords "array" then sizeViolations keywords items.length else []
    | _ => []) ++ valueViolations patterns keywords v

theorem fieldViolations_eq_flatMap (patterns : PatternTable) (keywords : Keywords) (fields : List (String × Value)) :
    fieldViolations patterns keywords fields =
      fields.flatMap fun p => partViolations patterns (propertyRule keywords p.1) p.2 := by
  induction fields with
  | nil => rfl
  | cons entry rest ih =>
    rw [fieldViolations, ih, List.flatMap_cons]
    rfl

theorem itemViolations_eq_flatMap (patterns : PatternTable) (keywords : Keywords) (start : Nat) (items : List Value) :
    itemViolations patterns keywords start items =
      (items.zipIdx start).flatMap fun p => partViolations patterns (itemRule keywords p.2) p.1 := by
  induction items generalizing start with
  | nil => rfl
  | cons item rest ih =>
    rw [itemViolations, ih, List.zipIdx_cons, List.flatMap_cons]
    rfl

/-- The walk at one value: the value itself, part by part, and the value itself again. -/
theorem violations_object (patterns : PatternTable) (keywords : Keywords) (v : Value) :
    violations patterns (.object keywords) v = opening keywords v ++
      (partsOf keywords v).flatMap (fun p => partViolations patterns p.1 p.2) ++ closing patterns keywords v := by
  cases v with
  | object fields =>
    simp only [violations, opening, partsOf, closing, fieldViolations_eq_flatMap]
    split <;> simp [List.flatMap_map]
  | array items =>
    simp only [violations, opening, partsOf, closing, itemViolations_eq_flatMap]
    split <;> simp [List.flatMap_map]
  | _ => simp [violations, opening, partsOf, closing]

theorem goesTo_of_additionalRule {additional : Option Value} {step step' : Step} {cause : Violation.Cause}
    {sub : Value} (h : additionalRule additional step cause = .check step' sub) : step' = step := by
  unfold additionalRule at h
  split at h <;> cases h
  rfl

/-- A part that is checked is checked at the step that goes to it. -/
theorem goesTo_of_mem_partsOf {keywords : Keywords} {v child sub : Value} {step : Step}
    (h : (.check step sub, child) ∈ partsOf keywords v) : step.GoesTo v child := by
  unfold partsOf at h
  split at h
  · split at h
    · obtain ⟨p, hmem, heq⟩ := List.mem_map.1 h
      obtain ⟨hrule, rfl⟩ := Prod.mk.inj heq
      have hstep : step = .property p.1 := by
        unfold propertyRule at hrule
        split at hrule
        · cases hrule
          rfl
        · exact goesTo_of_additionalRule hrule
      subst hstep
      exact ⟨_, rfl, hmem⟩
    · cases h
  · next items =>
    split at h
    · obtain ⟨p, hmem, heq⟩ := List.mem_map.1 h
      obtain ⟨hrule, rfl⟩ := Prod.mk.inj heq
      have hget : items[p.2]? = some p.1 := List.mk_mem_zipIdx_iff_getElem?.1 hmem
      have hstep : step = .item p.2 ∨ step = .additionalItem p.2 := by
        unfold itemRule at hrule
        split at hrule
        · split at hrule
          · cases hrule
            exact .inl rfl
          · exact .inr (goesTo_of_additionalRule hrule)
        · cases hrule
          exact .inl rfl
        · cases hrule
          exact .inl rfl
        · cases hrule
      rcases hstep with rfl | rfl
      · exact ⟨items, rfl, hget⟩
      · exact ⟨items, rfl, hget⟩
    · cases h
  · cases h

/-! Places of violations -/

/-- Violations by a value itself. -/
def AtTop (vs : List Violation) : Prop := ∀ x ∈ vs, x.place = []

theorem atTop_nil : AtTop [] := by simp [AtTop]

theorem atTop_here (cause : Violation.Cause) : AtTop [here cause] := by simp [AtTop, here]

theorem AtTop.append {vs ws : List Violation} (hv : AtTop vs) (hw : AtTop ws) : AtTop (vs ++ ws) :=
  fun x hx => (List.mem_append.1 hx).elim (hv x) (hw x)

theorem atTop_ofKeyword (keywords : Keywords) (k : Keyword) {f : Value → List Violation}
    (h : ∀ raw, AtTop (f raw)) : AtTop (ofKeyword keywords k f) := by
  unfold ofKeyword
  cases keyword? keywords k with
  | none => exact atTop_nil
  | some raw => exact h raw

theorem atTop_typeViolations (type v : Value) : AtTop (typeViolations type v) := by
  unfold typeViolations
  repeat' split
  all_goals first | exact atTop_nil | exact atTop_here _

theorem atTop_requiredViolations (keywords : Keywords) (fields : List (String × Value)) :
    AtTop (requiredViolations keywords fields) := by
  unfold requiredViolations
  split
  · exact atTop_nil
  · intro x hx
    obtain ⟨entry, -, hentry⟩ := List.mem_filterMap.1 hx
    revert hentry
    repeat' split
    all_goals
      intro hentry
      cases hentry
    all_goals rfl
  · exact atTop_here _

theorem atTop_propertiesViolations (keywords : Keywords) : AtTop (propertiesViolations keywords) := by
  unfold propertiesViolations
  split
  · exact atTop_nil
  · exact atTop_nil
  · exact atTop_here _

theorem atTop_itemsViolations (keywords : Keywords) : AtTop (itemsViolations keywords) := by
  unfold itemsViolations
  split
  all_goals first | exact atTop_nil | exact atTop_here _

theorem atTop_countViolations (keywords : Keywords) (k : Keyword) (broken : Nat → Option Violation.Cause) :
    AtTop (countViolations keywords k broken) := by
  unfold countViolations
  split
  · exact atTop_nil
  · split
    · exact atTop_here _
    · next count _ =>
      cases broken count with
      | none => exact atTop_nil
      | some cause => exact atTop_here cause

theorem atTop_enumViolations (allowed v : Value) : AtTop (enumViolations allowed v) := by
  unfold enumViolations
  repeat' split
  all_goals first | exact atTop_nil | exact atTop_here _

theorem atTop_boundViolations (bound : Bound) (limit v : Value) : AtTop (boundViolations bound limit v) := by
  unfold boundViolations
  repeat' split
  all_goals first | exact atTop_nil | exact atTop_here _

theorem atTop_patternViolations (patterns : PatternTable) (pattern v : Value) :
    AtTop (patternViolations patterns pattern v) := by
  unfold patternViolations
  repeat' split
  all_goals first | exact atTop_nil | exact atTop_here _

theorem atTop_formatViolations (format v : Value) : AtTop (formatViolations format v) := by
  unfold formatViolations
  repeat' split
  all_goals first | exact atTop_nil | exact atTop_here _

theorem atTop_valueViolations (patterns : PatternTable) (keywords : Keywords) (v : Value) :
    AtTop (valueViolations patterns keywords v) := by
  refine .append (.append (.append (.append ?_ ?_) ?_) ?_) ?_
  · exact atTop_ofKeyword keywords .enum fun raw => atTop_enumViolations raw v
  · exact atTop_ofKeyword keywords .minimum fun raw => atTop_boundViolations .least raw v
  · exact atTop_ofKeyword keywords .maximum fun raw => atTop_boundViolations .greatest raw v
  · exact atTop_ofKeyword keywords .pattern fun raw => atTop_patternViolations patterns raw v
  · exact atTop_ofKeyword keywords .format fun raw => atTop_formatViolations raw v

theorem atTop_opening (keywords : Keywords) (v : Value) : AtTop (opening keywords v) := by
  unfold opening
  refine .append (atTop_ofKeyword keywords .type fun raw => atTop_typeViolations raw v) ?_
  repeat' split
  · exact (atTop_requiredViolations keywords _).append (atTop_propertiesViolations keywords)
  · exact atTop_nil
  · exact atTop_itemsViolations keywords
  · exact atTop_nil
  · exact atTop_nil

theorem atTop_closing (patterns : PatternTable) (keywords : Keywords) (v : Value) :
    AtTop (closing patterns keywords v) := by
  unfold closing
  refine .append ?_ (atTop_valueViolations patterns keywords v)
  repeat' split
  · exact (atTop_countViolations keywords _ _).append (atTop_countViolations keywords _ _)
  · exact atTop_nil
  · exact atTop_nil

/-- A violation lies where its place leads. By induction on the document: the place of a violation by a part goes to
that part first. -/
theorem leads_of_mem_violations {patterns : PatternTable} {schema v : Value} {x : Violation}
    (h : x ∈ violations patterns schema v) : Step.Leads v x.place := by
  have hhere : x.place = [] → Step.Leads v x.place := fun hnil => hnil ▸ .here v
  cases schema with
  | object keywords =>
    rw [violations_object] at h
    rcases List.mem_append.1 h with h | h
    · rcases List.mem_append.1 h with h | h
      · exact hhere (atTop_opening keywords v x h)
      · obtain ⟨⟨rule, child⟩, hpart, hx⟩ := List.mem_flatMap.1 h
        cases rule with
        | check step sub =>
          have hstep := goesTo_of_mem_partsOf hpart
          obtain ⟨y, hy, rfl⟩ := List.mem_map.1 hx
          have := hstep.sizeOf_lt
          exact .deeper hstep (leads_of_mem_violations hy)
        | refuse cause => exact hhere (atTop_here cause x hx)
        | permit => cases hx
    · exact hhere (atTop_closing patterns keywords v x h)
  | bool b =>
    cases b with
    | true =>
      rw [violations_true] at h
      cases h
    | false =>
      rw [violations_false] at h
      exact hhere (atTop_here _ x h)
  | _ =>
    simp only [violations] at h
    exact hhere (atTop_here _ x h)
termination_by sizeOf v

end Schema

end PolicyEngine
