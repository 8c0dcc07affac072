import PolicyEngine.Proofs.Schema.Walk

/-! Which patterns the validator looks up. The table of a schema holds each of them, compiled, so a look-up never
compiles anything, and what is found in a document does not depend on the table. -/
namespace PolicyEngine

/-! The table -/

namespace PatternTable

theorem get?_add (table : PatternTable) (source other : String) :
    Fields.get? other (table.add source) =
      if source = other then some (table.compiled source) else Fields.get? other table := by
  unfold add
  by_cases h : source = other
  · subst h
    rw [if_pos rfl]
    cases hget : Fields.get? source table with
    | none => simp [Fields.contains, compiled, hget]
    | some result => simp [Fields.contains, compiled, hget]
  · rw [if_neg h]
    split
    · rfl
    · exact Fields.get?_insert_of_ne h _ table

theorem Sound.get?_foldl_add {table : PatternTable} (h : table.Sound) (sources : List String) (source : String) :
    Fields.get? source (sources.foldl PatternTable.add table) =
      if source ∈ sources then some (Pattern.compile source) else Fields.get? source table := by
  induction sources generalizing table with
  | nil => simp
  | cons first rest ih =>
    rw [List.foldl_cons, ih (h.add first), get?_add, h first]
    by_cases hrest : source ∈ rest
    · simp [hrest]
    · by_cases hfirst : first = source
      · subst hfirst
        simp
      · simp [hrest, hfirst, Ne.symm hfirst]

/-- The table of some sources holds these, each with what compiling gives, and nothing else. -/
theorem get?_ofSources (sources : List String) (source : String) :
    Fields.get? source (ofSources sources) = if source ∈ sources then some (Pattern.compile source) else none := by
  have hempty : Sound [] := fun _ => rfl
  exact hempty.get?_foldl_add sources source

end PatternTable

namespace Schema
open Violation (here)

/-! Sources -/

theorem sources_subset_itemSources {items : List Value} {item : Value} (h : item ∈ items) :
    patternSources item ⊆ itemSources items := by
  induction items with
  | nil => cases h
  | cons first rest ih =>
    rw [itemSources]
    rcases List.mem_cons.1 h with rfl | h
    · exact List.subset_append_left _ _
    · exact List.subset_append_of_subset_right _ (ih h)

theorem sources_subset_fieldSources {fields : List (String × Value)} {key : String} {value : Value}
    (h : (key, value) ∈ fields) : patternSources value ⊆ fieldSources fields := by
  induction fields with
  | nil => cases h
  | cons first rest ih =>
    obtain ⟨k, v⟩ := first
    rw [fieldSources]
    rcases List.mem_cons.1 h with heq | h
    · cases heq
      exact List.subset_append_left _ _
    · exact List.subset_append_of_subset_right _ (ih h)

theorem fieldSources_subset (fields : List (String × Value)) :
    fieldSources fields ⊆ patternSources (.object fields) := by
  unfold patternSources
  split
  · exact List.subset_cons_self _ _
  · exact List.Subset.refl _

theorem sources_of_get? {fields : List (String × Value)} {key : String} {value : Value}
    (h : Fields.get? key fields = some value) : patternSources value ⊆ patternSources (.object fields) :=
  List.Subset.trans (sources_subset_fieldSources (Fields.mem_of_get? h)) (fieldSources_subset fields)

theorem mem_sources_of_pattern {keywords : Keywords} {source : String}
    (h : keyword? keywords .pattern = some (.string source)) : source ∈ patternSources (.object keywords) := by
  have hget : Fields.get? Keyword.pattern.name keywords = some (.string source) := h
  rw [patternSources, hget]
  exact List.mem_cons_self

theorem sources_of_additionalRule {keywords : Keywords} {k : Keyword} {step step' : Step}
    {cause : Violation.Cause} {sub : Value}
    (h : additionalRule (keyword? keywords k) step cause = .check step' sub) :
    patternSources sub ⊆ patternSources (.object keywords) := by
  unfold additionalRule at h
  split at h
  · cases h
  · next hget =>
    cases h
    exact sources_of_get? hget
  · cases h

theorem sources_of_propertyRule {keywords : Keywords} {key : String} {step : Step} {sub : Value}
    (h : propertyRule keywords key = .check step sub) : patternSources sub ⊆ patternSources (.object keywords) := by
  unfold propertyRule at h
  split at h
  · next listed hlisted =>
    cases h
    obtain ⟨properties, hget, hfield⟩ := Option.bind_eq_some_iff.1 hlisted
    cases properties with
    | object fields => exact List.Subset.trans (sources_of_get? hfield) (sources_of_get? hget)
    | _ => cases hfield
  · exact sources_of_additionalRule h

theorem sources_of_itemRule {keywords : Keywords} {i : Nat} {step : Step} {sub : Value}
    (h : itemRule keywords i = .check step sub) : patternSources sub ⊆ patternSources (.object keywords) := by
  unfold itemRule at h
  split at h
  · next tuple htuple =>
    split at h
    · next listed hlisted =>
      cases h
      have hitem : patternSources sub ⊆ patternSources (.array tuple) := by
        rw [patternSources.eq_1]
        exact sources_subset_itemSources (List.mem_of_getElem? hlisted)
      exact List.Subset.trans hitem (sources_of_get? htuple)
    · exact sources_of_additionalRule h
  · next hsub =>
    cases h
    exact sources_of_get? hsub
  · next hsub =>
    cases h
    exact sources_of_get? hsub
  · cases h

/-- The schema that a part is checked against lies in the schema of its container. -/
theorem sources_of_mem_partsOf {keywords : Keywords} {v child sub : Value} {step : Step}
    (h : (.check step sub, child) ∈ partsOf keywords v) :
    patternSources sub ⊆ patternSources (.object keywords) := by
  unfold partsOf at h
  split at h
  · split at h
    · obtain ⟨p, -, heq⟩ := List.mem_map.1 h
      exact sources_of_propertyRule (Prod.mk.inj heq).1
    · cases h
  · split at h
    · obtain ⟨p, -, heq⟩ := List.mem_map.1 h
      exact sources_of_itemRule (Prod.mk.inj heq).1
    · cases h
  · cases h

/-! Walks with their look-ups -/

/-- A run of the validator with the sources of the patterns that it looks up on its way. -/
structure Walk where
  violations : List Violation
  consulted : List String

namespace Walk

/-- A stretch without a look-up. -/
def plain (violations : List Violation) : Walk := ⟨violations, []⟩

/-- The walk of a part, as its container sees it. -/
def under (step : Step) (w : Walk) : Walk := ⟨w.violations.map (·.under step), w.consulted⟩

instance : Append Walk := ⟨fun first later =>
  ⟨first.violations ++ later.violations, first.consulted ++ later.consulted⟩⟩

@[simp] theorem violations_plain (vs : List Violation) : (plain vs).violations = vs := rfl
@[simp] theorem consulted_plain (vs : List Violation) : (plain vs).consulted = [] := rfl
@[simp] theorem violations_under (step : Step) (w : Walk) :
    (w.under step).violations = w.violations.map (·.under step) := rfl
@[simp] theorem consulted_under (step : Step) (w : Walk) : (w.under step).consulted = w.consulted := rfl
@[simp] theorem violations_append (first later : Walk) :
    (first ++ later).violations = first.violations ++ later.violations := rfl
@[simp] theorem consulted_append (first later : Walk) :
    (first ++ later).consulted = first.consulted ++ later.consulted := rfl

/-- The keyword `pattern`: its source is looked up where a text is held to it. -/
def ofPattern (patterns : PatternTable) (pattern v : Value) : Walk :=
  match pattern, v with
  | .string source, .string text =>
    { consulted := [source]
      violations := match patterns.compiled source with
        | .error fault => [here (.invalidPattern source fault)]
        | .ok p => if p.isMatch text then [] else [here (.notMatched text source)] }
  | .string _, _ => plain []
  | _, _ => plain [here (.malformed .pattern pattern)]

def ofValue (patterns : PatternTable) (keywords : Keywords) (v : Value) : Walk :=
  plain (ofKeyword keywords .enum (enumViolations · v) ++ ofKeyword keywords .minimum (boundViolations .least · v) ++
      ofKeyword keywords .maximum (boundViolations .greatest · v)) ++
    ((keyword? keywords .pattern).map (ofPattern patterns · v)).getD (plain []) ++
    plain (ofKeyword keywords .format (formatViolations · v))

end Walk

mutual

/-- The validator, with a note of each pattern that it looks up. -/
def walk (patterns : PatternTable) (schema v : Value) : Walk :=
  match schema with
  | .bool true => .plain []
  | .bool false => .plain [here .refused]
  | .object keywords =>
    let ofParts : Walk := match v with
      | .object fields =>
        if admits keywords "object" then
          .plain (requiredViolations keywords fields ++ propertiesViolations keywords) ++
            walkFields patterns keywords fields
        else .plain []
      | .array items =>
        if admits keywords "array" then
          .plain (itemsViolations keywords) ++ walkItems patterns keywords 0 items ++
            .plain (sizeViolations keywords items.length)
        else .plain []
      | _ => .plain []
    .plain (ofKeyword keywords .type (typeViolations · v)) ++ ofParts ++ .ofValue patterns keywords v
  | other => .plain [here (.notASchema other)]

def walkFields (patterns : PatternTable) (keywords : Keywords) : List (String × Value) → Walk
  | [] => .plain []
  | (key, child) :: rest =>
    (match propertyRule keywords key with
      | .check step sub => (walk patterns sub child).under step
      | .refuse cause => .plain [here cause]
      | .permit => .plain []) ++ walkFields patterns keywords rest

def walkItems (patterns : PatternTable) (keywords : Keywords) (i : Nat) : List Value → Walk
  | [] => .plain []
  | child :: rest =>
    (match itemRule keywords i with
      | .check step sub => (walk patterns sub child).under step
      | .refuse cause => .plain [here cause]
      | .permit => .plain []) ++ walkItems patterns keywords (i + 1) rest

end

theorem violations_ofPattern (patterns : PatternTable) (pattern v : Value) :
    (Walk.ofPattern patterns pattern v).violations = patternViolations patterns pattern v := by
  cases pattern with
  | string source => cases v <;> rfl
  | _ => rfl

theorem violations_ofValue (patterns : PatternTable) (keywords : Keywords) (v : Value) :
    (Walk.ofValue patterns keywords v).violations = valueViolations patterns keywords v := by
  cases h : keyword? keywords .pattern with
  | none => simp [Walk.ofValue, valueViolations, ofKeyword, h]
  | some pattern => simp [Walk.ofValue, valueViolations, ofKeyword, h, violations_ofPattern]

mutual

/-- Taking note of the look-ups changes nothing in what is found. -/
theorem violations_walk (patterns : PatternTable) : ∀ (schema v : Value),
    (walk patterns schema v).violations = violations patterns schema v
  | schema, v => by
    cases schema with
    | object keywords =>
      cases v with
      | object fields =>
        simp only [walk, violations, Walk.violations_append, violations_ofValue]
        split
        · simp [violations_walkFields patterns keywords fields]
        · simp
      | array items =>
        simp only [walk, violations, Walk.violations_append, violations_ofValue]
        split
        · simp [violations_walkItems patterns keywords 0 items]
        · simp
      | _ => simp [walk, violations, violations_ofValue]
    | bool b => cases b <;> simp [walk]
    | _ => simp [walk, violations]

theorem violations_walkFields (patterns : PatternTable) (keywords : Keywords) : ∀ fields : List (String × Value),
    (walkFields patterns keywords fields).violations = fieldViolations patterns keywords fields
  | [] => by rw [walkFields, fieldViolations, Walk.violations_plain]
  | (key, child) :: rest => by
    rw [walkFields, fieldViolations, Walk.violations_append, violations_walkFields patterns keywords rest]
    cases propertyRule keywords key with
    | check step sub => simp [violations_walk patterns sub child]
    | _ => rfl

theorem violations_walkItems (patterns : PatternTable) (keywords : Keywords) (i : Nat) : ∀ items : List Value,
    (walkItems patterns keywords i items).violations = itemViolations patterns keywords i items
  | [] => by rw [walkItems, itemViolations, Walk.violations_plain]
  | child :: rest => by
    rw [walkItems, itemViolations, Walk.violations_append, violations_walkItems patterns keywords (i + 1) rest]
    cases itemRule keywords i with
    | check step sub => simp [violations_walk patterns sub child]
    | _ => rfl

end

/-! What is looked up -/

/-- What is looked up for a part: whatever its own walk looks up. -/
def partConsulted (patterns : PatternTable) (rule : PartRule) (child : Value) : List String :=
  match rule with
  | .check _ sub => (walk patterns sub child).consulted
  | _ => []

theorem consulted_walkFields (patterns : PatternTable) (keywords : Keywords) (fields : List (String × Value)) :
    (walkFields patterns keywords fields).consulted =
      fields.flatMap fun p => partConsulted patterns (propertyRule keywords p.1) p.2 := by
  induction fields with
  | nil => rw [walkFields]; rfl
  | cons entry rest ih =>
    obtain ⟨key, child⟩ := entry
    rw [walkFields, Walk.consulted_append, ih, List.flatMap_cons]
    cases propertyRule keywords key <;> rfl

theorem consulted_walkItems (patterns : PatternTable) (keywords : Keywords) (start : Nat) (items : List Value) :
    (walkItems patterns keywords start items).consulted =
      (items.zipIdx start).flatMap fun p => partConsulted patterns (itemRule keywords p.2) p.1 := by
  induction items generalizing start with
  | nil => rw [walkItems]; rfl
  | cons child rest ih =>
    rw [walkItems, Walk.consulted_append, ih, List.zipIdx_cons, List.flatMap_cons]
    cases itemRule keywords start <;> rfl

theorem consulted_walk_object (patterns : PatternTable) (keywords : Keywords) (v : Value) :
    (walk patterns (.object keywords) v).consulted =
      (partsOf keywords v).flatMap (fun p => partConsulted patterns p.1 p.2) ++
        (Walk.ofValue patterns keywords v).consulted := by
  cases v with
  | object fields =>
    simp only [walk, partsOf, Walk.consulted_append, Walk.consulted_plain, List.nil_append]
    split <;> simp [consulted_walkFields, List.flatMap_map]
  | array items =>
    simp only [walk, partsOf, Walk.consulted_append, Walk.consulted_plain, List.nil_append]
    split <;> simp [consulted_walkItems, List.flatMap_map]
  | _ => simp [walk, partsOf]

theorem mem_consulted_ofValue_iff {patterns : PatternTable} {keywords : Keywords} {v : Value} {source : String} :
    source ∈ (Walk.ofValue patterns keywords v).consulted ↔
      keyword? keywords .pattern = some (.string source) ∧ ∃ text, v = .string text := by
  simp only [Walk.ofValue, Walk.consulted_append, Walk.consulted_plain, List.nil_append, List.append_nil]
  cases hpattern : keyword? keywords .pattern with
  | none => simp
  | some pattern =>
    simp only [Option.map_some, Option.getD_some, Option.some.injEq]
    cases pattern with
    | string other =>
      cases v with
      | string text => simpa [Walk.ofPattern] using eq_comm
      | _ => simp [Walk.ofPattern]
    | _ => simp [Walk.ofPattern]

/-- By induction on the document: the schemas of the parts lie in the schema that is walked. -/
theorem consulted_subset_sources (patterns : PatternTable) (schema v : Value) :
    (walk patterns schema v).consulted ⊆ patternSources schema := by
  intro source hsource
  cases schema with
  | object keywords =>
    rw [consulted_walk_object] at hsource
    rcases List.mem_append.1 hsource with hsource | hsource
    · obtain ⟨⟨rule, child⟩, hpart, hmem⟩ := List.mem_flatMap.1 hsource
      cases rule with
      | check step sub =>
        have := (goesTo_of_mem_partsOf hpart).sizeOf_lt
        exact sources_of_mem_partsOf hpart (consulted_subset_sources patterns sub child hmem)
      | _ => cases hmem
    · exact mem_sources_of_pattern (mem_consulted_ofValue_iff.1 hsource).1
  | bool b => cases b <;> simp [walk] at hsource
  | _ => simp [walk] at hsource
termination_by sizeOf v

-- A property named `pattern` is a part with a schema of its own, not the keyword.
example : (walk [] (.object [("properties", .object [("pattern", .object [("pattern", .string "^a")])])])
    (.object [("id", .string "b"), ("pattern", .string "c")])).consulted = ["^a"] := by cbv

theorem valueViolations_congr_table {patterns others : PatternTable} {keywords : Keywords} {v : Value}
    (h : ∀ source ∈ (Walk.ofValue patterns keywords v).consulted,
      patterns.compiled source = others.compiled source) :
    valueViolations patterns keywords v = valueViolations others keywords v := by
  have hpattern : ofKeyword keywords .pattern (patternViolations patterns · v) =
      ofKeyword keywords .pattern (patternViolations others · v) := by
    unfold ofKeyword
    cases hraw : keyword? keywords .pattern with
    | none => rfl
    | some raw =>
      simp only [Option.map_some, Option.getD_some]
      cases raw with
      | string source =>
        cases v with
        | string text =>
          have hsame := h source (mem_consulted_ofValue_iff.2 ⟨hraw, text, rfl⟩)
          simp only [patternViolations, hsame]
        | _ => rfl
      | _ => rfl
  simp only [valueViolations, hpattern]

/-- A walk depends on the table only in what it looks up. -/
theorem violations_congr_table {patterns others : PatternTable} {schema v : Value}
    (h : ∀ source ∈ (walk patterns schema v).consulted, patterns.compiled source = others.compiled source) :
    violations patterns schema v = violations others schema v := by
  cases schema with
  | object keywords =>
    rw [consulted_walk_object] at h
    have hvalue := valueViolations_congr_table fun source hmem => h source (List.mem_append_right _ hmem)
    have hparts : (partsOf keywords v).flatMap (fun p => partViolations patterns p.1 p.2) =
        (partsOf keywords v).flatMap fun p => partViolations others p.1 p.2 := by
      refine List.flatMap_congr fun p hpart => ?_
      obtain ⟨rule, child⟩ := p
      cases rule with
      | check step sub =>
        have := (goesTo_of_mem_partsOf hpart).sizeOf_lt
        have hsub : violations patterns sub child = violations others sub child :=
          violations_congr_table fun source hmem =>
            h source (List.mem_append_left _ (List.mem_flatMap.2 ⟨_, hpart, hmem⟩))
        simp only [partViolations, hsub]
      | _ => rfl
    simp only [violations_object, hparts, closing, hvalue]
  | bool b => cases b <;> simp
  | _ => simp [violations]
termination_by sizeOf v

/-- The table of a schema holds every pattern that is looked up, compiled. -/
theorem get?_patterns_of_consulted (s : Schema) {doc : Value} {source : String}
    (h : source ∈ (walk s.patterns s.root doc).consulted) :
    Fields.get? source s.patterns = some (Pattern.compile source) := by
  rw [s.patterns_eq, PatternTable.get?_ofSources, if_pos (consulted_subset_sources s.patterns s.root doc h)]

theorem validate_eq_violations (s : Schema) (doc : Value) : s.validate doc = violations [] s.root doc := by
  refine violations_congr_table fun source h => ?_
  simp [PatternTable.compiled, get?_patterns_of_consulted s h]

/-- In every run the table answers each look-up with what compiling gives, and nothing is found that a run without a
table would not find. -/
theorem validate_looks_up_compiled (s : Schema) (doc : Value) :
    (walk s.patterns s.root doc).violations = s.validate doc ∧
    (∀ source ∈ (walk s.patterns s.root doc).consulted,
      Fields.get? source s.patterns = some (Pattern.compile source)) ∧
    s.validate doc = violations [] s.root doc :=
  ⟨violations_walk s.patterns s.root doc, fun _ h => get?_patterns_of_consulted s h, validate_eq_violations s doc⟩

end Schema

end PolicyEngine
