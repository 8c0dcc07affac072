import PolicyEngine.Proofs.Schema.Decision

/-! What the keywords of a schema report of a value itself, written out keyword by keyword: when there is a report,
how often, and in which words. -/
namespace PolicyEngine

/-- What is told of a violation. -/
structure Report where
  path : String
  message : String
  deriving Repr, DecidableEq

def Violation.report (v : Violation) : Report := ⟨v.path, v.message⟩

namespace Schema
open Violation (here)

/-! Types -/

/-- The type test answers for the names of types alone, and tells whether a value has the type. -/
theorem hasType?_eq_ite (name : String) (v : Value) [Decidable (HasType name v)] :
    hasType? v name = if name ∈ typeNames then some (decide (HasType name v)) else none := by
  by_cases hname : name ∈ typeNames
  · have hsome : (hasType? v name).isSome := by
      simp only [typeNames, List.mem_cons, List.not_mem_nil, or_false] at hname
      rcases hname with rfl | rfl | rfl | rfl | rfl | rfl | rfl <;> cases v <;> rfl
    obtain ⟨b, hb⟩ := Option.isSome_iff_exists.1 hsome
    have hiff := hasType?_eq_true_iff hname v
    rw [hb, Option.some.injEq] at hiff
    rw [if_pos hname, hb, Option.some.injEq, Bool.eq_iff_iff, hiff, decide_eq_true_iff]
  · rw [if_neg hname]
    simp only [typeNames, List.mem_cons, List.not_mem_nil, or_false, not_or] at hname
    simp [hasType?, hname]

theorem HasType.mem_typeNames {name : String} {v : Value} (h : HasType name v) : name ∈ typeNames := by
  cases h <;> decide

instance (name : String) (v : Value) : Decidable (HasType name v) :=
  decidable_of_iff (name ∈ typeNames ∧ hasType? v name = some true)
    ⟨fun h => (hasType?_eq_true_iff h.1 v).1 h.2,
      fun h => ⟨h.mem_typeNames, (hasType?_eq_true_iff h.mem_typeNames v).2 h⟩⟩

/-- What is reported of a keyword whose value has none of the shapes that it may have. -/
def malformed (k : Keyword) (raw : Value) : Report := ⟨"", s!"invalid '{k.name}' in schema: {raw.display}"⟩

/-- A value has the type that is named, or one of those that are listed. -/
def typeReports (keywords : Keywords) (v : Value) : List Report :=
  match keyword? keywords .type with
  | none => []
  | some (.string name) =>
    if name ∉ typeNames then [⟨"", s!"unknown type '{name}' in schema"⟩]
    else if HasType name v then [] else [⟨"", s!"expected {name}, found {v.kind}"⟩]
  | some (.array items) =>
    let names := items.filterMap Value.string?
    if ∃ item ∈ items, item.string? = none then [malformed .type (.array items)]
    else if ∃ name ∈ names, HasType name v then []
    else [⟨"", "expected one of [" ++ ", ".intercalate names ++ s!"], found {v.kind}"⟩]
  | some raw => [malformed .type raw]

theorem texts?_eq_ite (items : List Value) :
    texts? items = if ∃ item ∈ items, item.string? = none then none else some (items.filterMap Value.string?) := by
  induction items with
  | nil => rfl
  | cons item rest ih =>
    rw [texts?] at ih ⊢
    rw [List.mapM_cons, ih]
    cases hitem : item.string? with
    | none => simp [hitem]
    | some name => split <;> simp_all

theorem map_report_type (keywords : Keywords) (v : Value) :
    (ofKeyword keywords .type (typeViolations · v)).map Violation.report = typeReports keywords v := by
  unfold ofKeyword typeReports
  cases keyword? keywords .type with
  | none => rfl
  | some raw =>
    cases raw with
    | string name =>
      simp only [Option.map_some, Option.getD_some, typeViolations, hasType?_eq_ite]
      by_cases hname : name ∈ typeNames
      · rw [if_pos hname, if_neg (not_not.2 hname)]
        by_cases htype : HasType name v
        · rw [if_pos htype, decide_eq_true htype]
          rfl
        · rw [if_neg htype, decide_eq_false htype]
          rfl
      · rw [if_neg hname, if_pos hname]
        rfl
    | array items =>
      have hany : ∀ names : List String, (names.any fun name => hasType? v name == some true) = true ↔
          ∃ name ∈ names, HasType name v := by
        intro names
        simp only [List.any_eq_true, beq_iff_eq, hasType?_eq_ite]
        refine exists_congr fun name => and_congr_right fun _ => ?_
        constructor
        · intro h
          split at h
          · exact of_decide_eq_true (Option.some.inj h)
          · cases h
        · intro h
          simp [h, h.mem_typeNames]
      simp only [Option.map_some, Option.getD_some, typeViolations, texts?_eq_ite]
      by_cases hitems : ∃ item ∈ items, item.string? = none
      · rw [if_pos hitems, if_pos hitems]
        rfl
      · rw [if_neg hitems, if_neg hitems]
        dsimp only
        by_cases htype : ∃ name ∈ items.filterMap Value.string?, HasType name v
        · rw [if_pos htype, if_pos ((hany _).2 htype)]
          rfl
        · rw [if_neg htype, if_neg (mt (hany _).1 htype)]
          rfl
    | _ => rfl

/-! Containers -/

/-- The keyword `type` names a kind of containers, alone or among others, or is not given. -/
def AdmitsKind (keywords : Keywords) (kind : String) : Prop :=
  ∀ raw, keyword? keywords .type = some raw →
    raw = .string kind ∨ ∃ items, raw = .array items ∧ .string kind ∈ items

theorem admits_eq_true_iff {keywords : Keywords} {kind : String} :
    admits keywords kind = true ↔ AdmitsKind keywords kind := by
  unfold admits AdmitsKind
  cases keyword? keywords .type with
  | none => simp
  | some raw =>
    cases raw with
    | array items =>
      have hstring : ∀ item : Value, item.string? = some kind ↔ item = .string kind := by
        intro item
        cases item <;> simp [Value.string?]
      simp [hstring]
    | _ => simp

/-- Each key of the list is there. -/
def requiredReports (keywords : Keywords) (keys : List String) : List Report :=
  match keyword? keywords .required with
  | none => []
  | some (.array entries) => entries.flatMap fun entry =>
      match entry with
      | .string key => if key ∈ keys then [] else [⟨"", s!"required property '{key}' is missing"⟩]
      | _ => [⟨"", s!"invalid entry {entry.display} in 'required'"⟩]
  | some raw => [malformed .required raw]

theorem map_report_required (keywords : Keywords) (fields : List (String × Value)) :
    (requiredViolations keywords fields).map Violation.report =
      requiredReports keywords (fields.map Prod.fst) := by
  unfold requiredViolations requiredReports
  cases keyword? keywords .required with
  | none => rfl
  | some raw =>
    cases raw with
    | array entries =>
      have hkey : ∀ key, Fields.contains key fields = true ↔ key ∈ fields.map Prod.fst := by
        intro key
        rw [Fields.contains_iff_mem, List.mem_map]
        constructor
        · rintro ⟨child, hmem⟩
          exact ⟨_, hmem, rfl⟩
        · rintro ⟨⟨_, child⟩, hmem, rfl⟩
          exact ⟨child, hmem⟩
      dsimp only
      rw [List.filterMap_eq_flatMap_toList, List.map_flatMap]
      refine List.flatMap_congr fun entry _ => ?_
      cases entry with
      | string key =>
        simp only [hkey]
        split <;> rfl
      | _ => rfl
    | _ => rfl

/-- The value of `properties` is an object. -/
def propertiesReports (keywords : Keywords) : List Report :=
  match keyword? keywords .properties with
  | none | some (.object _) => []
  | some raw => [malformed .properties raw]

theorem map_report_properties (keywords : Keywords) :
    (propertiesViolations keywords).map Violation.report = propertiesReports keywords := by
  unfold propertiesViolations propertiesReports
  cases keyword? keywords .properties with
  | none => rfl
  | some raw => cases raw <;> rfl

/-- The value of `items` is a schema, or a list of some. -/
def itemsReports (keywords : Keywords) : List Report :=
  match keyword? keywords .items with
  | none | some (.array _) | some (.object _) | some (.bool _) => []
  | some raw => [malformed .items raw]

theorem map_report_items (keywords : Keywords) :
    (itemsViolations keywords).map Violation.report = itemsReports keywords := by
  unfold itemsViolations itemsReports
  cases keyword? keywords .items with
  | none => rfl
  | some raw => cases raw <;> rfl

/-- A count is kept to. -/
def countReports (keywords : Keywords) (k : Keyword) (breaks : Nat → Prop) [DecidablePred breaks]
    (message : Nat → String) : List Report :=
  match keyword? keywords k with
  | none => []
  | some raw =>
    match itemCount? raw with
    | none => [malformed k raw]
    | some count => if breaks count then [⟨"", message count⟩] else []

/-- There are no fewer items than `minItems`, and no more than `maxItems`. -/
def sizeReports (keywords : Keywords) (size : Nat) : List Report :=
  countReports keywords .minItems (fun least => size < least)
      (fun least => s!"array has {size} items, fewer than minItems ({least})") ++
    countReports keywords .maxItems (fun most => most < size)
      fun most => s!"array has {size} items, more than maxItems ({most})"

theorem map_report_count (keywords : Keywords) (k : Keyword) {breaks : Nat → Prop} [DecidablePred breaks]
    (cause : Nat → Violation.Cause) :
    (countViolations keywords k fun count => if breaks count then some (cause count) else none).map
        Violation.report =
      countReports keywords k breaks fun count => (cause count).message := by
  unfold countViolations countReports
  cases keyword? keywords k with
  | none => rfl
  | some raw =>
    cases hcount : itemCount? raw with
    | none =>
      simp only [hcount]
      rfl
    | some count =>
      simp only [hcount]
      split <;> rfl

theorem map_report_size (keywords : Keywords) (size : Nat) :
    (sizeViolations keywords size).map Violation.report = sizeReports keywords size := by
  rw [sizeViolations, List.map_append, map_report_count, map_report_count]
  rfl

/-! Values of every kind -/

/-- The value is one of the options. -/
def enumReports (keywords : Keywords) (v : Value) : List Report :=
  match keyword? keywords .enum with
  | none => []
  | some (.array options) =>
    if ∃ option ∈ options, (option == v) = true then []
    else [⟨"", s!"value '{v.display}' is not one of the allowed values {(Value.array options).display}"⟩]
  | some raw => [malformed .enum raw]

/-- The value is a number, and the bound is not broken. -/
def boundReports (keywords : Keywords) (k : Keyword) (relation : String) (breaks : Float → Float → Prop)
    [∀ x limit, Decidable (breaks x limit)] (v : Value) : List Report :=
  match keyword? keywords k, v with
  | none, _ => []
  | some (.number limit), .number x =>
    if breaks x limit then
      [⟨"", "value " ++ Number.display x ++ s!" is {relation} {k.name} " ++ Number.display limit⟩]
    else []
  | some (.number _), _ => [⟨"", s!"value '{v.display}' is not numeric ({k.name})"⟩]
  | some raw, _ => [malformed k raw]

/-- Texts match the pattern. -/
def patternReports (keywords : Keywords) (v : Value) : List Report :=
  match keyword? keywords .pattern, v with
  | none, _ => []
  | some (.string source), .string text =>
    match Pattern.compile source with
    | .error fault => [⟨"", s!"invalid pattern '{source}' in schema: {fault.message}"⟩]
    | .ok p => if p.isMatch text then [] else [⟨"", s!"string '{text}' does not match pattern '{source}'"⟩]
  | some (.string _), _ => []
  | some raw, _ => [malformed .pattern raw]

/-- Texts are dates with times where the format is `date-time`. -/
def formatReports (keywords : Keywords) (v : Value) : List Report :=
  match keyword? keywords .format, v with
  | none, _ => []
  | some (.string name), .string text =>
    if name = "date-time" ∧ DateTime.ofText? text = none then
      [⟨"", s!"invalid date-time '{text}': no such date and time"⟩]
    else []
  | some (.string _), _ => []
  | some raw, _ => [malformed .format raw]

/-- The reports of the keywords on values of every kind, in the order of the keywords. -/
def valueReports (keywords : Keywords) (v : Value) : List Report :=
  enumReports keywords v ++ boundReports keywords .minimum "less than" (fun x limit => x < limit) v ++
    boundReports keywords .maximum "greater than" (fun x limit => limit < x) v ++
    patternReports keywords v ++ formatReports keywords v

theorem map_report_enum (keywords : Keywords) (v : Value) :
    (ofKeyword keywords .enum (enumViolations · v)).map Violation.report = enumReports keywords v := by
  unfold ofKeyword enumReports
  cases keyword? keywords .enum with
  | none => rfl
  | some raw =>
    cases raw with
    | array options =>
      simp only [Option.map_some, Option.getD_some, enumViolations, List.any_eq_true]
      split <;> rfl
    | _ => rfl

theorem map_report_bound (keywords : Keywords) (bound : Bound) {breaks : Float → Float → Prop}
    [∀ x limit, Decidable (breaks x limit)] (hbreaks : ∀ x limit, bound.isBroken x limit = true ↔ breaks x limit)
    (v : Value) :
    (ofKeyword keywords bound.keyword (boundViolations bound · v)).map Violation.report =
      boundReports keywords bound.keyword bound.relation breaks v := by
  unfold ofKeyword boundReports
  cases keyword? keywords bound.keyword with
  | none => rfl
  | some raw =>
    cases raw with
    | number limit =>
      cases v with
      | number x =>
        simp only [Option.map_some, Option.getD_some, boundViolations, hbreaks]
        split <;> rfl
      | _ => rfl
    | _ => cases v <;> rfl

theorem map_report_pattern (keywords : Keywords) (v : Value) :
    (ofKeyword keywords .pattern (patternViolations [] · v)).map Violation.report = patternReports keywords v := by
  unfold ofKeyword patternReports
  cases keyword? keywords .pattern with
  | none => rfl
  | some raw =>
    cases raw with
    | string source =>
      cases v with
      | string text =>
        have hcompiled : PatternTable.compiled [] source = Pattern.compile source := rfl
        simp only [Option.map_some, Option.getD_some, patternViolations, hcompiled]
        cases Pattern.compile source with
        | error fault => rfl
        | ok p =>
          dsimp only
          split <;> rfl
      | _ => rfl
    | _ => cases v <;> rfl

theorem map_report_format (keywords : Keywords) (v : Value) :
    (ofKeyword keywords .format (formatViolations · v)).map Violation.report = formatReports keywords v := by
  unfold ofKeyword formatReports
  cases keyword? keywords .format with
  | none => rfl
  | some raw =>
    cases raw with
    | string name =>
      cases v with
      | string text =>
        simp only [Option.map_some, Option.getD_some, formatViolations, Bool.and_eq_true, decide_eq_true_eq,
          Option.isNone_iff_eq_none]
        split <;> rfl
      | _ => rfl
    | _ => cases v <;> rfl

theorem map_report_value (keywords : Keywords) (v : Value) :
    (valueViolations [] keywords v).map Violation.report = valueReports keywords v := by
  have hleast : (ofKeyword keywords .minimum (boundViolations .least · v)).map Violation.report =
      boundReports keywords .minimum "less than" (fun x limit => x < limit) v :=
    map_report_bound keywords .least (by simp [Bound.isBroken]) v
  have hgreatest : (ofKeyword keywords .maximum (boundViolations .greatest · v)).map Violation.report =
      boundReports keywords .maximum "greater than" (fun x limit => limit < x) v :=
    map_report_bound keywords .greatest (by simp [Bound.isBroken]) v
  rw [valueViolations, valueReports, List.map_append, List.map_append, List.map_append, List.map_append,
    map_report_enum, hleast, hgreatest, map_report_pattern, map_report_format]

end Schema

end PolicyEngine
