import PolicyEngine.Proofs.Document.Ordered
import PolicyEngine.Proofs.Schema.Lookup
import PolicyEngine.Proofs.Schema.Place
import PolicyEngine.Proofs.Schema.Reports

/-! What is reported of a container is what its keywords report of the container itself, with what is reported of its
parts in between: each part as if it were a document of its own, under the step that goes to it. -/
namespace PolicyEngine

/-- A report on a part, told of its container: the text of the step is put in front of the path. -/
def Report.under (segment : String) (r : Report) : Report :=
  ⟨if r.path.isEmpty then segment else segment ++ "." ++ r.path, r.message⟩

/-- Steps that are seen in the text of a place. -/
theorem Step.Leads.render_ne_empty {v : Value} {place : List Step} (h : Leads v place) (hnames : "" ∉ v.keys) :
    ∀ s ∈ place, s.render ≠ "" := by
  intro s hs hempty
  have hblank : s = .property "" := Step.render_eq_empty_iff.1 hempty
  subst hblank
  exact hnames (h.key_mem hs)

theorem Violation.report_under {step : Step} {v : Violation} (hstep : step.render ≠ "")
    (hplace : ∀ s ∈ v.place, s.render ≠ "") : (v.under step).report = v.report.under step.render := by
  simp only [Violation.report, Report.under, Violation.path, Violation.place_under, Step.renderPlace_cons hstep hplace]
  rfl

namespace Schema
open Violation (here)

/-- All that is reported of a document under a schema. -/
def reports (schema v : Value) : List Report := ((load schema).validate v).map Violation.report

theorem reports_eq (schema v : Value) : reports schema v = (violations [] schema v).map Violation.report := by
  rw [reports, validate_eq_violations]
  rfl

/-! The reports of parts -/

theorem map_report_check {step : Step} {sub child : Value} (hstep : step.render ≠ "") (hnames : "" ∉ child.keys) :
    (partViolations [] (.check step sub) child).map Violation.report =
      (reports sub child).map (·.under step.render) := by
  rw [reports_eq, partViolations, List.map_map, List.map_map]
  refine List.map_congr_left fun x hx => ?_
  exact Violation.report_under hstep ((leads_of_mem_violations hx).render_ne_empty hnames)

/-- What is reported of a part that is not listed: by the schema for all other parts, or that there may be none. -/
def additionalReports (additional : Option Value) (segment refusal : String) (child : Value) : List Report :=
  match additional with
  | some (.object sub) => (reports (.object sub) child).map (·.under segment)
  | some (.bool false) => [⟨"", refusal⟩]
  | _ => []

/-- What is reported of the value under a key: a listed schema comes first, then the one for all other keys. -/
def propertyReports (keywords : Keywords) (key : String) (child : Value) : List Report :=
  match listed? keywords key with
  | some sub => (reports sub child).map (·.under key)
  | none =>
    additionalReports (keyword? keywords .additionalProperties) key s!"additional property '{key}' is not allowed" child

/-- What is reported of an item: by one schema for all items, or by the schema listed for it, then by the one for the
items that the list leaves over. -/
def itemReports (keywords : Keywords) (i : Nat) (child : Value) : List Report :=
  match keyword? keywords .items with
  | some (.array subs) =>
    match subs[i]? with
    | some sub => (reports sub child).map (·.under s!"items[{i}]")
    | none =>
      additionalReports (keyword? keywords .additionalItems) s!"additionalItems[{i}]"
        s!"additional item at index {i} is not allowed" child
  | some (.object sub) => (reports (.object sub) child).map (·.under s!"items[{i}]")
  | some (.bool b) => (reports (.bool b) child).map (·.under s!"items[{i}]")
  | _ => []

theorem map_report_additional {step : Step} {child : Value} (hstep : step.render ≠ "") (hnames : "" ∉ child.keys)
    (additional : Option Value) (cause : Violation.Cause) :
    (partViolations [] (additionalRule additional step cause) child).map Violation.report =
      additionalReports additional step.render cause.message child := by
  cases additional with
  | none => rfl
  | some additional =>
    cases additional with
    | object sub => exact map_report_check hstep hnames
    | bool b => cases b <;> rfl
    | _ => rfl

theorem map_report_property {key : String} {child : Value} (hkey : key ≠ "") (hnames : "" ∉ child.keys)
    (keywords : Keywords) :
    (partViolations [] (propertyRule keywords key) child).map Violation.report =
      propertyReports keywords key child := by
  have hstep : (Step.property key).render ≠ "" := hkey
  unfold propertyReports propertyRule listed?
  cases (keyword? keywords .properties).bind fun properties => properties.field? key with
  | some sub => exact map_report_check hstep hnames
  | none => exact map_report_additional hstep hnames _ _

theorem map_report_item {child : Value} (hnames : "" ∉ child.keys) (keywords : Keywords) (i : Nat) :
    (partViolations [] (itemRule keywords i) child).map Violation.report = itemReports keywords i child := by
  have hitem : (Step.item i).render ≠ "" := by simp
  have hadditional : (Step.additionalItem i).render ≠ "" := by simp
  unfold itemReports itemRule
  cases keyword? keywords .items with
  | none => rfl
  | some raw =>
    cases raw with
    | array subs =>
      cases hsub : subs[i]? with
      | some sub =>
        simp only [hsub]
        exact map_report_check hitem hnames
      | none =>
        simp only [hsub]
        exact map_report_additional hadditional hnames _ _
    | object sub => exact map_report_check hitem hnames
    | bool b => exact map_report_check hitem hnames
    | _ => rfl

/-- The reports on a container, in their order: the keywords on the container itself, part by part what is reported of
the part alone, and the other keywords on the container itself. -/
theorem reports_compose (keywords : Keywords) {v : Value} (hnames : "" ∉ v.keys) :
    (∀ fields, v = .object fields → AdmitsKind keywords "object" →
      (v.Ordered → Fields.Ascending fields) ∧
      reports (.object keywords) v =
        typeReports keywords v ++ requiredReports keywords (fields.map Prod.fst) ++ propertiesReports keywords ++
        fields.flatMap (fun p => propertyReports keywords p.1 p.2) ++
        valueReports keywords v) ∧
    ∀ items, v = .array items → AdmitsKind keywords "array" →
      reports (.object keywords) v =
        typeReports keywords v ++ itemsReports keywords ++
        items.zipIdx.flatMap (fun p => itemReports keywords p.2 p.1) ++
        sizeReports keywords items.length ++
        valueReports keywords v := by
  constructor
  · rintro fields rfl hkind
    have hadmits := admits_eq_true_iff.2 hkind
    have hparts : (partsOf keywords (.object fields)).flatMap (fun p => partViolations [] p.1 p.2) =
        fields.flatMap fun p => partViolations [] (propertyRule keywords p.1) p.2 := by
      simp [partsOf, hadmits, List.flatMap_map]
    have hreports : (fields.flatMap fun p => partViolations [] (propertyRule keywords p.1) p.2).map Violation.report =
        fields.flatMap fun p => propertyReports keywords p.1 p.2 := by
      rw [List.map_flatMap]
      refine List.flatMap_congr fun p hp => map_report_property ?_ ?_ keywords
      · rintro hempty
        exact hnames (hempty ▸ (Value.keys_subset_fieldKeys hp).1)
      · exact fun hmem => hnames ((Value.keys_subset_fieldKeys hp).2 hmem)
    refine ⟨fun hv => hv.fields.1, ?_⟩
    rw [reports_eq, violations_object, hparts, List.map_append, List.map_append, hreports]
    simp only [opening, closing, hadmits, if_true, List.map_append, List.nil_append, map_report_type,
      map_report_required, map_report_properties, map_report_value, List.append_assoc]
  · rintro items rfl hkind
    have hadmits := admits_eq_true_iff.2 hkind
    have hparts : (partsOf keywords (.array items)).flatMap (fun p => partViolations [] p.1 p.2) =
        items.zipIdx.flatMap fun p => partViolations [] (itemRule keywords p.2) p.1 := by
      simp [partsOf, hadmits, List.flatMap_map]
    have hreports : (items.zipIdx.flatMap fun p => partViolations [] (itemRule keywords p.2) p.1).map Violation.report =
        items.zipIdx.flatMap fun p => itemReports keywords p.2 p.1 := by
      rw [List.map_flatMap]
      refine List.flatMap_congr fun p hp => map_report_item ?_ keywords p.2
      have hitem : p.1 ∈ items := List.mem_of_getElem? (List.mk_mem_zipIdx_iff_getElem?.1 hp)
      exact fun hmem => hnames (Value.keys_subset_itemKeys hitem hmem)
    rw [reports_eq, violations_object, hparts, List.map_append, List.map_append, hreports]
    simp only [opening, closing, hadmits, if_true, List.map_append, map_report_type, map_report_items,
      map_report_size, map_report_value, List.append_assoc]

/-- An order that breaks or is given each keyword on it: a number is missing, its identifier is no text, the tags break
the schemas for their places, and a key is not allowed. -/
theorem reports_compose_order :
    let code := Value.object [("format", .string "date-time"), ("pattern", .string "^A"), ("type", .string "string")]
    let count := Value.object [("maximum", .number 9), ("minimum", .number 1)]
    let tagKeywords : Keywords := [("additionalItems", count), ("enum", .array []), ("items", .array [code]),
      ("minItems", .string "4")]
    let keywords : Keywords := [("additionalProperties", .bool false), ("enum", .array [.null]), ("format", .null),
      ("maximum", .number 2), ("minimum", .string "0"), ("pattern", .bool true),
      ("properties", .object [("id", code), ("tags", .object tagKeywords)]),
      ("required", .array [.string "no", .number 1]), ("type", .array [.string "object", .string "null"])]
    let items := [Value.string "Bc", .number 0, .number 10]
    let fields := [("id", .bool true), ("tags", .array items), ("x", .null)]
    "" ∉ (Value.object fields).keys ∧ AdmitsKind keywords "object" ∧ AdmitsKind tagKeywords "array" ∧
      reports (.object tagKeywords) (.array items) =
        [⟨"items[0]", "string 'Bc' does not match pattern '^A'"⟩,
          ⟨"items[0]", "invalid date-time 'Bc': no such date and time"⟩,
          ⟨"additionalItems[1]", "value 0 is less than minimum 1"⟩,
          ⟨"additionalItems[2]", "value 10 is greater than maximum 9"⟩,
          ⟨"", "array has 3 items, fewer than minItems (4)"⟩,
          ⟨"", "value '[\"Bc\",0,10]' is not one of the allowed values []"⟩] ∧
      reports (.object keywords) (.object fields) =
        [⟨"", "required property 'no' is missing"⟩, ⟨"", "invalid entry 1 in 'required'"⟩] ++
        [⟨"id", "expected string, found boolean"⟩] ++
        (reports (.object tagKeywords) (.array items)).map (·.under "tags") ++
        [⟨"", "additional property 'x' is not allowed"⟩] ++
        [⟨"", "value '\x7b\"id\":true,\"tags\":[\"Bc\",0,10],\"x\":null\x7d' is not one of the allowed values [null]"⟩,
          ⟨"", "invalid 'minimum' in schema: 0"⟩,
          ⟨"", "value '\x7b\"id\":true,\"tags\":[\"Bc\",0,10],\"x\":null\x7d' is not numeric (maximum)"⟩,
          ⟨"", "invalid 'pattern' in schema: true"⟩, ⟨"", "invalid 'format' in schema: null"⟩] := by
  intro code count tagKeywords keywords items fields
  have hnames : "" ∉ (Value.object fields).keys := by decide
  have hitemNames : "" ∉ (Value.array items).keys := by decide
  have hkind : AdmitsKind keywords "object" := admits_eq_true_iff.1 (by decide)
  have hitemKind : AdmitsKind tagKeywords "array" := admits_eq_true_iff.1 (by decide)
  obtain ⟨-, hreports⟩ := (reports_compose keywords hnames).1 fields rfl hkind
  have hitems := (reports_compose tagKeywords hitemNames).2 items rfl hitemKind
  exact ⟨hnames, hkind, hitemKind, hitems.trans (by decide +kernel), hreports.trans (by decide +kernel)⟩

end Schema

end PolicyEngine
