import PolicyEngine.Schema.Validation

/-! What a schema says, apart from how it is checked: which schemas are well formed, and which documents
satisfy one. Neither looks at violations or at compiled patterns. -/
namespace PolicyEngine.Schema

/-- The names that the keyword `type` may list. -/
def typeNames : List String := ["string", "number", "integer", "boolean", "object", "array", "null"]

/-- A finite number without a fraction. -/
def Whole (x : Float) : Prop :=
  ∃ parts, Number.view x = .finite parts ∧ parts.denominator ∣ parts.numerator

inductive HasType : String → Value → Prop
  | null : HasType "null" .null
  | boolean (b : Bool) : HasType "boolean" (.bool b)
  | number (x : Float) : HasType "number" (.number x)
  | integer {x : Float} (whole : Whole x) : HasType "integer" (.number x)
  | string (s : String) : HasType "string" (.string s)
  | array (items : List Value) : HasType "array" (.array items)
  | object (fields : List (String × Value)) : HasType "object" (.object fields)

/-- A number that is this count. -/
def CountIs (raw : Value) (n : Nat) : Prop := ∃ x, raw = .number x ∧ Number.toInt? x = some (n : Int)

/-- Counts in well-formed schemas stay below this number. -/
def countBound : Nat := Nat.pow 2 53

/-- The shapes that the values of keywords have, parts that are schemas themselves left aside. -/
structure Shaped (keywords : Keywords) : Prop where
  type : ∀ raw, keyword? keywords .type = some raw →
    (∃ name ∈ typeNames, raw = .string name) ∨
      ∃ names : List String, (∀ name ∈ names, name ∈ typeNames) ∧ raw = .array (names.map .string)
  required : ∀ raw, keyword? keywords .required = some raw →
    ∃ keys : List String, raw = .array (keys.map .string)
  properties : ∀ raw, keyword? keywords .properties = some raw → ∃ fields, raw = .object fields
  minItems : ∀ raw, keyword? keywords .minItems = some raw → ∃ n < countBound, CountIs raw n
  maxItems : ∀ raw, keyword? keywords .maxItems = some raw → ∃ n < countBound, CountIs raw n
  enum : ∀ raw, keyword? keywords .enum = some raw → ∃ options, raw = .array options
  minimum : ∀ raw, keyword? keywords .minimum = some raw → ∃ limit, raw = .number limit
  maximum : ∀ raw, keyword? keywords .maximum = some raw → ∃ limit, raw = .number limit
  pattern : ∀ raw, keyword? keywords .pattern = some raw →
    ∃ source p, raw = .string source ∧ Pattern.compile source = .ok p
  format : ∀ raw, keyword? keywords .format = some raw → ∃ name, raw = .string name

/-- A boolean, or an object whose keywords have their shapes, down through all parts that are schemas. -/
inductive WellFormed : Value → Prop
  | bool (b : Bool) : WellFormed (.bool b)
  | object {keywords : Keywords} (shaped : Shaped keywords)
      (property : ∀ fields, keyword? keywords .properties = some (.object fields) →
        ∀ key sub, Fields.get? key fields = some sub → WellFormed sub)
      (additionalProperties : ∀ sub, keyword? keywords .additionalProperties = some sub → WellFormed sub)
      (items : ∀ sub, keyword? keywords .items = some sub → sub.array? = none → WellFormed sub)
      (tuple : ∀ subs, keyword? keywords .items = some (.array subs) → ∀ sub ∈ subs, WellFormed sub)
      (additionalItems : ∀ sub, keyword? keywords .additionalItems = some sub → WellFormed sub) :
      WellFormed (.object keywords)

/-- The schema that `properties` lists under a key. -/
def listed? (keywords : Keywords) (key : String) : Option Value :=
  (keyword? keywords .properties).bind fun properties => properties.field? key

/-- What keywords ask of a value itself, its parts left aside. -/
structure Meets (keywords : Keywords) (v : Value) : Prop where
  type : ∀ name, keyword? keywords .type = some (.string name) → HasType name v
  types : ∀ names, keyword? keywords .type = some (.array names) →
    ∃ name, .string name ∈ names ∧ HasType name v
  required : ∀ fields, v = .object fields → ∀ keys, keyword? keywords .required = some (.array keys) →
    ∀ key, .string key ∈ keys → ∃ child, (key, child) ∈ fields
  minItems : ∀ children, v = .array children → ∀ raw n, keyword? keywords .minItems = some raw →
    CountIs raw n → n ≤ children.length
  maxItems : ∀ children, v = .array children → ∀ raw n, keyword? keywords .maxItems = some raw →
    CountIs raw n → children.length ≤ n
  enum : ∀ options, keyword? keywords .enum = some (.array options) → ∃ option ∈ options, (option == v) = true
  minimum : ∀ limit, keyword? keywords .minimum = some (.number limit) → ∃ x, v = .number x ∧ ¬ x < limit
  maximum : ∀ limit, keyword? keywords .maximum = some (.number limit) → ∃ x, v = .number x ∧ ¬ limit < x
  pattern : ∀ source p text, keyword? keywords .pattern = some (.string source) →
    Pattern.compile source = .ok p → v = .string text → p.isMatch text = true
  format : ∀ text, keyword? keywords .format = some (.string "date-time") → v = .string text →
    (DateTime.ofText? text).isSome

/-- The documents that satisfy a schema. Nothing satisfies `false`. -/
inductive Satisfies : (schema : Value) → (doc : Value) → Prop
  | any (v : Value) : Satisfies (.bool true) v
  | object {keywords : Keywords} {v : Value} (meets : Meets keywords v)
      (property : ∀ fields, v = .object fields → ∀ key child, (key, child) ∈ fields →
        ∀ sub, listed? keywords key = some sub → Satisfies sub child)
      (additionalProperty : ∀ fields, v = .object fields → ∀ key child, (key, child) ∈ fields →
        listed? keywords key = none → ∀ sub, keyword? keywords .additionalProperties = some sub →
          Satisfies sub child)
      (item : ∀ children, v = .array children → ∀ sub, keyword? keywords .items = some sub →
        sub.array? = none → ∀ child ∈ children, Satisfies sub child)
      (tuple : ∀ children, v = .array children → ∀ subs, keyword? keywords .items = some (.array subs) →
        ∀ (i : Nat) sub child, subs[i]? = some sub → children[i]? = some child → Satisfies sub child)
      (additionalItem : ∀ children, v = .array children → ∀ subs,
        keyword? keywords .items = some (.array subs) → ∀ (i : Nat) child, subs.length ≤ i →
          children[i]? = some child → ∀ sub, keyword? keywords .additionalItems = some sub →
            Satisfies sub child) :
      Satisfies (.object keywords) v

theorem not_satisfies_false (v : Value) : ¬ Satisfies (.bool false) v := by
  intro h
  cases h

/-- What keywords ask of the parts of a value, where `P sub child` says that a part fits its schema. -/
structure Parts (P : Value → Value → Prop) (keywords : Keywords) (v : Value) : Prop where
  property : ∀ fields, v = .object fields → ∀ key child, (key, child) ∈ fields →
    ∀ sub, listed? keywords key = some sub → P sub child
  additionalProperty : ∀ fields, v = .object fields → ∀ key child, (key, child) ∈ fields →
    listed? keywords key = none → ∀ sub, keyword? keywords .additionalProperties = some sub → P sub child
  item : ∀ children, v = .array children → ∀ sub, keyword? keywords .items = some sub →
    sub.array? = none → ∀ child ∈ children, P sub child
  tuple : ∀ children, v = .array children → ∀ subs, keyword? keywords .items = some (.array subs) →
    ∀ (i : Nat) sub child, subs[i]? = some sub → children[i]? = some child → P sub child
  additionalItem : ∀ children, v = .array children → ∀ subs, keyword? keywords .items = some (.array subs) →
    ∀ (i : Nat) child, subs.length ≤ i → children[i]? = some child →
      ∀ sub, keyword? keywords .additionalItems = some sub → P sub child

theorem satisfies_object_iff {keywords : Keywords} {v : Value} :
    Satisfies (.object keywords) v ↔ Meets keywords v ∧ Parts Satisfies keywords v := by
  constructor
  · intro h
    cases h with
    | object meets property additionalProperty item tuple additionalItem =>
      exact ⟨meets, property, additionalProperty, item, tuple, additionalItem⟩
  · rintro ⟨meets, parts⟩
    exact .object meets parts.property parts.additionalProperty parts.item parts.tuple parts.additionalItem

/-- The parts of a value that are looked at are smaller than the value. -/
theorem Parts.imp {P Q : Value → Value → Prop} {keywords : Keywords} {v : Value}
    (hwf : WellFormed (.object keywords)) (h : Parts P keywords v)
    (hpq : ∀ sub child, WellFormed sub → sizeOf child < sizeOf v → P sub child → Q sub child) :
    Parts Q keywords v := by
  cases hwf with
  | object _ hproperty hadditional hitems htuple hadditionalItems =>
    have hchild : ∀ (children : List Value), v = .array children → ∀ child ∈ children,
        sizeOf child < sizeOf v := by
      rintro children rfl child hmem
      have := List.sizeOf_lt_of_mem hmem
      simp only [Value.array.sizeOf_spec]
      omega
    have hfield : ∀ (fields : List (String × Value)), v = .object fields → ∀ key child,
        (key, child) ∈ fields → sizeOf child < sizeOf v := by
      rintro fields rfl key child hmem
      have := List.sizeOf_lt_of_mem hmem
      simp only [Value.object.sizeOf_spec, Prod.mk.sizeOf_spec] at this ⊢
      omega
    constructor
    · intro fields hv key child hmem sub hsub
      refine hpq sub child ?_ (hfield fields hv key child hmem) (h.property fields hv key child hmem sub hsub)
      obtain ⟨properties, hkey, hget⟩ := Option.bind_eq_some_iff.1 hsub
      cases properties with
      | object listed => exact hproperty listed hkey key sub hget
      | _ => simp [Value.field?, Value.object?] at hget
    · intro fields hv key child hmem hnone sub hsub
      exact hpq sub child (hadditional sub hsub) (hfield fields hv key child hmem)
        (h.additionalProperty fields hv key child hmem hnone sub hsub)
    · intro children hv sub hsub hnot child hmem
      exact hpq sub child (hitems sub hsub hnot) (hchild children hv child hmem)
        (h.item children hv sub hsub hnot child hmem)
    · intro children hv subs hsubs i sub child hsub hget
      exact hpq sub child (htuple subs hsubs sub (List.mem_of_getElem? hsub))
        (hchild children hv child (List.mem_of_getElem? hget))
        (h.tuple children hv subs hsubs i sub child hsub hget)
    · intro children hv subs hsubs i child hle hget sub hsub
      exact hpq sub child (hadditionalItems sub hsub) (hchild children hv child (List.mem_of_getElem? hget))
        (h.additionalItem children hv subs hsubs i child hle hget sub hsub)

end PolicyEngine.Schema
