import PolicyEngine.Proofs.Fields
import PolicyEngine.Proofs.Schema.Semantics

/-! The validator finds no violation exactly in the documents that satisfy the schema, for schemas that
are well formed. Each keyword is settled by a lemma of its own; the parts follow by induction on the
document. -/
namespace PolicyEngine

/-! Compiled patterns -/

namespace PatternTable

/-- Whatever the table holds is what compiling gives. -/
def Sound (table : PatternTable) : Prop :=
  ∀ source, table.compiled source = Pattern.compile source

theorem Sound.add {table : PatternTable} (h : table.Sound) (source : String) : (table.add source).Sound := by
  intro other
  unfold PatternTable.add
  split
  · exact h other
  · by_cases heq : source = other
    · subst heq
      simp [compiled]
    · have hother := h other
      simp only [compiled, Fields.get?_insert_of_ne heq] at hother ⊢
      exact hother

theorem sound_ofSources (sources : List String) : (ofSources sources).Sound := by
  have hfold : ∀ table : PatternTable, table.Sound → (sources.foldl add table).Sound := by
    induction sources with
    | nil => exact fun _ h => h
    | cons source rest ih => exact fun table h => ih (table.add source) (h.add source)
  exact hfold [] fun _ => rfl

end PatternTable

namespace Schema
open Violation (here)

/-! Keywords -/

theorem ofKeyword_eq_nil_iff {keywords : Keywords} {k : Keyword} {f : Value → List Violation} :
    ofKeyword keywords k f = [] ↔ ∀ raw, keyword? keywords k = some raw → f raw = [] := by
  cases h : keyword? keywords k <;> simp [ofKeyword, h]

theorem isSome_toInt?_iff (x : Float) : (Number.toInt? x).isSome ↔ Whole x := by
  unfold Whole Number.toInt?
  cases Number.view x with
  | nan => simp
  | infinite negative => simp
  | finite parts =>
    simp only [Number.Parts.isWhole, Number.View.finite.injEq, exists_eq_left', Nat.dvd_iff_mod_eq_zero]
    by_cases h : parts.numerator % parts.denominator = 0 <;> simp [h]

theorem hasType?_eq_true_iff {name : String} (hname : name ∈ typeNames) (v : Value) :
    hasType? v name = some true ↔ HasType name v := by
  constructor
  · intro h
    simp only [typeNames, List.mem_cons, List.not_mem_nil, or_false] at hname
    rcases hname with rfl | rfl | rfl | rfl | rfl | rfl | rfl <;> cases v <;>
      simp [hasType?, Value.kind, isSome_toInt?_iff] at h <;> constructor
    exact h
  · intro h
    cases h <;> simp_all [hasType?, Value.kind, isSome_toInt?_iff]

theorem typeViolations_string_eq_nil_iff {name : String} (hname : name ∈ typeNames) (v : Value) :
    typeViolations (.string name) v = [] ↔ HasType name v := by
  rw [← hasType?_eq_true_iff hname]
  unfold typeViolations
  cases h : hasType? v name with
  | none => simp [h]
  | some b => cases b <;> simp [h]

theorem texts?_map_string (names : List String) : texts? (names.map .string) = some names := by
  induction names with
  | nil => rfl
  | cons name rest ih =>
    simp only [texts?, List.map_cons, List.mapM_cons] at ih ⊢
    simp [ih, Value.string?]

theorem typeViolations_array_eq_nil_iff {names : List String} (hnames : ∀ name ∈ names, name ∈ typeNames)
    (v : Value) : typeViolations (.array (names.map .string)) v = [] ↔ ∃ name ∈ names, HasType name v := by
  simp only [typeViolations, texts?_map_string, ite_eq_left_iff, List.cons_ne_self, imp_false, not_not]
  simp only [List.any_eq_true, beq_iff_eq]
  constructor
  · rintro ⟨name, hmem, h⟩
    exact ⟨name, hmem, (hasType?_eq_true_iff (hnames name hmem) v).1 h⟩
  · rintro ⟨name, hmem, h⟩
    exact ⟨name, hmem, (hasType?_eq_true_iff (hnames name hmem) v).2 h⟩

/-- The two ways of writing `type`, as one condition. -/
def TypeMet (keywords : Keywords) (v : Value) : Prop :=
  (∀ name, keyword? keywords .type = some (.string name) → HasType name v) ∧
    ∀ names, keyword? keywords .type = some (.array names) → ∃ name, .string name ∈ names ∧ HasType name v

theorem ofKeyword_type_eq_nil_iff {keywords : Keywords} (hshaped : Shaped keywords) (v : Value) :
    ofKeyword keywords .type (typeViolations · v) = [] ↔ TypeMet keywords v := by
  rw [ofKeyword_eq_nil_iff]
  cases hk : keyword? keywords .type with
  | none => simp [TypeMet, hk]
  | some raw =>
    rcases hshaped.type raw hk with ⟨name, hname, rfl⟩ | ⟨names, hnames, rfl⟩
    · simp [TypeMet, hk, typeViolations_string_eq_nil_iff hname]
    · simp [TypeMet, hk, typeViolations_array_eq_nil_iff hnames]

/-- The second reading of `type` hides nothing: a container that it shuts out is not of a listed type. -/
theorem TypeMet.admits {keywords : Keywords} {v : Value} (hshaped : Shaped keywords) (h : TypeMet keywords v)
    {kind : String} (hkind : ∀ name, HasType name v → name = kind) : admits keywords kind = true := by
  unfold Schema.admits
  cases hk : keyword? keywords .type with
  | none => rfl
  | some raw =>
    rcases hshaped.type raw hk with ⟨name, -, rfl⟩ | ⟨names, -, rfl⟩
    · simpa using hkind name (h.1 name hk)
    · obtain ⟨name, hmem, htype⟩ := h.2 _ hk
      simp only [List.any_eq_true]
      exact ⟨.string name, hmem, by simp [Value.string?, hkind name htype]⟩

/-! Keywords on containers -/

theorem requiredViolations_eq_nil_iff {keywords : Keywords} (hshaped : Shaped keywords)
    (fields : List (String × Value)) :
    requiredViolations keywords fields = [] ↔ ∀ keys, keyword? keywords .required = some (.array keys) →
      ∀ key, .string key ∈ keys → ∃ child, (key, child) ∈ fields := by
  unfold requiredViolations
  cases hk : keyword? keywords .required with
  | none => simp
  | some raw =>
    obtain ⟨keys, rfl⟩ := hshaped.required raw hk
    simp only [List.filterMap_eq_nil_iff, Option.some.injEq, Value.array.injEq, forall_eq',
      ← Fields.contains_iff_mem, List.mem_map, forall_exists_index, and_imp, forall_apply_eq_imp_iff₂,
      Value.string.injEq, exists_eq_right]
    constructor
    · intro h key hkey
      simpa using h key hkey
    · intro h key hkey
      simp [h key hkey]

theorem propertiesViolations_eq_nil {keywords : Keywords} (hshaped : Shaped keywords) :
    propertiesViolations keywords = [] := by
  unfold propertiesViolations
  cases hk : keyword? keywords .properties with
  | none => rfl
  | some raw =>
    obtain ⟨fields, rfl⟩ := hshaped.properties raw hk
    rfl

theorem itemsViolations_eq_nil {keywords : Keywords} (hwf : WellFormed (.object keywords)) :
    itemsViolations keywords = [] := by
  cases hwf with
  | object _ _ _ hitems _ _ =>
    unfold itemsViolations
    cases hk : keyword? keywords .items with
    | none => rfl
    | some raw =>
      cases raw with
      | array tuple => rfl
      | _ => cases hitems _ hk rfl <;> rfl

theorem itemCount?_of_countIs {raw : Value} {n : Nat} (h : CountIs raw n) (hn : n < countBound) :
    itemCount? raw = some n := by
  obtain ⟨x, rfl, hx⟩ := h
  unfold Number.toInt? at hx
  simp only [itemCount?]
  cases hview : Number.view x with
  | nan => simp [hview] at hx
  | infinite negative => simp [hview] at hx
  | finite parts =>
    simp only [hview, Option.ite_none_right_eq_some, Option.some.injEq] at hx
    obtain ⟨hwhole, hvalue⟩ := hx
    have hmax : n ≤ maxCount := Nat.le_trans hn.le (by decide)
    have hden : 0 < parts.denominator := Nat.pow_pos (by decide)
    by_cases hneg : parts.negative
    · simp only [hneg, if_true] at hvalue
      have hfloor : parts.floor = 0 ∧ n = 0 := by omega
      have hnum : parts.numerator = 0 := by
        have hdiv := Nat.div_add_mod parts.numerator parts.denominator
        have hmod : parts.numerator % parts.denominator = 0 := by simpa [Number.Parts.isWhole] using hwhole
        have hzero : parts.numerator / parts.denominator = 0 := hfloor.1
        rw [hmod, hzero] at hdiv
        omega
      have hsig : parts.significand = 0 := by
        rcases Nat.mul_eq_zero.1 hnum with h | h
        · exact h
        · exact absurd h (Nat.pow_pos (by decide)).ne'
      simp [hneg, hsig, hfloor]
    · have hint : (parts.floor : Int) = n := by simpa [hneg] using hvalue
      have hfloor : parts.floor = n := by omega
      simp [hneg, hfloor, hmax]

theorem countViolations_eq_nil_iff {keywords : Keywords} {k : Keyword}
    (hshape : ∀ raw, keyword? keywords k = some raw → ∃ n < countBound, CountIs raw n)
    (broken : Nat → Option Violation.Cause) :
    countViolations keywords k broken = [] ↔
      ∀ raw n, keyword? keywords k = some raw → CountIs raw n → broken n = none := by
  unfold countViolations
  cases hk : keyword? keywords k with
  | none => simp
  | some raw =>
    obtain ⟨n, hn, hcount⟩ := hshape raw hk
    have huniq : ∀ m, CountIs raw m → m = n := by
      rintro m ⟨x, rfl, hx⟩
      obtain ⟨y, hy, hny⟩ := hcount
      cases hy
      rw [hx] at hny
      exact_mod_cast Option.some.inj hny
    simp only [itemCount?_of_countIs hcount hn, Option.toList_eq_nil_iff, Option.map_eq_none_iff,
      Option.some.injEq]
    constructor
    · rintro h _ m rfl hm
      rw [huniq m hm, h]
    · intro h
      exact h raw n rfl hcount

theorem sizeViolations_eq_nil_iff {keywords : Keywords} (hshaped : Shaped keywords) (size : Nat) :
    sizeViolations keywords size = [] ↔
      (∀ raw n, keyword? keywords .minItems = some raw → CountIs raw n → n ≤ size) ∧
        ∀ raw n, keyword? keywords .maxItems = some raw → CountIs raw n → size ≤ n := by
  rw [sizeViolations, List.append_eq_nil_iff, countViolations_eq_nil_iff hshaped.minItems,
    countViolations_eq_nil_iff hshaped.maxItems]
  simp

/-! Keywords on values of every kind -/

theorem enumViolations_eq_nil_iff (options : List Value) (v : Value) :
    enumViolations (.array options) v = [] ↔ ∃ option ∈ options, (option == v) = true := by
  simp [enumViolations]

theorem boundViolations_eq_nil_iff (bound : Bound) (limit : Float) (v : Value) :
    boundViolations bound (.number limit) v = [] ↔ ∃ x, v = .number x ∧ ¬ bound.isBroken x limit = true := by
  cases v <;> simp [boundViolations]

theorem patternViolations_eq_nil_iff {patterns : PatternTable} (hsound : patterns.Sound) {source : String}
    {p : Pattern} (hp : Pattern.compile source = .ok p) (v : Value) :
    patternViolations patterns (.string source) v = [] ↔
      ∀ text, v = .string text → p.isMatch text = true := by
  cases v <;> simp [patternViolations, hsound source, hp]

theorem formatViolations_eq_nil_iff (name : String) (v : Value) :
    formatViolations (.string name) v = [] ↔
      (name = "date-time" → ∀ text, v = .string text → (DateTime.ofText? text).isSome) := by
  cases v <;> simp [formatViolations, Option.isSome_iff_ne_none]

theorem valueViolations_eq_nil_iff {patterns : PatternTable} (hsound : patterns.Sound) {keywords : Keywords}
    (hshaped : Shaped keywords) (v : Value) :
    valueViolations patterns keywords v = [] ↔
      (∀ options, keyword? keywords .enum = some (.array options) →
        ∃ option ∈ options, (option == v) = true) ∧
      (∀ limit, keyword? keywords .minimum = some (.number limit) → ∃ x, v = .number x ∧ ¬ x < limit) ∧
      (∀ limit, keyword? keywords .maximum = some (.number limit) → ∃ x, v = .number x ∧ ¬ limit < x) ∧
      (∀ source p text, keyword? keywords .pattern = some (.string source) →
        Pattern.compile source = .ok p → v = .string text → p.isMatch text = true) ∧
      ∀ text, keyword? keywords .format = some (.string "date-time") → v = .string text →
        (DateTime.ofText? text).isSome := by
  simp only [valueViolations, List.append_eq_nil_iff, ofKeyword_eq_nil_iff, and_assoc]
  refine and_congr ?_ (and_congr ?_ (and_congr ?_ (and_congr ?_ ?_)))
  · constructor
    · intro h options hk
      exact (enumViolations_eq_nil_iff options v).1 (h _ hk)
    · intro h raw hk
      obtain ⟨options, rfl⟩ := hshaped.enum raw hk
      exact (enumViolations_eq_nil_iff options v).2 (h options hk)
  · constructor
    · intro h limit hk
      simpa [Bound.isBroken] using (boundViolations_eq_nil_iff .least limit v).1 (h _ hk)
    · intro h raw hk
      obtain ⟨limit, rfl⟩ := hshaped.minimum raw hk
      exact (boundViolations_eq_nil_iff .least limit v).2 (by simpa [Bound.isBroken] using h limit hk)
  · constructor
    · intro h limit hk
      simpa [Bound.isBroken] using (boundViolations_eq_nil_iff .greatest limit v).1 (h _ hk)
    · intro h raw hk
      obtain ⟨limit, rfl⟩ := hshaped.maximum raw hk
      exact (boundViolations_eq_nil_iff .greatest limit v).2 (by simpa [Bound.isBroken] using h limit hk)
  · constructor
    · intro h source p text hk hp
      exact (patternViolations_eq_nil_iff hsound hp v).1 (h _ hk) text
    · intro h raw hk
      obtain ⟨source, p, rfl, hp⟩ := hshaped.pattern raw hk
      exact (patternViolations_eq_nil_iff hsound hp v).2 fun text => h source p text hk hp
  · constructor
    · intro h text hk
      exact (formatViolations_eq_nil_iff "date-time" v).1 (h _ hk) rfl text
    · intro h raw hk
      obtain ⟨name, rfl⟩ := hshaped.format raw hk
      refine (formatViolations_eq_nil_iff name v).2 ?_
      rintro rfl text
      exact h text hk

/-! Parts -/

/-- The violations that the rule for a part brings about. -/
def partViolations (patterns : PatternTable) (rule : PartRule) (child : Value) : List Violation :=
  match rule with
  | .check step sub => (violations patterns sub child).map (·.under step)
  | .refuse cause => [here cause]
  | .permit => []

theorem fieldViolations_eq_nil_iff (patterns : PatternTable) (keywords : Keywords)
    (fields : List (String × Value)) :
    fieldViolations patterns keywords fields = [] ↔
      ∀ key child, (key, child) ∈ fields →
        partViolations patterns (propertyRule keywords key) child = [] := by
  induction fields with
  | nil => simp [fieldViolations]
  | cons entry rest ih =>
    obtain ⟨k, v⟩ := entry
    rw [fieldViolations, List.append_eq_nil_iff, ih]
    constructor
    · rintro ⟨hfirst, hrest⟩ key child hmem
      rcases List.mem_cons.1 hmem with heq | hmem
      · cases heq
        exact hfirst
      · exact hrest key child hmem
    · intro h
      exact ⟨h k v List.mem_cons_self, fun key child hmem => h key child (List.mem_cons_of_mem _ hmem)⟩

theorem itemViolations_eq_nil_iff (patterns : PatternTable) (keywords : Keywords) (start : Nat)
    (children : List Value) :
    itemViolations patterns keywords start children = [] ↔
      ∀ (i : Nat) child, children[i]? = some child →
        partViolations patterns (itemRule keywords (start + i)) child = [] := by
  induction children generalizing start with
  | nil => simp [itemViolations]
  | cons first rest ih =>
    rw [itemViolations, List.append_eq_nil_iff, ih]
    constructor
    · rintro ⟨hfirst, hrest⟩ i child hget
      cases i with
      | zero =>
        cases hget
        exact hfirst
      | succ i =>
        rw [← Nat.succ_add_eq_add_succ]
        exact hrest i child hget
    · intro h
      refine ⟨h 0 first rfl, fun i child hget => ?_⟩
      rw [Nat.succ_add_eq_add_succ]
      exact h (i + 1) child hget

/-- The rule for a part that is not listed asks what its schema asks: `false` refuses every part. -/
theorem partViolations_additionalRule (patterns : PatternTable) {additional : Option Value}
    (hwf : ∀ sub, additional = some sub → WellFormed sub) (step : Step) (cause : Violation.Cause)
    (child : Value) :
    partViolations patterns (additionalRule additional step cause) child = [] ↔
      ∀ sub, additional = some sub → violations patterns sub child = [] := by
  cases additional with
  | none => simp [additionalRule, partViolations]
  | some sub =>
    cases hwf sub rfl with
    | bool b => cases b <;> simp [additionalRule, partViolations]
    | object _ _ _ _ _ _ => simp [additionalRule, partViolations]

/-- Fields are held to the schemas that the keywords give for them. -/
theorem fieldViolations_eq_nil_iff_parts (patterns : PatternTable) {keywords : Keywords}
    (hwf : WellFormed (.object keywords)) (fields : List (String × Value)) :
    fieldViolations patterns keywords fields = [] ↔
      (∀ key child, (key, child) ∈ fields → ∀ sub, listed? keywords key = some sub →
        violations patterns sub child = []) ∧
      ∀ key child, (key, child) ∈ fields → listed? keywords key = none →
        ∀ sub, keyword? keywords .additionalProperties = some sub → violations patterns sub child = [] := by
  cases hwf with
  | object _ _ hadditional _ _ _ =>
    rw [fieldViolations_eq_nil_iff]
    have hlisted : ∀ key child sub, listed? keywords key = some sub →
        (partViolations patterns (propertyRule keywords key) child = [] ↔
          violations patterns sub child = []) := by
      intro key child sub hsub
      unfold listed? at hsub
      simp [propertyRule, hsub, partViolations]
    have hother : ∀ key child, listed? keywords key = none →
        (partViolations patterns (propertyRule keywords key) child = [] ↔
          ∀ sub, keyword? keywords .additionalProperties = some sub →
            violations patterns sub child = []) := by
      intro key child hnone
      unfold listed? at hnone
      rw [← partViolations_additionalRule patterns hadditional (.property key) (.additionalProperty key)]
      simp [propertyRule, hnone]
    constructor
    · intro h
      exact ⟨fun key child hmem sub hsub => (hlisted key child sub hsub).1 (h key child hmem),
        fun key child hmem hnone => (hother key child hnone).1 (h key child hmem)⟩
    · rintro ⟨hproperty, hadditionalProperty⟩ key child hmem
      cases hsub : listed? keywords key with
      | some sub => exact (hlisted key child sub hsub).2 (hproperty key child hmem sub hsub)
      | none => exact (hother key child hsub).2 (hadditionalProperty key child hmem hsub)

/-- Items are held to the one schema for all of them, or to the listed schemas and what is said of the rest. -/
theorem itemViolations_eq_nil_iff_parts (patterns : PatternTable) {keywords : Keywords}
    (hwf : WellFormed (.object keywords)) (children : List Value) :
    itemViolations patterns keywords 0 children = [] ↔
      (∀ sub, keyword? keywords .items = some sub → sub.array? = none →
        ∀ child ∈ children, violations patterns sub child = []) ∧
      (∀ subs, keyword? keywords .items = some (.array subs) → ∀ (i : Nat) sub child, subs[i]? = some sub →
        children[i]? = some child → violations patterns sub child = []) ∧
      ∀ subs, keyword? keywords .items = some (.array subs) → ∀ (i : Nat) child, subs.length ≤ i →
        children[i]? = some child → ∀ sub, keyword? keywords .additionalItems = some sub →
          violations patterns sub child = [] := by
  cases hwf with
  | object _ _ _ hitems _ hadditional =>
    rw [itemViolations_eq_nil_iff]
    simp only [Nat.zero_add]
    cases hk : keyword? keywords .items with
    | none => simp [itemRule, hk, partViolations]
    | some raw =>
      cases raw with
      | array subs =>
        have hlisted : ∀ (i : Nat) sub child, subs[i]? = some sub →
            (partViolations patterns (itemRule keywords i) child = [] ↔
              violations patterns sub child = []) := by
          intro i sub child hget
          simp [itemRule, hk, hget, partViolations]
        have hrest : ∀ (i : Nat) child, subs.length ≤ i →
            (partViolations patterns (itemRule keywords i) child = [] ↔
              ∀ sub, keyword? keywords .additionalItems = some sub → violations patterns sub child = []) := by
          intro i child hle
          rw [← partViolations_additionalRule patterns hadditional (.additionalItem i) (.additionalItem i)]
          simp [itemRule, hk, hle]
        constructor
        · intro h
          refine ⟨?_, ?_, ?_⟩
          · rintro _ ⟨⟩ hnot
            cases hnot
          · rintro _ ⟨⟩ i sub child hsub hget
            exact (hlisted i sub child hsub).1 (h i child hget)
          · rintro _ ⟨⟩ i child hle hget
            exact (hrest i child hle).1 (h i child hget)
        · rintro ⟨-, htuple, hadditionalItem⟩ i child hget
          cases hsub : subs[i]? with
          | some sub => exact (hlisted i sub child hsub).2 (htuple subs rfl i sub child hsub hget)
          | none =>
            have hle : subs.length ≤ i := List.getElem?_eq_none_iff.1 hsub
            exact (hrest i child hle).2 (hadditionalItem subs rfl i child hle hget)
      | _ =>
        cases hitems _ hk rfl <;>
          simpa [itemRule, hk, partViolations, Value.array?, List.mem_iff_getElem?] using forall_comm

/-! Containers -/

theorem WellFormed.shaped {keywords : Keywords} (h : WellFormed (.object keywords)) : Shaped keywords := by
  cases h with
  | object shaped _ _ _ _ _ => exact shaped

/-- What keywords say of a container: what they ask of it, and of its parts. -/
def containerViolations (patterns : PatternTable) (keywords : Keywords) : Value → List Violation
  | .object fields =>
    if admits keywords "object" then
      requiredViolations keywords fields ++ propertiesViolations keywords ++
        fieldViolations patterns keywords fields
    else []
  | .array children =>
    if admits keywords "array" then
      itemsViolations keywords ++ itemViolations patterns keywords 0 children ++
        sizeViolations keywords children.length
    else []
  | _ => []

theorem violations_object_eq_append (patterns : PatternTable) (keywords : Keywords) (v : Value) :
    violations patterns (.object keywords) v = ofKeyword keywords .type (typeViolations · v) ++
      containerViolations patterns keywords v ++ valueViolations patterns keywords v := by
  cases v <;> simp only [violations, containerViolations]

/-- The keywords on a container itself, as one condition. -/
structure ContainerMet (keywords : Keywords) (v : Value) : Prop where
  required : ∀ fields, v = .object fields → ∀ keys, keyword? keywords .required = some (.array keys) →
    ∀ key, .string key ∈ keys → ∃ child, (key, child) ∈ fields
  minItems : ∀ children, v = .array children → ∀ raw n, keyword? keywords .minItems = some raw →
    CountIs raw n → n ≤ children.length
  maxItems : ∀ children, v = .array children → ∀ raw n, keyword? keywords .maxItems = some raw →
    CountIs raw n → children.length ≤ n

section Containers
variable (patterns : PatternTable) {keywords : Keywords} (hwf : WellFormed (.object keywords))
include hwf

theorem containerViolations_object_eq_nil_iff {fields : List (String × Value)}
    (htype : TypeMet keywords (.object fields)) :
    containerViolations patterns keywords (.object fields) = [] ↔
      ContainerMet keywords (.object fields) ∧
        Parts (fun sub child => violations patterns sub child = []) keywords (.object fields) := by
  have hadmits : admits keywords "object" = true := by
    refine htype.admits hwf.shaped ?_
    rintro name ⟨⟩
    rfl
  rw [containerViolations, if_pos hadmits, propertiesViolations_eq_nil hwf.shaped, List.append_nil,
    List.append_eq_nil_iff, requiredViolations_eq_nil_iff hwf.shaped,
    fieldViolations_eq_nil_iff_parts patterns hwf]
  constructor
  · rintro ⟨hrequired, hproperty, hadditional⟩
    refine ⟨⟨?_, nofun, nofun⟩, ⟨?_, ?_, nofun, nofun, nofun⟩⟩
    · rintro _ ⟨⟩
      exact hrequired
    · rintro _ ⟨⟩
      exact hproperty
    · rintro _ ⟨⟩
      exact hadditional
  · rintro ⟨met, parts⟩
    exact ⟨met.required fields rfl, parts.property fields rfl, parts.additionalProperty fields rfl⟩

theorem containerViolations_array_eq_nil_iff {children : List Value}
    (htype : TypeMet keywords (.array children)) :
    containerViolations patterns keywords (.array children) = [] ↔
      ContainerMet keywords (.array children) ∧
        Parts (fun sub child => violations patterns sub child = []) keywords (.array children) := by
  have hadmits : admits keywords "array" = true := by
    refine htype.admits hwf.shaped ?_
    rintro name ⟨⟩
    rfl
  rw [containerViolations, if_pos hadmits, itemsViolations_eq_nil hwf, List.nil_append,
    List.append_eq_nil_iff, sizeViolations_eq_nil_iff hwf.shaped,
    itemViolations_eq_nil_iff_parts patterns hwf]
  constructor
  · rintro ⟨⟨hitem, htuple, hadditional⟩, hleast, hmost⟩
    refine ⟨⟨nofun, ?_, ?_⟩, ⟨nofun, nofun, ?_, ?_, ?_⟩⟩
    · rintro _ ⟨⟩
      exact hleast
    · rintro _ ⟨⟩
      exact hmost
    · rintro _ ⟨⟩
      exact hitem
    · rintro _ ⟨⟩
      exact htuple
    · rintro _ ⟨⟩
      exact hadditional
  · rintro ⟨met, parts⟩
    exact ⟨⟨parts.item children rfl, parts.tuple children rfl, parts.additionalItem children rfl⟩,
      met.minItems children rfl, met.maxItems children rfl⟩

/-- A container matters only where `type` admits it, which it does when it is met. -/
theorem containerViolations_eq_nil_iff {v : Value} (htype : TypeMet keywords v) :
    containerViolations patterns keywords v = [] ↔
      ContainerMet keywords v ∧ Parts (fun sub child => violations patterns sub child = []) keywords v := by
  cases v with
  | object fields => exact containerViolations_object_eq_nil_iff patterns hwf htype
  | array children => exact containerViolations_array_eq_nil_iff patterns hwf htype
  | _ => exact iff_of_true rfl ⟨⟨nofun, nofun, nofun⟩, ⟨nofun, nofun, nofun, nofun, nofun⟩⟩

end Containers

theorem violations_object_eq_nil_iff {patterns : PatternTable} (hsound : patterns.Sound) {keywords : Keywords}
    (hwf : WellFormed (.object keywords)) (v : Value) :
    violations patterns (.object keywords) v = [] ↔
      Meets keywords v ∧ Parts (fun sub child => violations patterns sub child = []) keywords v := by
  rw [violations_object_eq_append, List.append_eq_nil_iff, List.append_eq_nil_iff,
    ofKeyword_type_eq_nil_iff hwf.shaped, valueViolations_eq_nil_iff hsound hwf.shaped]
  constructor
  · rintro ⟨⟨htype, hcontainer⟩, henum, hmin, hmax, hpattern, hformat⟩
    obtain ⟨met, parts⟩ := (containerViolations_eq_nil_iff patterns hwf htype).1 hcontainer
    exact ⟨⟨htype.1, htype.2, met.required, met.minItems, met.maxItems, henum, hmin, hmax, hpattern, hformat⟩,
      parts⟩
  · rintro ⟨meets, parts⟩
    have htype : TypeMet keywords v := ⟨meets.type, meets.types⟩
    have hcontainer : ContainerMet keywords v := ⟨meets.required, meets.minItems, meets.maxItems⟩
    exact ⟨⟨htype, (containerViolations_eq_nil_iff patterns hwf htype).2 ⟨hcontainer, parts⟩⟩,
      meets.enum, meets.minimum, meets.maximum, meets.pattern, meets.format⟩

theorem violations_eq_nil_iff {patterns : PatternTable} (hsound : patterns.Sound) {schema : Value}
    (hwf : WellFormed schema) (v : Value) : violations patterns schema v = [] ↔ Satisfies schema v := by
  -- On the size of the document: the schema does not shrink where one schema covers many parts.
  induction hn : sizeOf v using Nat.strongRecOn generalizing v schema with
  | ind n ih =>
    subst hn
    cases hwf with
    | bool b =>
      cases b with
      | true => simp [Satisfies.any v]
      | false => simp [not_satisfies_false v]
    | object shaped property additionalProperties items tuple additionalItems =>
      have hwf := WellFormed.object shaped property additionalProperties items tuple additionalItems
      rw [violations_object_eq_nil_iff hsound hwf, satisfies_object_iff]
      refine and_congr_right fun _ => ⟨fun h => h.imp hwf ?_, fun h => h.imp hwf ?_⟩
      · intro sub child hsub hlt hnil
        exact (ih _ hlt hsub child rfl).1 hnil
      · intro sub child hsub hlt hsat
        exact (ih _ hlt hsub child rfl).2 hsat

theorem validate_eq_nil_iff (s : Schema) (doc : Value) (hwf : WellFormed s.root) :
    s.validate doc = [] ↔ Satisfies s.root doc := by
  have hsound : s.patterns.Sound := by
    rw [s.patterns_eq]
    exact PatternTable.sound_ofSources _
  exact violations_eq_nil_iff hsound hwf doc

/-- A record with a name, which may list one size. -/
def labelSchema : Schema := .load (.object [
  ("additionalProperties", .bool false),
  ("properties", .object [
    ("name", .object [("type", .string "string")]),
    ("sizes", .object [("additionalItems", .bool false),
      ("items", .array [.object [("type", .string "integer")]])])]),
  ("required", .array [.string "name"])])

theorem wellFormed_typeOnly {name : String} (hname : name ∈ typeNames) :
    WellFormed (.object [("type", .string name)]) := by
  refine .object ?_ ?_ ?_ ?_ ?_ ?_
  · constructor <;> intro raw h <;> simp [keyword?, Keyword.name] at h
    exact .inl ⟨name, hname, h.symm⟩
  all_goals simp [keyword?, Keyword.name]

theorem wellFormed_labelSchema : WellFormed labelSchema.root := by
  have hsizes : WellFormed (.object [("additionalItems", .bool false),
      ("items", .array [.object [("type", .string "integer")]])]) := by
    refine .object ?_ ?_ ?_ ?_ ?_ ?_
    · constructor <;> intro raw h <;> simp [keyword?, Keyword.name] at h
    · simp [keyword?, Keyword.name]
    · simp [keyword?, Keyword.name]
    · simp [keyword?, Keyword.name, Value.array?]
    · simpa [keyword?, Keyword.name] using wellFormed_typeOnly (by decide)
    · simpa [keyword?, Keyword.name] using WellFormed.bool false
  refine .object ?_ ?_ ?_ ?_ ?_ ?_
  · constructor <;> intro raw h <;> simp [keyword?, Keyword.name] at h
    · exact ⟨["name"], h.symm⟩
    · exact ⟨_, h.symm⟩
  · intro fields h key sub hsub
    simp only [keyword?, Keyword.name] at h
    cases h
    simp only [Fields.get?_cons, Fields.get?_nil] at hsub
    split at hsub
    · cases hsub
      exact wellFormed_typeOnly (by decide)
    · split at hsub
      · cases hsub
        exact hsizes
      · cases hsub
  · simpa [keyword?, Keyword.name] using WellFormed.bool false
  · simp [keyword?, Keyword.name]
  · simp [keyword?, Keyword.name]
  · simp [keyword?, Keyword.name]

theorem validate_labelSchema :
    WellFormed labelSchema.root ∧
      Satisfies labelSchema.root (.object [("name", .string "a"), ("sizes", .array [.number 3])]) ∧
      ¬ Satisfies labelSchema.root
        (.object [("name", .string "a"), ("sizes", .array [.number 3, .null])]) := by
  refine ⟨wellFormed_labelSchema, ?_, ?_⟩
  · exact (validate_eq_nil_iff labelSchema _ wellFormed_labelSchema).1 (by decide +kernel)
  · intro h
    have hnil := (validate_eq_nil_iff labelSchema _ wellFormed_labelSchema).2 h
    exact absurd hnil (by decide +kernel)

end Schema

end PolicyEngine
