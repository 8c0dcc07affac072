import PolicyEngine.Engine.Basic
import PolicyEngine.Proofs.Policy.Batch
import PolicyEngine.Proofs.Policy.Commutation

/-! The way of a request through the gates of an engine. The first gate that stops it decides the answer: the kind of
the data, the request schema, the policies, the response schema. -/
namespace PolicyEngine

def Value.IsObject (v : Value) : Prop := ∃ fields, v = .object fields

/-- Policies leave an object an object: every assignment is made below its root. -/
theorem Registry.isObject_execute (r : Registry) (names : List String) {doc : Value} (h : doc.IsObject) :
    (r.execute names doc).2.IsObject := by
  induction names generalizing doc with
  | nil => exact h
  | cons name rest ih =>
    obtain ⟨fields, rfl⟩ := h
    obtain ⟨result, after, hname⟩ := r.executeName_object name fields
    rw [execute_cons hname]
    exact ih ⟨after, rfl⟩

namespace Engine

/-- A schema that is set finds violations in a document, namely these. -/
def Breaks (schema : Option Schema) (data : Value) (found : List Violation) : Prop :=
  found ≠ [] ∧ ∃ s, schema = some s ∧ s.validate data = found

/-- No schema is set, or the one that is finds nothing. -/
def Fits (schema : Option Schema) (data : Value) : Prop := ∀ s, schema = some s → s.validate data = []

/-- One of the requested policies is undefined, or fails on the document that the ones before it left. -/
def FailsOn (e : Engine) (q : Request) : Prop :=
  ∃ i name, q.policies[i]? = some name ∧ e.policies.Fails name (e.policies.documentBefore q.policies q.data i)

/-- The document that the requested policies make of the data, one after the other. -/
def processed (e : Engine) (q : Request) : Value :=
  q.policies.foldl (fun doc name => (e.policies.executeName name doc).2) q.data

variable {e : Engine} {q : Request}

/-! Gates -/

theorem violations_eq_nil_iff {schema : Option Schema} {data : Value} :
    violations schema data = [] ↔ Fits schema data := by
  cases schema <;> simp [violations, Fits]

theorem breaks_violations {schema : Option Schema} {data : Value} (h : violations schema data ≠ []) :
    Breaks schema data (violations schema data) := by
  cases schema with
  | none => exact absurd rfl h
  | some s => exact ⟨h, s, rfl, rfl⟩

theorem not_fits_of_breaks {schema : Option Schema} {data : Value} {found : List Violation}
    (h : Breaks schema data found) : ¬ Fits schema data := by
  obtain ⟨hfound, s, hschema, rfl⟩ := h
  exact fun hfits => hfound (hfits s hschema)

theorem eq_of_breaks {schema : Option Schema} {data : Value} {found others : List Violation}
    (h : Breaks schema data found) (h' : Breaks schema data others) : found = others := by
  obtain ⟨-, s, rfl, rfl⟩ := h
  obtain ⟨-, _, heq, rfl⟩ := h'
  cases heq
  rfl

theorem isObject_processed (h : q.data.IsObject) : (e.processed q).IsObject := by
  rw [processed, ← Registry.document_execute]
  exact e.policies.isObject_execute q.policies h

/-- The ways through the gates, each with the answer at its end. -/
inductive Goes (e : Engine) (q : Request) : Except ProcessFault Response → Prop
  | malformed (data : ¬ q.data.IsObject) : Goes e q (.error (.dataNotObject q.data))
  | requestRejected {found : List Violation} (data : q.data.IsObject) (request : Breaks e.requestSchema q.data found) :
      Goes e q (.error (.requestRejected found))
  | policiesFailed (data : q.data.IsObject) (request : Fits e.requestSchema q.data) (policies : e.FailsOn q) :
      Goes e q (.error (.policiesFailed (e.policies.execute q.policies q.data).1))
  | responseRejected {found : List Violation} (data : q.data.IsObject) (request : Fits e.requestSchema q.data)
      (policies : ¬ e.FailsOn q) (response : Breaks e.responseSchema (e.processed q) found) :
      Goes e q (.error (.responseRejected found))
  | answered (data : q.data.IsObject) (request : Fits e.requestSchema q.data) (policies : ¬ e.FailsOn q)
      (response : Fits e.responseSchema (e.processed q)) : Goes e q (.ok ⟨q.id ++ "-response", e.processed q⟩)

theorem goes_answer (data : q.data.IsObject) (request : Fits e.requestSchema q.data) : Goes e q (e.answer q) := by
  have hfails := e.policies.allPassed_execute_eq_false_iff q.policies q.data
  have hprocessed : (e.policies.execute q.policies q.data).2 = e.processed q := Registry.document_execute ..
  unfold answer
  dsimp only
  rw [hprocessed]
  split
  · next hfailed => exact .policiesFailed data request (hfails.1 (by simpa using hfailed))
  · next hpassed =>
    have hpolicies : ¬ e.FailsOn q := fun h => hpassed (by simpa using hfails.2 h)
    split
    · next hresponse => exact .answered data request hpolicies (violations_eq_nil_iff.1 (List.isEmpty_iff.1 hresponse))
    · next hresponse =>
      exact .responseRejected data request hpolicies (breaks_violations (by simpa using hresponse))

theorem goes_process (e : Engine) (q : Request) : Goes e q (e.process q) := by
  unfold process
  split
  · next fields hdata =>
    have data : q.data.IsObject := ⟨fields, hdata⟩
    dsimp only
    split
    · next hrequest => exact goes_answer data (violations_eq_nil_iff.1 (List.isEmpty_iff.1 hrequest))
    · next hrequest => exact .requestRejected data (breaks_violations (by simpa using hrequest))
  · next hdata => exact .malformed fun ⟨fields, h⟩ => hdata fields h

/-- Each request goes exactly one of the ways. -/
theorem process_eq_iff_goes {answer : Except ProcessFault Response} : e.process q = answer ↔ Goes e q answer := by
  constructor
  · rintro rfl
    exact goes_process e q
  · intro h
    have hgoes := goes_process e q
    generalize e.process q = found at hgoes
    cases h with
    | malformed data =>
      cases hgoes with
      | malformed => rfl
      | _ => contradiction
    | requestRejected data request =>
      cases hgoes with
      | malformed hdata => contradiction
      | requestRejected _ hrequest => rw [eq_of_breaks hrequest request]
      | _ => exact absurd ‹Fits e.requestSchema q.data› (not_fits_of_breaks request)
    | policiesFailed data request policies =>
      cases hgoes with
      | policiesFailed => rfl
      | requestRejected _ hrequest => exact absurd request (not_fits_of_breaks hrequest)
      | _ => contradiction
    | responseRejected data request policies response =>
      cases hgoes with
      | requestRejected _ hrequest => exact absurd request (not_fits_of_breaks hrequest)
      | responseRejected _ _ _ hresponse => rw [eq_of_breaks hresponse response]
      | answered _ _ _ hresponse => exact absurd hresponse (not_fits_of_breaks response)
      | _ => contradiction
    | answered data request policies response =>
      cases hgoes with
      | requestRejected _ hrequest => exact absurd request (not_fits_of_breaks hrequest)
      | responseRejected _ _ _ hresponse => exact absurd response (not_fits_of_breaks hresponse)
      | answered => rfl
      | _ => contradiction

/-- The report of a request whose policies fail. -/
theorem results_of_policiesFailed {results : List PolicyResult} (h : e.process q = .error (.policiesFailed results)) :
    results = (e.policies.execute q.policies q.data).1 ∧ results.map PolicyResult.name = q.policies ∧
      ∃ result ∈ results, result.passed = false := by
  cases process_eq_iff_goes.1 h with
  | policiesFailed _ _ policies =>
    have hfailed := (e.policies.allPassed_execute_eq_false_iff q.policies q.data).2 policies
    refine ⟨rfl, e.policies.names_execute q.policies q.data, ?_⟩
    simpa [Registry.allPassed] using hfailed

/-- The first gate that a request does not pass decides the answer; one that passes all of them is
answered with the document that the policies left. -/
theorem process_gates (e : Engine) (q : Request) :
    ((∃ fault, e.process q = .error fault ∧ fault.kind = ProcessFault.malformed.kind) ↔ ¬ q.data.IsObject) ∧
    (q.data.IsObject →
      (∀ found, e.process q = .error (.requestRejected found) ↔ Breaks e.requestSchema q.data found) ∧
      (∀ found, Breaks e.requestSchema q.data found → ∀ policies names,
        process { e with policies } { q with policies := names } = .error (.requestRejected found)) ∧
      (Fits e.requestSchema q.data →
        ((∃ results, e.process q = .error (.policiesFailed results)) ↔ e.FailsOn q) ∧
        (∀ results, e.process q = .error (.policiesFailed results) →
          results = (e.policies.execute q.policies q.data).1 ∧ results.map PolicyResult.name = q.policies ∧
            ∃ result ∈ results, result.passed = false) ∧
        (¬ e.FailsOn q →
          (∀ found, e.process q = .error (.responseRejected found) ↔
            Breaks e.responseSchema (e.processed q) found) ∧
          (Fits e.responseSchema (e.processed q) →
            e.process q = .ok ⟨q.id ++ "-response", e.processed q⟩ ∧ (e.processed q).IsObject)))) := by
  refine ⟨?malformed, fun data => ⟨fun found => ?request, fun found hbreaks policies names => ?unrun, fun request =>
    ⟨?policies, fun results => results_of_policiesFailed, fun policies => ⟨fun found => ?response, ?answered⟩⟩⟩⟩
  all_goals simp only [process_eq_iff_goes]
  case malformed =>
    constructor
    · rintro ⟨fault, hgoes, hkind⟩
      cases hgoes with
      | malformed hdata => exact hdata
      | _ => exact absurd hkind (by simp [ProcessFault.kind])
    · exact fun hdata => ⟨_, .malformed hdata, rfl⟩
  case request =>
    constructor
    · intro hgoes
      cases hgoes with
      | requestRejected _ hbreaks => exact hbreaks
    · exact .requestRejected data
  case unrun => exact .requestRejected data hbreaks
  case policies =>
    constructor
    · rintro ⟨results, hgoes⟩
      cases hgoes with
      | policiesFailed _ _ hpolicies => exact hpolicies
    · exact fun hpolicies => ⟨_, .policiesFailed data request hpolicies⟩
  case response =>
    constructor
    · intro hgoes
      cases hgoes with
      | responseRejected _ _ _ hbreaks => exact hbreaks
    · exact .responseRejected data request policies
  case answered => exact fun hfits => ⟨.answered data request policies hfits, isObject_processed data⟩

/-- A request that fits and whose policies pass, the second on what the first wrote; the total that they leave is
refused. -/
theorem process_gates_total :
    let positive := Value.object [("required", .array [.string "price"])]
    let bounded := Value.object [("properties", .object [("total", .object [("maximum", .number 100)])])]
    let e : Engine := ⟨.ofSource [("total", ["SET $.total = EXP($.price * 2)"]), ("check", ["$.total > 1"])],
      some (.load positive), some (.load bounded)⟩
    let q : Request := ⟨"7", none, none, .object [("price", .number 60)], ["total", "check"]⟩
    q.data.IsObject ∧ Fits e.requestSchema q.data ∧ ¬ e.FailsOn q ∧
      (∃ found, Breaks e.responseSchema (e.processed q) found ∧ e.process q = .error (.responseRejected found)) := by
  intro positive bounded e q
  have data : q.data.IsObject := ⟨_, rfl⟩
  have request : Fits e.requestSchema q.data := violations_eq_nil_iff.1 (List.isEmpty_iff.1 (by decide +kernel))
  have policies : ¬ e.FailsOn q := by
    intro hfails
    have hfailed := (e.policies.allPassed_execute_eq_false_iff q.policies q.data).2 hfails
    have hpassed : Registry.allPassed (e.policies.execute q.policies q.data).1 = true := by decide +kernel
    rw [hpassed] at hfailed
    cases hfailed
  have hfound : (violations e.responseSchema (e.processed q)).isEmpty = false := by decide +kernel
  have hbreaks := breaks_violations (List.isEmpty_eq_false_iff.1 hfound)
  obtain ⟨-, hgates⟩ := process_gates e q
  obtain ⟨-, -, hpipeline⟩ := hgates data
  obtain ⟨-, -, hresponse⟩ := hpipeline request
  exact ⟨data, request, policies, _, hbreaks, ((hresponse policies).1 _).2 hbreaks⟩

end Engine

end PolicyEngine
