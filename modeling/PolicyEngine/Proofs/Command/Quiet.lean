import PolicyEngine.Proofs.Command.Flags
import PolicyEngine.Proofs.Command.Status

/-! Quiet runs. Of the ways in which a command can fail, all but one leave nothing on the error channel when quiet is
asked for. A document that does not conform to its schema is reported there all the same where the output is JSON. -/
namespace PolicyEngine

namespace Transcript

theorem textOf_eq_empty_iff {lines : List String} : textOf lines = "" ↔ lines = [] := by
  cases lines with
  | nil => exact iff_of_true rfl rfl
  | cons line rest =>
    have hend : '\n' ∈ (textOf (line :: rest)).toList := by simp [textOf, String.join_cons]
    refine iff_of_false (fun h => ?_) (List.cons_ne_nil line rest)
    rw [h] at hend
    cases hend

/-- A transcript that reports the violations of which `p` holds, in JSON, and nothing where there are none. -/
def Reports (t : Transcript) (p : List Violation → Prop) : Prop :=
  (∀ violations, p violations → t.err = [(Invocation.rejectedJson violations).sorted.pretty]) ∧
    ((∀ violations, ¬ p violations) → t.err = [])

namespace Reports

variable {t : Transcript} {p q : List Violation → Prop}

theorem congr (h : t.Reports p) (hpq : ∀ violations, p violations ↔ q violations) : t.Reports q := by
  obtain rfl : p = q := funext fun violations => propext (hpq violations)
  exact h

theorem silent (h : t.err = []) (hp : ∀ violations, ¬ p violations) : t.Reports p :=
  ⟨fun violations hv => absurd hv (hp violations), fun _ => h⟩

theorem errText_eq_empty_iff (h : t.Reports p) : t.errText = "" ↔ ∀ violations, ¬ p violations := by
  rw [errText, textOf_eq_empty_iff]
  refine ⟨fun hempty violations hv => ?_, h.2⟩
  rw [h.1 violations hv] at hempty
  cases hempty

end Reports

end Transcript

namespace Invocation

variable {inv : Invocation} {files : Files}

/-- The violations that a command reports in JSON: those of a document that loads, by a schema that loads. -/
inductive RejectsInJson (files : Files) : Invocation → List Violation → Prop
  | validate {quiet : Bool} {name schemaName : String} {s : Schema} {doc : Value}
      (schema : files.LoadsSchema schemaName s) (document : files.LoadsDocument name doc) (invalid : s.validate doc ≠ []) :
      RejectsInJson files ⟨.json, quiet, .validate name schemaName⟩ (s.validate doc)

theorem rejectsInJson_iff {output : OutputFormat} {quiet : Bool} {name schemaName : String}
    {violations : List Violation} :
    RejectsInJson files ⟨output, quiet, .validate name schemaName⟩ violations ↔
      ∃ s, files.LoadsSchema schemaName s ∧ ∃ doc, files.LoadsDocument name doc ∧ s.validate doc = violations ∧
        output = .json ∧ violations ≠ [] := by
  constructor
  · rintro ⟨schema, document, invalid⟩
    exact ⟨_, schema, _, document, rfl, rfl, invalid⟩
  · rintro ⟨s, schema, doc, document, rfl, rfl, invalid⟩
    exact .validate schema document invalid

section

variable (hquiet : inv.quiet = true)

include hquiet

theorem unlessQuiet_of_quiet (lines : List String) : inv.unlessQuiet lines = [] := if_pos hquiet

/-! The error channel at each end of a command -/

theorem err_failed (message : String) : (inv.failed message).err = [] := unlessQuiet_of_quiet hquiet _

theorem err_processed (now : String) (answer : Except ProcessFault Response) :
    (inv.processed now answer).err = [] := by
  unfold processed
  cases answer with
  | ok response => rfl
  | error fault =>
    cases inv.output with
    | text => exact err_failed hquiet fault.message
    | json => exact unlessQuiet_of_quiet hquiet _

theorem reports_validated (violations : List Violation) :
    (inv.validated violations).Reports fun reported =>
      violations = reported ∧ inv.output = .json ∧ reported ≠ [] := by
  unfold validated Transcript.Reports
  cases violations <;> cases inv.output <;> simp [unlessQuiet_of_quiet hquiet]

theorem reports_finish {α : Type} {work : α → Transcript} {bad : α → List Violation → Prop}
    (hwork : ∀ a, (work a).Reports (bad a)) (setup : Setup α) :
    ((inv.finish work setup).result files).Reports fun violations =>
      ∃ a, setup.Gives files a ∧ bad a violations := by
  unfold Setup.Gives
  cases hresult : setup.run.result files with
  | ok a =>
    rw [result_finish_ok hresult]
    exact (hwork a).congr (by simp)
  | error fault =>
    rw [result_finish_error hresult]
    exact .silent (err_failed hquiet fault.message) (by simp)

theorem silent_finish {α : Type} {work : α → Transcript} (hwork : ∀ a, (work a).err = []) (setup : Setup α) :
    ((inv.finish work setup).result files).err = [] := by
  have hreports : ((inv.finish work setup).result files).Reports fun _ => ∃ a, setup.Gives files a ∧ False :=
    reports_finish hquiet (fun a => .silent (hwork a) fun _ => id) setup
  exact hreports.2 (by simp)

theorem reports_run (hcommand : inv.command.isService = false) (now : String) :
    ((inv.run now).result files).Reports (RejectsInJson files inv) := by
  obtain ⟨output, quiet, command⟩ := inv
  cases command with
  | process request options => exact .silent (silent_finish hquiet (err_processed hquiet now) _) nofun
  | check rule data =>
    cases data with
    | none => exact .silent rfl nofun
    | some name => exact .silent (silent_finish hquiet (fun _ => rfl) _) nofun
  | validate name schemaName =>
    refine (reports_finish hquiet (reports_validated hquiet) _).congr fun violations => ?_
    simp only [rejectsInJson_iff, Setup.gives_bind_iff, Setup.gives_schema_iff, Setup.gives_document_iff,
      Setup.gives_pure_iff]
    constructor
    · rintro ⟨_, ⟨s, hschema, doc, hdoc, rfl⟩, rfl, hjson, hinvalid⟩
      exact ⟨s, hschema, doc, hdoc, rfl, hjson, hinvalid⟩
    · rintro ⟨s, hschema, doc, hdoc, rfl, hjson, hinvalid⟩
      exact ⟨_, ⟨s, hschema, doc, hdoc, rfl⟩, rfl, hjson, hinvalid⟩
  | serve tcpPort timeoutMs engine => cases hcommand

end

end Invocation

namespace CommandLine

/-- A line with the flag for quiet runs writes nothing to the error channel, whichever way its command ends, except
where a document does not conform to its schema and the output is JSON: then the violations are written there. -/
theorem quiet_silent_unless_rejected {args : List String} {inv : Invocation}
    (haccepted : Invocation.ofArguments args = .ok inv) (hcommand : inv.command.isService = false)
    (hquiet : "--quiet" ∈ Arguments.beforeMark args) (files : Files) (now : String) :
    (((run args now).result files).errText = "" ↔ ∀ violations, ¬ inv.RejectsInJson files violations) ∧
      ∀ violations, inv.RejectsInJson files violations →
        ((run args now).result files).err = [(Invocation.rejectedJson violations).sorted.pretty] := by
  have hreports : ((run args now).result files).Reports (inv.RejectsInJson files) := by
    unfold run
    rw [haccepted]
    exact Invocation.reports_run ((Invocation.quiet_iff_mem haccepted).2 hquiet) hcommand now
  exact ⟨hreports.errText_eq_empty_iff, hreports.1⟩

/-- The line that validates an order, with JSON asked for. -/
def invalidJsonLine : List String := invalidLine ++ ["--output", "json"]

theorem quiet_silent_unless_rejected_orders :
    status invalidLine orderFiles "" = 1 ∧ ((run invalidLine "").result orderFiles).errText = "" ∧
    ∃ violations, Invocation.RejectsInJson orderFiles ⟨.json, true, .validate "order.json" "needs.json"⟩ violations ∧
      ((run invalidJsonLine "").result orderFiles).err = [(Invocation.rejectedJson violations).sorted.pretty] := by
  have htext : Invocation.ofArguments invalidLine = .ok ⟨.text, true, .validate "order.json" "needs.json"⟩ := by
    decide +kernel
  have hjson : Invocation.ofArguments invalidJsonLine = .ok ⟨.json, true, .validate "order.json" "needs.json"⟩ := by
    decide +kernel
  have hwritten : ((run invalidJsonLine "").result orderFiles).errText ≠ "" := by decide +kernel
  obtain ⟨hsilent, -⟩ := quiet_silent_unless_rejected htext rfl (by decide) orderFiles ""
  obtain ⟨hiff, hreported⟩ := quiet_silent_unless_rejected hjson rfl (by decide) orderFiles ""
  rw [Ne, hiff, not_forall_not] at hwritten
  obtain ⟨violations, hrejects⟩ := hwritten
  exact ⟨by decide +kernel, hsilent.2 nofun, violations, hrejects, hreported violations hrejects⟩

/-- The violations of the order are written in JSON, though the line is a quiet one. -/
theorem quiet_writes_rejection :
    Invocation.ofArguments invalidJsonLine = .ok ⟨.json, true, .validate "order.json" "needs.json"⟩ ∧
    "--quiet" ∈ Arguments.beforeMark invalidJsonLine ∧
    (run invalidJsonLine "").result orderFiles =
      ⟨1, [], [(Invocation.rejectedJson [⟨[], .missingProperty "price"⟩]).sorted.pretty]⟩ ∧
    ((run invalidJsonLine "").result orderFiles).errText ≠ "" := by
  have hresult : (run invalidJsonLine "").result orderFiles =
      ⟨1, [], [(Invocation.rejectedJson [⟨[], .missingProperty "price"⟩]).sorted.pretty]⟩ := by decide +kernel
  refine ⟨by decide +kernel, by decide, hresult, ?_⟩
  rw [hresult, Transcript.errText, Ne, Transcript.textOf_eq_empty_iff]
  exact List.cons_ne_nil _ _

end CommandLine

end PolicyEngine
