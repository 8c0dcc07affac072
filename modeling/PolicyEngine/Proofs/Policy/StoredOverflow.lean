import PolicyEngine.Proofs.Policy.Action
import PolicyEngine.Proofs.Policy.Effect
import PolicyEngine.Proofs.Rule.Alternatives
import PolicyEngine.Proofs.Rule.Overflow

/-! Numbers of documents stay finite where nothing that overflows is stored. An assignment checks no result, so an
operation of an `EXP`, a sum or an average that overflows is written to the document as it is; nothing else brings in
a number that is not finite. -/
namespace PolicyEngine.Rule

variable {rule left right condition action : Rule} {target : Path} {value : Operand} {doc : Value} {found : Found}

/-- Whether, somewhere in a run, an assignment stores a number that is not finite, its value having overflowed. -/
inductive StoresOverflow : Rule → Value → Prop
  | set {target : Path} {value : Operand} {doc after : Value} {found : Found}
      (evaluated : setValue value doc = .ok found) (overflows : value.Overflows doc)
      (infinite : ¬ found.value.IsFinite) (written : doc.set target found.value = .ok after) :
      StoresOverflow (.set target value) doc
  | left {left right : Rule} {doc : Value} (h : StoresOverflow left doc) : StoresOverflow (.or left right) doc
  | right {left right : Rule} {doc : Value} (unmet : (left.evaluate doc).1.verdict = .ok false)
      (h : StoresOverflow right (left.evaluate doc).2) : StoresOverflow (.or left right) doc
  | condition {condition action : Rule} {doc : Value} (h : StoresOverflow condition doc) :
      StoresOverflow (.conditional condition action) doc
  | action {condition action : Rule} {doc : Value} (met : (condition.evaluate doc).1.verdict = .ok true)
      (h : StoresOverflow action (condition.evaluate doc).2) : StoresOverflow (.conditional condition action) doc

/-! One assignment -/

theorem isFinite_or_overflows_setValue (hvalue : value.IsCanonical) (hdoc : doc.IsFinite)
    (h : setValue value doc = .ok found) : found.value.IsFinite ∨ value.Overflows doc := by
  unfold setValue at h
  split at h
  · cases h
    cases hvalue with
    | literal scalar finite => exact .inl (Value.isFinite_of_isScalar scalar finite)
    | call call _ => cases call
  · exact hvalue.isFinite_or_overflows hdoc h

theorem isFinite_evaluateSet (hvalue : value.IsCanonical) (hdoc : doc.IsFinite) :
    (evaluateSet target value doc).2.IsFinite ∨ (set target value).StoresOverflow doc := by
  unfold evaluateSet
  split
  · exact .inl hdoc
  · next found hfound =>
    split
    · next after hset =>
      by_cases hfinite : found.value.IsFinite
      · exact .inl ((hdoc.setAt_iff hset).2 hfinite)
      · have hoverflows := (isFinite_or_overflows_setValue hvalue hdoc hfound).resolve_left hfinite
        exact .inr (.set hfound hoverflows hfinite hset)
    · exact .inl hdoc

/-! Runs -/

theorem document_conditional_of_ne (action : Rule) (h : (condition.evaluate doc).1.verdict ≠ .ok true) :
    ((conditional condition action).evaluate doc).2 = (condition.evaluate doc).2 := by
  rw [evaluate]
  unfold afterCondition
  dsimp only
  split
  · rfl
  · rfl
  · next hverdict => exact absurd hverdict h

theorem document_conditional_of_true (action : Rule) (h : (condition.evaluate doc).1.verdict = .ok true) :
    ((conditional condition action).evaluate doc).2 = (action.evaluate (condition.evaluate doc).2).2 := by
  rw [evaluate]
  unfold afterCondition
  simp only [h]

/-- By induction on the rule: the document that a part starts on is finite, or the part before it has stored an
overflow. -/
theorem isFinite_evaluate_or_stores (hcanonical : ∀ a ∈ rule.assignments, a.2.IsCanonical) (hdoc : doc.IsFinite) :
    (rule.evaluate doc).2.IsFinite ∨ rule.StoresOverflow doc := by
  induction rule generalizing doc with
  | or left right ihl ihr =>
    obtain ⟨hleft, hright⟩ := List.forall_mem_append.1 hcanonical
    rcases ihl hleft hdoc with hmid | hstores
    · by_cases hverdict : (left.evaluate doc).1.verdict = .ok false
      · rw [(evaluate_or_of_false right hverdict).2]
        exact (ihr hright hmid).imp_right (.right hverdict)
      · rw [(evaluate_or_of_ne right hverdict).2]
        exact .inl hmid
    · exact .inr (.left hstores)
  | set target value => exact isFinite_evaluateSet (hcanonical (target, value) List.mem_cons_self) hdoc
  | conditional condition action ihc iha =>
    obtain ⟨hcondition, haction⟩ := List.forall_mem_append.1 hcanonical
    rcases ihc hcondition hdoc with hmid | hstores
    · by_cases hverdict : (condition.evaluate doc).1.verdict = .ok true
      · rw [document_conditional_of_true action hverdict]
        exact (iha haction hmid).imp_right (.action hverdict)
      · rw [document_conditional_of_ne action hverdict]
        exact .inl hmid
    · exact .inr (.condition hstores)
  | nullCheck path negated => exact .inl hdoc
  | compare left op right => exact .inl hdoc

theorem StoresOverflow.assignments_ne_nil (h : rule.StoresOverflow doc) : rule.assignments ≠ [] := by
  induction h with
  | set => simp [assignments]
  | left _ ih => exact List.append_ne_nil_of_left_ne_nil ih _
  | right _ _ ih => exact List.append_ne_nil_of_right_ne_nil _ ih
  | condition _ ih => exact List.append_ne_nil_of_left_ne_nil ih _
  | action _ _ ih => exact List.append_ne_nil_of_right_ne_nil _ ih

/-- Where conditions only judge, the rule that stores an overflow passes and is the last that is run, so that the
overflow is in the document at the end. -/
theorem StoresOverflow.infinite_after (h : rule.StoresOverflow doc) (hpure : rule.judgesPurely = true) :
    (rule.evaluate doc).1.verdict = .ok true ∧ ¬ (rule.evaluate doc).2.IsFinite := by
  induction h with
  | set evaluated overflows infinite written =>
    rw [evaluate, evaluateSet, evaluated]
    dsimp only
    rw [written]
    exact ⟨rfl, fun hafter => infinite (hafter.getAt (Value.getAt_setAt written))⟩
  | @left left right doc _ ih =>
    obtain ⟨hleft, -⟩ := Bool.and_eq_true_iff.1 hpure
    obtain ⟨hverdict, hinfinite⟩ := ih hleft
    have hne : (left.evaluate doc).1.verdict ≠ .ok false := by simp [hverdict]
    obtain ⟨hsame, hdocument⟩ := evaluate_or_of_ne right hne
    rw [hsame, hdocument]
    exact ⟨hverdict, hinfinite⟩
  | @right left right _ unmet _ ih =>
    obtain ⟨-, hright⟩ := Bool.and_eq_true_iff.1 hpure
    obtain ⟨hsame, hdocument⟩ := evaluate_or_of_false right unmet
    rw [hsame, hdocument]
    exact ih hright
  | condition h _ =>
    obtain ⟨hcondition, -⟩ := Bool.and_eq_true_iff.1 hpure
    exact absurd (List.isEmpty_iff.1 hcondition) h.assignments_ne_nil
  | @action condition action _ met _ ih =>
    obtain ⟨-, haction⟩ := Bool.and_eq_true_iff.1 hpure
    rw [verdict_conditional, met, document_conditional_of_true action met]
    exact ih haction

/-- A run of a parsed rule on a document of finite numbers ends in such a document, unless it stores a number that has
overflowed; where conditions only judge, exactly then. -/
theorem isFinite_evaluate_unless_overflow {text : String} (hparse : parse text = .ok rule) (hdoc : doc.IsFinite) :
    (¬ rule.StoresOverflow doc → (rule.evaluate doc).2.IsFinite) ∧
      (rule.judgesPurely = true → ((rule.evaluate doc).2.IsFinite ↔ ¬ rule.StoresOverflow doc)) := by
  have hrun := isFinite_evaluate_or_stores (isCanonical_of_parse hparse).of_assignments hdoc
  refine ⟨hrun.resolve_right, fun hpure => ⟨fun hfinite hstores => ?_, hrun.resolve_right⟩⟩
  exact (hstores.infinite_after hpure).2 hfinite

/-- The same rule on two documents: an operation that overflows, and one that does not. -/
theorem isFinite_evaluate_unless_overflow_scaled : ∃ rule,
    parse "IF $.a > 0 THEN SET $.b = EXP($.a * 10)" = .ok rule ∧
      ¬ rule.StoresOverflow (.object [("a", .number 2)]) ∧ rule.StoresOverflow (.object [("a", .number 1e308)]) := by
  have hparse : (parse "IF $.a > 0 THEN SET $.b = EXP($.a * 10)").toOption.any (fun rule => rule.judgesPurely &&
      decide (rule.evaluate (.object [("a", .number 2)])).2.IsFinite &&
      !decide (rule.evaluate (.object [("a", .number 1e308)])).2.IsFinite) = true := by decide +kernel
  obtain ⟨rule, hparse, hfacts⟩ := exists_eq_ok_of_any hparse
  simp only [Bool.and_eq_true, Bool.not_eq_true', decide_eq_true_eq, decide_eq_false_iff_not] at hfacts
  obtain ⟨⟨hpure, hfinite⟩, hinfinite⟩ := hfacts
  obtain ⟨-, hsmall⟩ := isFinite_evaluate_unless_overflow hparse
    (show (Value.object [("a", .number 2)]).IsFinite by decide +kernel)
  obtain ⟨-, hlarge⟩ := isFinite_evaluate_unless_overflow hparse
    (show (Value.object [("a", .number 1e308)]).IsFinite by decide +kernel)
  exact ⟨rule, hparse, (hsmall hpure).1 hfinite, not_not.1 fun hstores => hinfinite ((hlarge hpure).2 hstores)⟩

/-- The number that an `EXP` has overflowed to is in the document. -/
theorem stores_overflow_exp : ∃ rule, parse "SET $.x = EXP(1e308 * 10)" = .ok rule ∧ (Value.object []).IsFinite ∧
    ¬ (rule.evaluate (.object [])).2.IsFinite := by
  have hparse : (parse "SET $.x = EXP(1e308 * 10)").toOption.any (fun rule =>
      !decide (rule.evaluate (.object [])).2.IsFinite) = true := by decide +kernel
  obtain ⟨rule, hparse, hinfinite⟩ := exists_eq_ok_of_any hparse
  rw [Bool.not_eq_true', decide_eq_false_iff_not] at hinfinite
  exact ⟨rule, hparse, by decide, hinfinite⟩

end PolicyEngine.Rule
