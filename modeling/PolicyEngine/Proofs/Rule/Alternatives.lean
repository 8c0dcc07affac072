import PolicyEngine.Rule.Evaluation

/-! Chains of alternatives. However rules in a row are put into `OR` rules, they are tried one after the other, each on
the document that the ones before it left, up to the first that is decisive because it holds or fails. That rule gives
the verdict and the document; no rule behind it is run. -/
namespace PolicyEngine

namespace Outcome

/-- An alternative that passes or fails is the last one that is tried. -/
def Decisive (o : Outcome) : Prop := o.passed = true ∨ o.error?.isSome = true

instance (o : Outcome) : Decidable o.Decisive := inferInstanceAs (Decidable (_ ∨ _))

variable {o o' : Outcome}

theorem not_decisive_iff : ¬ o.Decisive ↔ o.verdict = .ok false := by
  unfold Decisive passed error?
  cases o.verdict with
  | error e => simp
  | ok b => simp

theorem decisive_congr (h : o.verdict = o'.verdict) : o.Decisive ↔ o'.Decisive := by
  unfold Decisive passed error?
  rw [h]

end Outcome

namespace Rule

/-- The ways of putting rules in a row into `OR` rules. -/
inductive Nests : List Rule → Rule → Prop
  | single (rule : Rule) : Nests [rule] rule
  | or {first later : List Rule} {left right : Rule} (hleft : Nests first left) (hright : Nests later right) :
      Nests (first ++ later) (.or left right)

section

/-! Rules tried in turn. They are run on states of any kind: on documents, or on documents with notes beside them. -/

variable {σ τ : Type} (run : Rule → σ → Outcome × σ)

/-- The state after some rules, each run on the state that the ones before it left. -/
def stateAfter (rules : List Rule) (s : σ) : σ := rules.foldl (fun s rule => (run rule s).2) s

@[simp] theorem stateAfter_nil (s : σ) : stateAfter run [] s = s := rfl

@[simp] theorem stateAfter_cons (rule : Rule) (rest : List Rule) (s : σ) :
    stateAfter run (rule :: rest) s = stateAfter run rest (run rule s).2 := rfl

/-- The first of the rules that is decisive, or the last one where none is, and its place. -/
structure DecidesAt (rules : List Rule) (s : σ) (k : Nat) (rule : Rule) : Prop where
  place : rules[k]? = some rule
  decisive : (run rule (stateAfter run (rules.take k) s)).1.Decisive ∨ k + 1 = rules.length
  first : ∀ j < k, ∀ earlier, rules[j]? = some earlier → ¬ (run earlier (stateAfter run (rules.take j) s)).1.Decisive

/-- What comes of the last rule that is tried. -/
def tryInTurn : Rule → List Rule → σ → Outcome × σ
  | rule, [], s => run rule s
  | rule, next :: rest, s => if (run rule s).1.Decisive then run rule s else tryInTurn next rest (run rule s).2

variable {run} {first next rule : Rule} {rest others : List Rule} {s : σ} {k : Nat}

theorem decidesAt_zero_iff :
    DecidesAt run (first :: rest) s 0 rule ↔ first = rule ∧ ((run rule s).1.Decisive ∨ rest = []) := by
  constructor
  · rintro ⟨hplace, hdecisive, -⟩
    cases hplace
    exact ⟨rfl, hdecisive.imp_right fun hlast => by simpa using hlast⟩
  · rintro ⟨rfl, hdecisive⟩
    refine ⟨rfl, hdecisive.imp_right ?_, by simp⟩
    rintro rfl
    rfl

/-- Behind a rule that decides nothing, the search goes on in the state that it left. -/
theorem decidesAt_succ_iff : DecidesAt run (first :: rest) s (k + 1) rule ↔
    ¬ (run first s).1.Decisive ∧ DecidesAt run rest (run first s).2 k rule := by
  constructor
  · rintro ⟨hplace, hdecisive, hfirst⟩
    refine ⟨hfirst 0 (by omega) first rfl, hplace, ?_, ?_⟩
    · simpa using hdecisive
    · intro j hj earlier hearlier
      exact hfirst (j + 1) (by omega) earlier hearlier
  · rintro ⟨hgoes, hplace, hdecisive, hfirst⟩
    refine ⟨hplace, by simpa using hdecisive, ?_⟩
    intro j hj earlier hearlier
    cases j with
    | zero =>
      cases hearlier
      exact hgoes
    | succ j => exact hfirst j (by omega) earlier hearlier

theorem exists_decidesAt (run : Rule → σ → Outcome × σ) (first : Rule) (rest : List Rule) (s : σ) :
    ∃ k rule, DecidesAt run (first :: rest) s k rule := by
  induction rest generalizing first s with
  | nil => exact ⟨0, first, decidesAt_zero_iff.2 ⟨rfl, .inr rfl⟩⟩
  | cons next rest ih =>
    by_cases hdecisive : (run first s).1.Decisive
    · exact ⟨0, first, decidesAt_zero_iff.2 ⟨rfl, .inl hdecisive⟩⟩
    · obtain ⟨k, rule, hrule⟩ := ih next (run first s).2
      exact ⟨k + 1, rule, decidesAt_succ_iff.2 ⟨hdecisive, hrule⟩⟩

/-- Rules in turn give what the deciding one gives, on the state before it. -/
theorem DecidesAt.tryInTurn_eq (h : DecidesAt run (first :: rest) s k rule) :
    tryInTurn run first rest s = run rule (stateAfter run ((first :: rest).take k) s) ∧
      (tryInTurn run first rest s).2 = stateAfter run ((first :: rest).take (k + 1)) s := by
  induction rest generalizing first s k with
  | nil =>
    cases k with
    | zero =>
      obtain ⟨rfl, -⟩ := decidesAt_zero_iff.1 h
      exact ⟨rfl, rfl⟩
    | succ k => cases (decidesAt_succ_iff.1 h).2.place
  | cons next rest ih =>
    cases k with
    | zero =>
      obtain ⟨rfl, hdecisive | hnil⟩ := decidesAt_zero_iff.1 h
      · simp [tryInTurn, hdecisive]
      · cases hnil
    | succ k =>
      obtain ⟨hgoes, hrest⟩ := decidesAt_succ_iff.1 h
      rw [tryInTurn, if_neg hgoes]
      exact ih hrest

theorem tryInTurn_append (first : Rule) (rest : List Rule) (next : Rule) (others : List Rule) (s : σ) :
    tryInTurn run first (rest ++ next :: others) s =
      if (tryInTurn run first rest s).1.Decisive then tryInTurn run first rest s
      else tryInTurn run next others (tryInTurn run first rest s).2 := by
  induction rest generalizing first s with
  | nil => rfl
  | cons second rest ih =>
    rw [List.cons_append, tryInTurn, tryInTurn, ih]
    by_cases hdecisive : (run first s).1.Decisive
    · simp only [if_pos hdecisive]
    · simp only [if_neg hdecisive]

/-! `OR` rules over states -/

/-- The evaluation of `OR` rules, where all other rules are run in some given way on states of some kind. -/
def evaluateOver (run : Rule → σ → Outcome × σ) : Rule → σ → Outcome × σ
  | .or left right, s =>
    let (l, after) := left.evaluateOver run s
    match l.verdict with
    | .error e => (⟨.error e, s!"OR left side error ('{left.render}'): {l.details}"⟩, after)
    | .ok true => (⟨.ok true, s!"({l.details}) OR ('{right.render}' not evaluated) -> true"⟩, after)
    | .ok false =>
      let (r, later) := right.evaluateOver run after
      (alternativeOutcome right l r, later)
  | rule, s => run rule s

/-- On documents, it is the evaluation of rules. -/
theorem evaluateOver_evaluate (rule : Rule) (doc : Value) : rule.evaluateOver evaluate doc = rule.evaluate doc := by
  induction rule generalizing doc with
  | or left right ihl ihr =>
    have hright : right.evaluateOver evaluate = right.evaluate := funext ihr
    rw [evaluateOver, evaluate, ihl, hright]
    rfl
  | _ => rfl

/-- What is kept beside the documents changes nothing. -/
theorem evaluateOver_project (project : σ → τ) {run : Rule → σ → Outcome × σ} {run' : Rule → τ → Outcome × τ}
    (h : ∀ rule s, run' rule (project s) = ((run rule s).1, project (run rule s).2)) (rule : Rule) (s : σ) :
    rule.evaluateOver run' (project s) = ((rule.evaluateOver run s).1, project (rule.evaluateOver run s).2) := by
  induction rule generalizing s with
  | or left right ihl ihr =>
    rw [evaluateOver, evaluateOver, ihl]
    dsimp only
    split
    · rfl
    · rfl
    · rw [ihr]
  | _ => exact h _ s

theorem alternativeOutcome_verdict (right : Rule) (l r : Outcome) :
    (alternativeOutcome right l r).verdict = r.verdict := by
  unfold alternativeOutcome
  cases r.verdict <;> rfl

/-- An `OR` ends with its left side if that is decisive. -/
theorem evaluateOver_or_of_decisive (run : Rule → σ → Outcome × σ) {left : Rule} (right : Rule) {s : σ}
    (h : (left.evaluateOver run s).1.Decisive) :
    ((Rule.or left right).evaluateOver run s).1.verdict = (left.evaluateOver run s).1.verdict ∧
      ((Rule.or left right).evaluateOver run s).2 = (left.evaluateOver run s).2 := by
  rw [evaluateOver]
  dsimp only
  split
  · next hverdict => exact ⟨hverdict.symm, rfl⟩
  · next hverdict => exact ⟨hverdict.symm, rfl⟩
  · next hverdict => exact absurd h (Outcome.not_decisive_iff.2 hverdict)

/-- Otherwise it goes on with its right side. -/
theorem evaluateOver_or_of_not_decisive (run : Rule → σ → Outcome × σ) {left : Rule} (right : Rule) {s : σ}
    (h : ¬ (left.evaluateOver run s).1.Decisive) :
    ((Rule.or left right).evaluateOver run s).1.verdict =
        (right.evaluateOver run (left.evaluateOver run s).2).1.verdict ∧
      ((Rule.or left right).evaluateOver run s).2 = (right.evaluateOver run (left.evaluateOver run s).2).2 := by
  rw [evaluateOver]
  simp only [Outcome.not_decisive_iff.1 h]
  exact ⟨alternativeOutcome_verdict _ _ _, trivial⟩

/-- On documents, an `OR` ends with its left side if that holds or fails. -/
theorem evaluate_or_of_ne {left : Rule} (right : Rule) {doc : Value} (h : (left.evaluate doc).1.verdict ≠ .ok false) :
    ((Rule.or left right).evaluate doc).1.verdict = (left.evaluate doc).1.verdict ∧
      ((Rule.or left right).evaluate doc).2 = (left.evaluate doc).2 := by
  have hdecisive : (left.evaluate doc).1.Decisive := Decidable.not_not.1 (mt Outcome.not_decisive_iff.1 h)
  rw [← evaluateOver_evaluate left] at hdecisive
  have hleft := evaluateOver_or_of_decisive evaluate right hdecisive
  rwa [evaluateOver_evaluate, evaluateOver_evaluate] at hleft

theorem evaluate_or_of_false {left : Rule} (right : Rule) {doc : Value}
    (h : (left.evaluate doc).1.verdict = .ok false) :
    ((Rule.or left right).evaluate doc).1.verdict = (right.evaluate (left.evaluate doc).2).1.verdict ∧
      ((Rule.or left right).evaluate doc).2 = (right.evaluate (left.evaluate doc).2).2 := by
  have hdecisive : ¬ (left.evaluate doc).1.Decisive := Outcome.not_decisive_iff.2 h
  rw [← evaluateOver_evaluate left] at hdecisive
  have hright := evaluateOver_or_of_not_decisive evaluate right hdecisive
  rwa [evaluateOver_evaluate, evaluateOver_evaluate, evaluateOver_evaluate] at hright

/-- However they are nested, alternatives come to what they come to in turn; only the traces tell the ways of nesting
apart. -/
theorem Nests.evaluateOver_eq {rules : List Rule} (h : Nests rules rule) (run : Rule → σ → Outcome × σ) :
    ∃ first rest, rules = first :: rest ∧ ∀ s,
      (rule.evaluateOver run s).1.verdict = (tryInTurn (evaluateOver run) first rest s).1.verdict ∧
        (rule.evaluateOver run s).2 = (tryInTurn (evaluateOver run) first rest s).2 := by
  induction h with
  | single rule => exact ⟨rule, [], rfl, fun s => ⟨rfl, rfl⟩⟩
  | @or _ _ left right _ _ ihl ihr =>
    obtain ⟨first, rest, rfl, hleft⟩ := ihl
    obtain ⟨next, others, rfl, hright⟩ := ihr
    refine ⟨first, rest ++ next :: others, rfl, fun s => ?_⟩
    have hsame := Outcome.decisive_congr (hleft s).1
    rw [tryInTurn_append]
    by_cases hdecisive : (left.evaluateOver run s).1.Decisive
    · obtain ⟨hverdict, hstate⟩ := evaluateOver_or_of_decisive run right hdecisive
      rw [hverdict, hstate, if_pos (hsame.1 hdecisive)]
      exact hleft s
    · obtain ⟨hverdict, hstate⟩ := evaluateOver_or_of_not_decisive run right hdecisive
      rw [hverdict, hstate, if_neg (mt hsame.2 hdecisive), (hleft s).2]
      exact hright _

end

/-! Notes -/

/-- A rule is run on a document, and noted with it behind the notes made before. -/
def evaluateNoted (rule : Rule) (s : Value × List (Rule × Value)) : Outcome × (Value × List (Rule × Value)) :=
  ((rule.evaluate s.1).1, (rule.evaluate s.1).2, s.2 ++ [(rule, s.1)])

/-- The evaluation of a rule that notes which rules other than `OR` are run, each with its document. -/
def evaluateNoting : Rule → Value × List (Rule × Value) → Outcome × (Value × List (Rule × Value)) :=
  evaluateOver evaluateNoted

/-- Without the notes, it is the evaluation of rules. -/
theorem evaluateNoting_eq (rule : Rule) (s : Value × List (Rule × Value)) :
    rule.evaluate s.1 = ((rule.evaluateNoting s).1, (rule.evaluateNoting s).2.1) := by
  rw [← evaluateOver_evaluate]
  exact evaluateOver_project Prod.fst (fun _ _ => rfl) rule s

theorem stateAfter_noting (rules : List Rule) (s : Value × List (Rule × Value)) :
    (stateAfter evaluateNoting rules s).1 = stateAfter evaluate rules s.1 := by
  induction rules generalizing s with
  | nil => rfl
  | cons rule rest ih => rw [stateAfter_cons, stateAfter_cons, ih, evaluateNoting_eq]

theorem DecidesAt.noting {rules : List Rule} {doc : Value} {k : Nat} {rule : Rule}
    (h : DecidesAt evaluate rules doc k rule) (notes : List (Rule × Value)) :
    DecidesAt evaluateNoting rules (doc, notes) k rule := by
  have houtcome : ∀ (rule : Rule) (rules : List Rule),
      (rule.evaluateNoting (stateAfter evaluateNoting rules (doc, notes))).1 =
        (rule.evaluate (stateAfter evaluate rules doc)).1 := by
    intro rule rules
    have hdoc := stateAfter_noting rules (doc, notes)
    rw [← hdoc, evaluateNoting_eq]
  refine ⟨h.place, ?_, ?_⟩
  · rw [houtcome]
    exact h.decisive
  · intro j hj earlier hearlier
    rw [houtcome]
    exact h.first j hj earlier hearlier

/-- Alternatives nested in any way come to what the first decisive one comes to, on the document that the ones before
it left, or to what the last one comes to if none is decisive. The rules that are run are those up to that one, in
their order and each on its document. -/
theorem evaluate_nested {rules : List Rule} {rule : Rule} (h : Nests rules rule) (doc : Value) :
    (∃ k r, DecidesAt evaluate rules doc k r) ∧ ∀ k r, DecidesAt evaluate rules doc k r →
      (rule.evaluate doc).1.passed = (r.evaluate (stateAfter evaluate (rules.take k) doc)).1.passed ∧
      (rule.evaluate doc).1.error? = (r.evaluate (stateAfter evaluate (rules.take k) doc)).1.error? ∧
      (rule.evaluate doc).2 = stateAfter evaluate (rules.take (k + 1)) doc ∧
      (rule.evaluateNoting (doc, [])).2 = stateAfter evaluateNoting (rules.take (k + 1)) (doc, []) := by
  obtain ⟨first, rest, rfl, hnested⟩ := h.evaluateOver_eq evaluateNoted
  refine ⟨exists_decidesAt evaluate first rest doc, fun k r hdecides => ?_⟩
  obtain ⟨hverdict, hstate⟩ := hnested (doc, [])
  obtain ⟨hlast, hafter⟩ := (hdecides.noting []).tryInTurn_eq
  change (rule.evaluateNoting (doc, [])).1.verdict =
    (tryInTurn evaluateNoting first rest (doc, [])).1.verdict at hverdict
  change (rule.evaluateNoting (doc, [])).2 = (tryInTurn evaluateNoting first rest (doc, [])).2 at hstate
  rw [hafter] at hstate
  have hsame : (rule.evaluate doc).1.verdict =
      (r.evaluate (stateAfter evaluate ((first :: rest).take k) doc)).1.verdict := by
    rw [evaluateNoting_eq rule (doc, []), hverdict, hlast, ← stateAfter_noting _ (doc, []), evaluateNoting_eq r]
  have hdoc : (rule.evaluate doc).2 = stateAfter evaluate ((first :: rest).take (k + 1)) doc := by
    rw [evaluateNoting_eq rule (doc, []), hstate, stateAfter_noting]
  refine ⟨?_, ?_, hdoc, hstate⟩
  · simp only [Outcome.passed, hsame]
  · simp only [Outcome.error?, hsame]

/-- Three alternatives, nested to the left and to the right: the second passes and writes, the third is not run. -/
theorem evaluate_nested_second :
    let unmet := Rule.nullCheck ⟨"a", []⟩ true
    let write := Rule.set ⟨"b", []⟩ (.literal (.bool true))
    let unreached := Rule.set ⟨"c", []⟩ (.literal (.bool true))
    let doc := Value.object []
    DecidesAt evaluate [unmet, write, unreached] doc 1 write ∧
      ((Rule.or (.or unmet write) unreached).evaluate doc).1.passed = true ∧
      ((Rule.or unmet (.or write unreached)).evaluate doc).2 = .object [("b", .bool true)] ∧
      ((Rule.or (.or unmet write) unreached).evaluateNoting (doc, [])).2.2 = [(unmet, doc), (write, doc)] := by
  intro unmet write unreached doc
  have hleft : Nests ([unmet] ++ [write] ++ [unreached]) (.or (.or unmet write) unreached) :=
    .or (.or (.single _) (.single _)) (.single _)
  have hright : Nests ([unmet] ++ ([write] ++ [unreached])) (.or unmet (.or write unreached)) :=
    .or (.single _) (.or (.single _) (.single _))
  have hdecides : DecidesAt evaluate [unmet, write, unreached] doc 1 write := by
    apply decidesAt_succ_iff.2
    refine ⟨by decide +kernel, decidesAt_zero_iff.2 ⟨rfl, .inl ?_⟩⟩
    decide +kernel
  obtain ⟨hpassed, -, -, hnotes⟩ := (evaluate_nested hleft doc).2 1 write hdecides
  obtain ⟨-, -, hdoc, -⟩ := (evaluate_nested hright doc).2 1 write hdecides
  refine ⟨hdecides, hpassed.trans ?_, hdoc.trans ?_, (congrArg Prod.snd hnotes).trans ?_⟩
  · decide +kernel
  · rfl
  · rfl

end Rule

end PolicyEngine
