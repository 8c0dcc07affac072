import PolicyEngine.Proofs.Path.Frame
import PolicyEngine.Proofs.Policy.Invariant

/-! The frame of policies: what lies apart from the targets of all their `SET` rules is found after a run as it
was found before, whichever rules were reached, held or failed. -/
namespace PolicyEngine

/-- The targets of all `SET` rules that stand in a rule, reached or not. -/
def PolicyRule.targets (r : PolicyRule) : List Path := r.assignments.map Prod.fst

/-- The targets of all `SET` rules under a name, none if it is not defined. -/
def Registry.targets (r : Registry) (name : String) : List Path := (r.rulesOf name).flatMap PolicyRule.targets

theorem get_evaluateSet_of_apart {target q : Path} (h : Apart target.segments q.segments) (value : Operand)
    {doc found : Value} (hget : doc.get q = .ok (some found)) :
    (Rule.evaluateSet target value doc).2.get q = .ok (some found) := by
  unfold Rule.evaluateSet
  split
  · exact hget
  · split
    · next after hset => exact Value.getAt_setAt_of_apart h hset hget
    · exact hget

namespace Registry

theorem mem_targets {r : Registry} {name : String} {a : Path × Operand}
    (h : a ∈ (r.rulesOf name).flatMap PolicyRule.assignments) : a.1 ∈ r.targets name := by
  obtain ⟨rule, hrule, ha⟩ := List.mem_flatMap.1 h
  exact List.mem_flatMap.2 ⟨rule, hrule, List.mem_map_of_mem ha⟩

/-- Policies write at the targets of their `SET` rules and nowhere else. -/
theorem get_execute_of_apart {r : Registry} {names : List String} {q : Path}
    (hapart : ∀ name ∈ names, ∀ target ∈ r.targets name, Apart target.segments q.segments) {doc found : Value}
    (hget : doc.get q = .ok (some found)) : (r.execute names doc).2.get q = .ok (some found) := by
  apply Keeps.execute (P := fun doc => doc.get q = .ok (some found)) _ hget
  intro name hname a ha doc hdoc
  exact get_evaluateSet_of_apart (hapart name hname a.1 (mem_targets ha)) a.2 hdoc

/-- One policy writes a sibling key, pads the array and then fails on a scalar; the other is not defined. -/
theorem get_execute_second_item :
    let r := empty.insert (.ofTexts "price"
      ["SET $.order.items[3].price = 5", "IF $.total > 1 THEN SET $.order.note = 'x'", "SET $.total.net = 2"])
    let q : Path := ⟨"order", [.key "items", .index 1]⟩
    let doc := Value.object [("order", .object [("items", .array [.null, .string "b"])]), ("total", .number 7)]
    (∀ name ∈ ["price", "none"], ∀ target ∈ r.targets name, Apart target.segments q.segments) ∧
      doc.get q = .ok (some (.string "b")) ∧
      (r.execute ["price", "none"] doc).2.get q = .ok (some (.string "b")) := by
  intro r q doc
  have hapart : ∀ name ∈ ["price", "none"], ∀ target ∈ r.targets name, Apart target.segments q.segments := by
    decide +kernel
  have hget : doc.get q = .ok (some (.string "b")) := rfl
  exact ⟨hapart, hget, get_execute_of_apart hapart hget⟩

end Registry

end PolicyEngine
