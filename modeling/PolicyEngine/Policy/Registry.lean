import PolicyEngine.Policy.Basic

/-! Policies under their names. A later definition of a name replaces the earlier one as a whole. -/
namespace PolicyEngine

/-- The policy of each defined name, in ascending order of names. A policy stands under its own name. -/
structure Registry where
  entries : List (String × Policy)
  ascending : Fields.Ascending entries
  named : ∀ p ∈ entries, p.2.name = p.1

namespace Registry

def empty : Registry := ⟨[], .nil, by simp⟩

theorem named_insert {entries : List (String × Policy)} (h : ∀ p ∈ entries, p.2.name = p.1) (policy : Policy) :
    ∀ p ∈ Fields.insert policy.name policy entries, p.2.name = p.1 := by
  intro p hp
  rcases Fields.mem_of_mem_insert hp with rfl | hp
  · rfl
  · exact h p hp

theorem named_merge {entries later : List (String × Policy)} (h : ∀ p ∈ entries, p.2.name = p.1)
    (hlater : ∀ p ∈ later, p.2.name = p.1) : ∀ p ∈ Fields.merge entries later, p.2.name = p.1 :=
  fun p hp => (Fields.mem_of_mem_merge hp).elim (h p) (hlater p)

def insert (r : Registry) (p : Policy) : Registry :=
  ⟨Fields.insert p.name p r.entries, r.ascending.insert p.name p, named_insert r.named p⟩

/-- The definitions of both, those of `later` winning. -/
def merge (r later : Registry) : Registry :=
  ⟨Fields.merge r.entries later.entries, r.ascending.merge later.entries, named_merge r.named later.named⟩

/-- Names with their rule texts, in the order of a source. -/
def ofSource (source : List (String × List String)) : Registry :=
  source.foldl (fun r p => r.insert (.ofTexts p.1 p.2)) empty

def get? (r : Registry) (name : String) : Option Policy := Fields.get? name r.entries

def toList (r : Registry) : List Policy := r.entries.map Prod.snd

def size (r : Registry) : Nat := r.entries.length

/-- Runs one named policy; an undefined name fails and leaves the document alone. -/
def executeName (r : Registry) (name : String) (doc : Value) : PolicyResult × Value :=
  match r.get? name with
  | some policy => policy.execute doc
  | none => (⟨name, some (.notDefined name), []⟩, doc)

/-- Runs the named policies in order, whatever becomes of each. -/
def execute (r : Registry) : List String → Value → List PolicyResult × Value
  | [], doc => ([], doc)
  | name :: rest, doc =>
    let (result, after) := r.executeName name doc
    let (results, final) := r.execute rest after
    (result :: results, final)

def allPassed (results : List PolicyResult) : Bool := results.all PolicyResult.passed

@[simp] theorem get?_empty (name : String) : empty.get? name = none := rfl

@[simp] theorem get?_insert_self (r : Registry) (p : Policy) : (r.insert p).get? p.name = some p := by
  simp [get?, insert]

theorem get?_insert_of_ne (r : Registry) (p : Policy) {name : String} (h : p.name ≠ name) :
    (r.insert p).get? name = r.get? name := by
  simp [get?, insert, Fields.get?_insert_of_ne h]

/-- What is found under a name has that name, whatever definitions it came from. -/
theorem name_of_get? {r : Registry} {name : String} {p : Policy} (h : r.get? name = some p) : p.name = name :=
  r.named _ (Fields.mem_of_get? h)

end Registry

end PolicyEngine
