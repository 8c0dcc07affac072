import Mathlib.Data.Set.Card
import PolicyEngine.Policy.Source
import PolicyEngine.Proofs.Fields

/-! Definitions of policies. Changes to a registry put a policy in, or merge in what a source defines. Under a name
stands the policy of the last change that defined it, with all its rules and none of an earlier definition; so a
registry is told by the definitions it was made from, and merging in turn is merging what was merged. -/
namespace PolicyEngine

/-- The formats of policy sources. -/
inductive SourceFormat where
  | json
  | yaml

namespace SourceFormat

def load : SourceFormat → String → Except SourceFault Registry
  | json => Registry.ofJson
  | yaml => Registry.ofYaml

end SourceFormat

/-- What changes a registry: a policy that is put in, or what a source defines, merged in. -/
inductive Change where
  | insert (policy : Policy)
  | merge (format : SourceFormat) (text : String) (loaded : Registry) (read : format.load text = .ok loaded)

namespace Change

end Change

/-! Policies of a source -/

namespace Registry

theorem ext {r s : Registry} (h : r.entries = s.entries) : r = s := by
  cases r
  cases s
  cases h
  rfl

def apply (r : Registry) : Change → Registry
  | .insert p => r.insert p
  | .merge _ _ loaded _ => r.merge loaded

end Registry

namespace Change

end Change

namespace Registry

end Registry

end PolicyEngine
