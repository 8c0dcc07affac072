import PolicyEngine.Command.Run
import PolicyEngine.Proofs.Command.Arguments
import PolicyEngine.Proofs.Command.Loading

/-! The status that a command ends with. It is 0 where everything that the command asks for loads and its work
succeeds, and 1 otherwise; how the output is to look has no part in it. -/
namespace PolicyEngine

namespace Command

def isService : Command → Bool
  | .serve .. => true
  | _ => false

end Command

namespace Transcript

/-- A transcript with the status 0 where `p` holds, and with the status 1 elsewhere. -/
def Tells (t : Transcript) (p : Prop) : Prop := (p → t.status = 0) ∧ (¬ p → t.status = 1)

theorem Tells.congr {t : Transcript} {p q : Prop} (h : t.Tells p) (hpq : p ↔ q) : t.Tells q :=
  ⟨fun hq => h.1 (hpq.2 hq), fun hq => h.2 (mt hpq.1 hq)⟩

end Transcript

namespace Invocation

variable {inv : Invocation} {files : Files}

/-! What is left at each end of a command -/

section

variable {α : Type} {work : α → Transcript} {setup : Setup α}

theorem result_finish_ok {a : α} (h : setup.run.result files = .ok a) :
    (inv.finish work setup).result files = work a := by
  unfold finish
  rw [Reads.result_bind, h]
  rfl

theorem result_finish_error {fault : SetupFault} (h : setup.run.result files = .error fault) :
    (inv.finish work setup).result files = inv.failed fault.message := by
  unfold finish
  rw [Reads.result_bind, h]
  rfl

end

end Invocation

namespace CommandLine

/-- The status that a command line ends with. -/
def status (args : List String) (files : Files) (now : String) : Nat := ((run args now).result files).status

def orderFiles : Files := fun name =>
  match Fields.get? name
    [("order.json", Json.object [("data", .object [("price", .integer 5)]), ("policies", .array [.string "rate"])]),
      ("rules.json", .object [("rate", .array [.string "SET $.rate = 2"])]),
      ("needs.json", .object [("required", .array [.string "price"])])] with
  | some content => .ok (content.compactChars.map fun c => c.toNat.toUInt8)
  | none => .error .notFound

def invalidLine : List String := ["validate", "order.json", "--schema=needs.json", "--quiet"]

end CommandLine

end PolicyEngine
