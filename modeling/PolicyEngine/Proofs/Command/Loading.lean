import Mathlib.Data.List.Forall2
import PolicyEngine.Command.Setup
import PolicyEngine.Proofs.Outcomes

/-! What a setup loads. A setup comes to its end exactly where every file that it asks for can be read and means what it
is asked for: a configuration, policies, a schema or a document. -/
namespace PolicyEngine

namespace Files

/-- A name leads to a file with this text. -/
def Hold (files : Files) (name text : String) : Prop := Reads.decoded (files name) = .ok text

def LoadsDocument (files : Files) (name : String) (doc : Value) : Prop :=
  ∃ text, files.Hold name text ∧ Value.ofJson? text = some doc

def LoadsSchema (files : Files) (name : String) (schema : Schema) : Prop :=
  ∃ text, files.Hold name text ∧ Schema.ofJson text = .ok schema

end Files

namespace Setup

variable {α β : Type} {files : Files}

/-- The result of a setup under given files, if it comes to its end. -/
def Gives (files : Files) (x : Setup α) (a : α) : Prop := x.run.result files = .ok a

theorem gives_pure_iff {a b : α} : Gives files (pure a) b ↔ a = b := by
  unfold Gives
  rw [ExceptT.run_pure, Reads.result_pure, Except.ok.injEq]

theorem gives_bind_iff {x : Setup α} {f : α → Setup β} {b : β} :
    Gives files (x >>= f) b ↔ ∃ a, Gives files x a ∧ Gives files (f a) b := by
  unfold Gives
  rw [ExceptT.run_bind, Reads.result_bind]
  cases x.run.result files with
  | ok a => simp
  | error fault => simp

theorem gives_mk_iff {x : Except SetupFault α} {a : α} : Gives files (ExceptT.mk (pure x)) a ↔ x = .ok a := Iff.rfl

theorem gives_need_iff {fault : FileFault → SetupFault} {content : Reads (Except FileFault α)} {a : α} :
    Gives files (need fault content) a ↔ content.result files = .ok a := by
  unfold Gives need
  rw [ExceptT.run_mk, Reads.result_bind]
  cases content.result files with
  | ok b => simp
  | error e => simp

/-! The parts of an engine -/

theorem gives_document_iff {name : String} {doc : Value} :
    Gives files (document name) doc ↔ files.LoadsDocument name doc := by
  simp only [document, gives_bind_iff, gives_need_iff, gives_mk_iff, Files.LoadsDocument]
  refine exists_congr fun text => and_congr_right fun _ => ?_
  unfold documentOf
  cases Value.ofJson? text <;> simp

theorem gives_schema_iff {name : String} {loaded : Schema} :
    Gives files (schema name) loaded ↔ files.LoadsSchema name loaded := by
  simp only [schema, gives_bind_iff, gives_need_iff, gives_mk_iff, schemaOf, mapError_eq_ok_iff]
  rfl

end Setup

end PolicyEngine
