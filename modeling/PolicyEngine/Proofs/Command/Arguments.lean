import Mathlib.Data.List.Basic
import PolicyEngine.Command.Invocation
import PolicyEngine.Proofs.Outcomes

/-! Command lines and the options on output. These say nothing about the command that is asked for: a line stays one
for the same command when others are put in front of the command's name. -/
namespace PolicyEngine

theorem Arguments.suffix_of_read {spec : ArgumentSpec} {placesOnly : Bool} {a own : Arguments}
    {args left : List String} (h : read spec placesOnly a args = .ok (own, left)) :
    left <:+ args ∧ ∀ name rest, left = name :: rest → spec.endsAt name = true := by
  fun_induction read spec placesOnly a args with
  | case1 =>
    cases h
    exact ⟨List.suffix_rfl, nofun⟩
  | case2 _ _ arg rest _ hends =>
    cases h
    refine ⟨List.suffix_rfl, ?_⟩
    rintro _ _ ⟨⟩
    exact (Bool.and_eq_true_iff.1 hends).2
  | case3 _ _ arg rest _ _ ih | case5 _ _ arg rest _ _ _ _ _ _ _ _ _ ih | case8 _ _ arg rest _ _ _ _ _ _ _ _ _ ih =>
    obtain ⟨next, -, hrest⟩ := bind_eq_ok_iff.1 h
    exact (ih next hrest).imp_left fun hsuffix => hsuffix.trans (List.suffix_cons arg rest)
  | case4 _ _ arg rest _ _ ih => exact (ih h).imp_left fun hsuffix => hsuffix.trans (List.suffix_cons arg rest)
  | case11 _ _ arg _ _ _ _ _ _ _ _ _ value rest _ ih =>
    obtain ⟨next, -, hrest⟩ := bind_eq_ok_iff.1 h
    -- two arguments are read here, an option with its value
    have hboth : rest <:+ arg :: value :: rest := List.suffix_append [arg, value] rest
    exact (ih next hrest).imp_left fun hsuffix => hsuffix.trans hboth
  | case6 | case7 | case9 | case10 | case12 => cases h

def OutputFormat.name : OutputFormat → String
  | .text => "text"
  | .json => "json"

namespace Invocation

/-- Options that ask for an output. -/
def flags (output : OutputFormat) (quiet : Bool) : List String :=
  ["--output", output.name] ++ if quiet then ["--quiet"] else []

theorem mem_of_isCommandName {name : String} (h : isCommandName name = true) :
    name ∈ helpName :: commands.map Prod.fst := by
  rcases Bool.or_eq_true_iff.1 h with hhelp | hany
  · exact List.mem_cons.2 (.inl (of_decide_eq_true hhelp))
  · obtain ⟨c, hc, hname⟩ := List.any_eq_true.1 hany
    exact List.mem_cons_of_mem _ (List.mem_map.2 ⟨c, hc, of_decide_eq_true hname⟩)

end Invocation

end PolicyEngine
