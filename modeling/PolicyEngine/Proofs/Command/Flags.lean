import Mathlib.Data.List.TakeWhile
import PolicyEngine.Proofs.Command.Arguments

/-! Flags on a command line. A flag is an option that takes no value. It is read exactly if it stands among the
arguments in front of the first `--`, wherever that is: neither the name of an option nor the value of one can be
mistaken for it. -/
namespace PolicyEngine

/-- A name that no option with a value bears. -/
structure ArgumentSpec.IsFlag (spec : ArgumentSpec) (flag : String) : Prop where
  nonempty : flag.toList ≠ []
  whole : '=' ∉ flag.toList
  bare : ∀ o ∈ spec.options, o.name = flag → o.takesValue = false

namespace Arguments

/-- The arguments in front of the first `--`. -/
def beforeMark (args : List String) : List String := args.takeWhile (· ≠ "--")

theorem beforeMark_cons {arg : String} (h : arg ≠ "--") (rest : List String) :
    beforeMark (arg :: rest) = arg :: beforeMark rest := List.takeWhile_cons_of_pos (by simpa using h)

theorem beforeMark_mark (rest : List String) : beforeMark ("--" :: rest) = [] := rfl

theorem beforeMark_append {front : List String} (h : "--" ∉ front) (rest : List String) :
    beforeMark (front ++ rest) = front ++ beforeMark rest :=
  List.takeWhile_append_of_pos fun arg harg => by
    simpa using ne_of_mem_of_not_mem harg h

theorem beforeMark_eq_self {front : List String} (h : "--" ∉ front) : beforeMark front = front := by
  simpa [beforeMark] using beforeMark_append h []

/-! Taking in one argument -/

theorem has_add {a next : Arguments} {o : OptionSpec} {value : String} (h : a.add o value = .ok next) (flag : String) :
    next.has flag = true ↔ a.has flag = true ∨ o.name = flag := by
  unfold add at h
  split at h
  · cases h
  · cases h
    simp [has]

theorem options_addPlace {a next : Arguments} {spec : ArgumentSpec} {value : String}
    (h : a.addPlace spec value = .ok next) : next.options = a.options := by
  unfold addPlace at h
  split at h
  · split at h
    · cases h
      rfl
    · cases h
  · cases h

theorem bare?_eq_ok {spec : ArgumentSpec} {name : String} {o : OptionSpec} (h : bare? spec name = .ok o) :
    o ∈ spec.options ∧ o.name = name := by
  unfold bare? at h
  split at h
  · cases h
  · split at h
    · cases h
    · split at h
      · next hfind =>
        cases h
        exact ⟨List.mem_of_find?_eq_some hfind, by simpa using List.find?_some hfind⟩
      · cases h

theorem splitLong_of_whole {cs : List Char} (h : '=' ∉ cs) : splitLong cs = (String.ofList cs, none) := by
  have hall : cs.takeWhile (· ≠ '=') = cs :=
    List.takeWhile_eq_self_iff.2 fun c hc => by simpa using ne_of_mem_of_not_mem hc h
  simp only [splitLong, hall, List.drop_length, List.tail?_nil, Option.map_none]

theorem splitLong_append {name : List Char} (h : '=' ∉ name) (value : List Char) :
    splitLong (name ++ '=' :: value) = (String.ofList name, some (String.ofList value)) := by
  have hname : (name ++ '=' :: value).takeWhile (· ≠ '=') = name := by
    rw [List.takeWhile_append_of_pos fun c hc => by simpa using ne_of_mem_of_not_mem hc h]
    simp
  simp only [splitLong, hname, List.drop_left, List.tail?_cons, Option.map_some]

/-- An option without an attached value is its name. -/
theorem splitLong_eq_none_iff {cs : List Char} {name : String} :
    splitLong cs = (name, none) ↔ '=' ∉ cs ∧ cs = name.toList := by
  by_cases hwhole : '=' ∈ cs
  · obtain ⟨front, value, rfl, hfront⟩ := List.eq_append_cons_of_mem hwhole
    simp [splitLong_append hfront]
  · rw [splitLong_of_whole hwhole, Prod.mk.injEq, ← String.toList_inj, String.toList_ofList]
    simp [hwhole]

theorem toList_option (name : String) : ("--" ++ name).toList = '-' :: '-' :: name.toList := by
  rw [String.toList_append]
  rfl

theorem eq_option_iff {arg name : String} {long : List Char} (h : arg.toList = '-' :: '-' :: long) :
    arg = "--" ++ name ↔ long = name.toList := by
  rw [← String.toList_inj, h, toList_option, List.cons.injEq, List.cons.injEq]
  simp

theorem ne_mark {arg : String} {long : List Char} (h : arg.toList = '-' :: '-' :: long) (hlong : long ≠ []) :
    arg ≠ "--" := by
  have hmark : arg = "--" ++ "" ↔ long = [] := eq_option_iff h
  exact mt hmark.1 hlong

theorem looksLikeOption_flag {spec : ArgumentSpec} {flag : String} (h : spec.IsFlag flag) :
    looksLikeOption ("--" ++ flag) = true := by
  unfold looksLikeOption
  rw [toList_option]
  cases hname : flag.toList with
  | nil => exact absurd hname h.nonempty
  | cons c rest => rfl

/-! Reading on -/

/-- Behind the first `--` there are no options. -/
theorem options_of_read_places {spec : ArgumentSpec} {a own : Arguments} {args left : List String}
    (h : read spec true a args = .ok (own, left)) : own.options = a.options ∧ left = [] := by
  induction args generalizing a with
  | nil =>
    cases h
    exact ⟨rfl, rfl⟩
  | cons arg rest ih =>
    rw [read] at h
    obtain ⟨next, hnext, hrest⟩ := bind_eq_ok_iff.1 h
    exact (ih hrest).imp_left fun heq => heq.trans (options_addPlace hnext)

/-- The arguments in front of `left` are read, and with them the flag if it stands there. No option is read behind a
mark, so none stands in front of what is left of a list. -/
def Takes (flag : String) (a own : Arguments) (args left : List String) : Prop :=
  ∃ front, args = front ++ left ∧ (left ≠ [] → "--" ∉ front) ∧
    (own.has flag = true ↔ a.has flag = true ∨ "--" ++ flag ∈ beforeMark front)

namespace Takes

variable {flag : String} {a next own : Arguments} {args left : List String}

theorem refl (a : Arguments) (args : List String) : Takes flag a a args args := ⟨[], rfl, by simp, by simp [beforeMark]⟩

theorem cons {arg : String} (hmark : arg ≠ "--")
    (hhas : next.has flag = true ↔ a.has flag = true ∨ arg = "--" ++ flag) (h : Takes flag next own args left) :
    Takes flag a own (arg :: args) left := by
  obtain ⟨front, rfl, hfront, hown⟩ := h
  refine ⟨arg :: front, rfl, fun hleft => ?_, ?_⟩
  · exact List.not_mem_cons_of_ne_of_not_mem hmark.symm (hfront hleft)
  · rw [beforeMark_cons hmark, List.mem_cons, hown, hhas, or_assoc, eq_comm (a := arg)]

end Takes

theorem takes_of_read {spec : ArgumentSpec} {flag : String} (hflag : spec.IsFlag flag) {a own : Arguments}
    {args left : List String} (h : read spec false a args = .ok (own, left)) : Takes flag a own args left := by
  generalize hplaces : false = placesOnly at h
  fun_induction read spec placesOnly a args with
  | case1 | case2 =>
    cases h
    exact .refl _ _
  | case3 placesOnly a arg rest hshape hends ih =>
    obtain ⟨next, hnext, hrest⟩ := bind_eq_ok_iff.1 h
    have hplace : looksLikeOption arg = false := by simpa [← hplaces] using hshape
    refine .cons (by rintro rfl; cases hplace) ?_ (ih next hplaces hrest)
    have hne : arg ≠ "--" ++ flag := by
      rintro rfl
      rw [looksLikeOption_flag hflag] at hplace
      cases hplace
    simp [has, options_addPlace hnext, hne]
  | case4 placesOnly a arg rest hshape hmark ih =>
    obtain rfl : arg = "--" := String.toList_inj.1 hmark
    obtain ⟨hoptions, rfl⟩ := options_of_read_places h
    exact ⟨"--" :: rest, by simp, by simp, by simp [has, hoptions, beforeMark_mark]⟩
  | case5 placesOnly a arg rest hshape long hlong harg name value hsplit o hfind ih =>
    obtain ⟨next, hnext, hrest⟩ := bind_eq_ok_iff.1 h
    have hvalue : o.takesValue = true := (Bool.and_eq_true_iff.1 (List.find?_some hfind :)).2
    have hname : o.name ≠ flag := fun heq => by
      rw [hflag.bare o (List.mem_of_find?_eq_some hfind) heq] at hvalue
      cases hvalue
    have hne : arg ≠ "--" ++ flag := fun heq => by
      rw [(eq_option_iff harg).1 heq, splitLong_eq_none_iff.2 ⟨hflag.whole, rfl⟩] at hsplit
      cases hsplit
    refine .cons (ne_mark harg hlong) ?_ (ih next hplaces hrest)
    rw [has_add hnext, iff_false_intro hname, iff_false_intro hne]
  | case8 placesOnly a arg rest hshape long hlong harg name hsplit o hbare htakes ih =>
    obtain ⟨next, hnext, hrest⟩ := bind_eq_ok_iff.1 h
    obtain ⟨-, rfl⟩ := bare?_eq_ok hbare
    refine .cons (ne_mark harg hlong) ?_ (ih next hplaces hrest)
    rw [has_add hnext, eq_option_iff harg, (splitLong_eq_none_iff.1 hsplit).2, String.toList_inj]
  | case11 placesOnly a arg hshape long hlong harg name hsplit o hbare htakes value rest hvalue ih =>
    obtain ⟨next, hnext, hrest⟩ := bind_eq_ok_iff.1 h
    obtain ⟨hmem, rfl⟩ := bare?_eq_ok hbare
    have hname : o.name ≠ flag := fun heq => htakes (by rw [hflag.bare o hmem heq]; rfl)
    have hne : arg ≠ "--" ++ flag := fun heq => by
      rw [eq_option_iff harg, (splitLong_eq_none_iff.1 hsplit).2, String.toList_inj] at heq
      exact hname heq
    refine .cons (ne_mark harg hlong) ?_ (.cons (a := next) ?_ ?_ (ih next hplaces hrest))
    · rw [has_add hnext, iff_false_intro hname, iff_false_intro hne]
    · rintro rfl
      exact hvalue rfl
    · have hne : value ≠ "--" ++ flag := fun heq => hvalue (heq ▸ looksLikeOption_flag hflag)
      rw [iff_false_intro hne, or_false]
  | case6 | case7 | case9 | case10 | case12 => cases h

end Arguments

namespace Invocation

theorem isFlag_quiet_rootSpec : rootSpec.IsFlag "quiet" := ⟨by decide, by decide, by simp [rootSpec, outputOptions]⟩

theorem isFlag_quiet {name : String} {spec : ArgumentSpec} (h : (name, spec) ∈ commands) : spec.IsFlag "quiet" := by
  refine ⟨by decide, by decide, ?_⟩
  simp only [commands, List.mem_cons, List.not_mem_nil, or_false, Prod.mk.injEq] at h
  rcases h with ⟨-, rfl⟩ | ⟨-, rfl⟩ | ⟨-, rfl⟩ | ⟨-, rfl⟩ <;>
    simp [commandSpec, outputOptions, engineOptions, serveOptions, fileOption]

theorem endsAt_of_mem {name : String} {spec : ArgumentSpec} (h : (name, spec) ∈ commands) (arg : String) :
    spec.endsAt arg = false := by
  simp only [commands, List.mem_cons, List.not_mem_nil, or_false, Prod.mk.injEq] at h
  rcases h with ⟨-, rfl⟩ | ⟨-, rfl⟩ | ⟨-, rfl⟩ | ⟨-, rfl⟩ <;> rfl

/-- A command has its own arguments, all of them read, and quiet is asked for in front of its name or behind it. -/
theorem exists_own_of_ofCommand {root : Arguments} {name : String} {rest : List String} {inv : Invocation}
    (h : ofCommand root name rest = .ok inv) :
    ∃ spec own, (name, spec) ∈ commands ∧ Arguments.read spec false .empty rest = .ok (own, []) ∧
      inv.quiet = (root.has "quiet" || own.has "quiet") := by
  unfold ofCommand at h
  split at h
  · cases h
  · split at h
    · cases h
    · next found spec hfind =>
      obtain rfl : found = name := by simpa using List.find?_some hfind
      have hmem := List.mem_of_find?_eq_some hfind
      split at h
      · cases h
      · next own left hread =>
        obtain rfl : left = [] := by
          cases left with
          | nil => rfl
          | cons arg others =>
            have hends := (Arguments.suffix_of_read hread).2 arg others rfl
            rw [endsAt_of_mem hmem] at hends
            cases hends
        split at h
        · cases h
          exact ⟨spec, own, hmem, hread, rfl⟩
        · cases h

/-- An accepted line is quiet exactly if the flag stands on it, as an argument of its own in front of the first
`--`. -/
theorem quiet_iff_mem {args : List String} {inv : Invocation} (h : ofArguments args = .ok inv) :
    inv.quiet = true ↔ "--quiet" ∈ Arguments.beforeMark args := by
  unfold ofArguments at h
  split at h
  · cases h
  · cases h
  · next root name rest hread =>
    obtain ⟨front, rfl, hfront, hroot⟩ := Arguments.takes_of_read isFlag_quiet_rootSpec hread
    obtain ⟨spec, own, hmem, hown, hquiet⟩ := exists_own_of_ofCommand h
    obtain ⟨all, rfl, -, hall⟩ := Arguments.takes_of_read (isFlag_quiet hmem) hown
    have hname := mem_of_isCommandName ((Arguments.suffix_of_read hread).2 name _ rfl)
    have hmark : name ≠ "--" := by
      rintro rfl
      exact absurd hname (by decide)
    have hflag : "--quiet" ≠ name := by
      rintro rfl
      exact absurd hname (by decide)
    have hnone : ¬ Arguments.empty.has "quiet" = true := by decide
    rw [iff_false_intro hnone, false_or] at hroot hall
    rw [hquiet, Bool.or_eq_true_iff, hroot, hall, Arguments.beforeMark_append (hfront (List.cons_ne_nil _ _)),
      Arguments.beforeMark_cons hmark, Arguments.beforeMark_eq_self (hfront (List.cons_ne_nil _ _)), List.append_nil]
    simp [hflag]

end Invocation

end PolicyEngine
