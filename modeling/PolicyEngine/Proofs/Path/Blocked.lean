import Mathlib.Data.List.Basic
import PolicyEngine.Proofs.Path.Steps

/-! Ways into a document that are blocked by a value of the wrong kind. Such a value is the one thing that stops
writing, since every container that is missing is made; reading is stopped by it too, at the same place. -/
namespace PolicyEngine

namespace AccessFault

/-- Whether a value of the wrong kind was found. -/
def isMismatch : AccessFault → Bool
  | notAnObject _ | notAnArray _ => true
  | _ => false

theorem isMismatch_iff {fault : AccessFault} :
    fault.isMismatch = true ↔ ∃ place, fault = .notAnObject place ∨ fault = .notAnArray place := by
  cases fault <;> simp [isMismatch]

@[simp] theorem isMismatch_under (step : Segment) (fault : AccessFault) :
    (fault.under step).isMismatch = fault.isMismatch := by cases fault <;> rfl

@[simp] theorem isMismatch_mismatch (place : List Segment) (step : Segment) :
    (step.mismatch place).isMismatch = true := by cases step <;> rfl

end AccessFault

namespace Value

/-- A way from a value is blocked at a place: what is found there is not what the next step leads into. -/
inductive Blocked : Value → List Segment → List Segment → Segment → Value → Prop
  | here {v : Value} {step : Segment} {rest : List Segment} (h : step.leadsInto v = false) :
      Blocked v (step :: rest) [] step v
  | deeper {v child found : Value} {first step : Segment} {rest place : List Segment}
      (h : v.child? first = some child) (tail : Blocked child rest place step found) :
      Blocked v (first :: rest) (first :: place) step found

variable {v found : Value} {step : Segment} {way place : List Segment}

namespace Blocked

theorem getAt_place (h : Blocked v way place step found) : v.getAt place = .ok (some found) := by
  induction h with
  | here _ => exact getAt_nil _
  | deeper hchild _ ih => exact getAt_cons_eq_some_iff.2 ⟨_, hchild, ih⟩

theorem place_on_way (h : Blocked v way place step found) : place <+: way := by
  induction h with
  | here _ => exact List.nil_prefix
  | deeper _ _ ih => exact List.cons_prefix_cons.2 ⟨rfl, ih⟩

theorem getAt (h : Blocked v way place step found) : v.getAt way = .error (step.mismatch place) := by
  induction h with
  | here hkind => exact getAt_cons_of_mismatch hkind
  | @deeper _ _ _ first _ _ _ hchild _ ih =>
    rw [getAt_cons_of_child? hchild, ih]
    exact congrArg Except.error (Segment.under_mismatch first _ _)

theorem setAt (h : Blocked v way place step found) (value : Value) :
    Value.setAt value way v = .error (step.collision place found) := by
  induction h with
  | here hkind => exact setAt_cons_of_mismatch hkind
  | @deeper _ _ _ first _ _ _ hchild _ ih =>
    rw [setAt_cons_of_leadsInto (leadsInto_of_child? hchild), hchild, Option.getD_some, ih]
    exact congrArg Except.error (Segment.under_collision first _ _ _)

end Blocked

/-- Writing into a container that was made for the way never fails: each step makes the one for the next. -/
theorem setAt_fresh (value : Value) (way : List Segment) : ∃ w, setAt value way (fresh way) = .ok w := by
  induction way with
  | nil => exact ⟨value, rfl⟩
  | cons step rest ih =>
    obtain ⟨child, hchild⟩ := ih
    refine ⟨put child step (fresh (step :: rest)), setAt_cons_eq_ok_iff.2 ⟨leadsInto_fresh step rest, child, ?_, rfl⟩⟩
    rw [child?_fresh, Option.getD_none, hchild]

theorem blocked_or_setAt (value : Value) (way : List Segment) (v : Value) :
    (∃ place step found, Blocked v way place step found) ∨ ∃ w, setAt value way v = .ok w := by
  induction way generalizing v with
  | nil => exact .inr ⟨value, rfl⟩
  | cons step rest ih =>
    cases hkind : step.leadsInto v with
    | false => exact .inl ⟨[], step, v, .here hkind⟩
    | true =>
      cases hchild : v.child? step with
      | none =>
        obtain ⟨child, hset⟩ := setAt_fresh value rest
        refine .inr ⟨put child step v, setAt_cons_eq_ok_iff.2 ⟨hkind, child, ?_, rfl⟩⟩
        rw [hchild, Option.getD_none, hset]
      | some start =>
        rcases ih start with ⟨place, last, found, htail⟩ | ⟨child, hset⟩
        · exact .inl ⟨step :: place, last, found, .deeper hchild htail⟩
        · refine .inr ⟨put child step v, setAt_cons_eq_ok_iff.2 ⟨hkind, child, ?_, rfl⟩⟩
          rw [hchild, Option.getD_some, hset]

theorem blocked_or_getAt (way : List Segment) (v : Value) :
    (∃ place step found, Blocked v way place step found) ∨
      ∀ fault, v.getAt way = .error fault → fault.isMismatch = false := by
  induction way generalizing v with
  | nil =>
    refine .inr fun fault h => ?_
    rw [getAt_nil] at h
    cases h
  | cons step rest ih =>
    cases hkind : step.leadsInto v with
    | false => exact .inl ⟨[], step, v, .here hkind⟩
    | true =>
      cases hchild : v.child? step with
      | none =>
        refine .inr fun fault h => ?_
        rcases getAt_cons_of_absent rest hkind hchild with ⟨-, hget⟩ | hget | ⟨i, size, hget⟩
        all_goals
          rw [hget] at h
          cases h
        · rfl
        · rfl
      | some child =>
        rcases ih child with ⟨place, last, found, htail⟩ | hrest
        · exact .inl ⟨step :: place, last, found, .deeper hchild htail⟩
        · refine .inr fun fault h => ?_
          rw [getAt_cons_of_child? hchild] at h
          obtain ⟨inner, hinner, rfl⟩ := mapError_eq_error_iff.1 h
          rw [AccessFault.isMismatch_under]
          exact hrest inner hinner

/-- Writing fails where the way is blocked, and nowhere else. -/
theorem setAt_eq_error_iff {value : Value} {fault : AccessFault} : setAt value way v = .error fault ↔
    ∃ place step found, Blocked v way place step found ∧ fault = step.collision place found := by
  constructor
  · intro h
    rcases blocked_or_setAt value way v with ⟨place, step, found, hblocked⟩ | ⟨w, hset⟩
    · rw [hblocked.setAt value] at h
      cases h
      exact ⟨place, step, found, hblocked, rfl⟩
    · rw [hset] at h
      cases h
  · rintro ⟨place, step, found, hblocked, rfl⟩
    exact hblocked.setAt value

/-- Reading finds a value of the wrong kind where the way is blocked, and nowhere else. -/
theorem getAt_eq_mismatch_iff {fault : AccessFault} : v.getAt way = .error fault ∧ fault.isMismatch = true ↔
    ∃ place step found, Blocked v way place step found ∧ fault = step.mismatch place := by
  constructor
  · rintro ⟨h, hmismatch⟩
    rcases blocked_or_getAt way v with ⟨place, step, found, hblocked⟩ | hfree
    · rw [hblocked.getAt] at h
      cases h
      exact ⟨place, step, found, hblocked, rfl⟩
    · rw [hfree fault h] at hmismatch
      cases hmismatch
  · rintro ⟨place, step, found, hblocked, rfl⟩
    exact ⟨hblocked.getAt, AccessFault.isMismatch_mismatch place step⟩

/-! Writing against reading -/

theorem setAt_fails_iff {value : Value} : (∃ fault, setAt value way v = .error fault) ↔
    ∃ fault, v.getAt way = .error fault ∧ fault.isMismatch = true := by
  simp only [setAt_eq_error_iff, getAt_eq_mismatch_iff]
  constructor
  · rintro ⟨_, place, step, found, hblocked, rfl⟩
    exact ⟨_, place, step, found, hblocked, rfl⟩
  · rintro ⟨_, place, step, found, hblocked, rfl⟩
    exact ⟨_, place, step, found, hblocked, rfl⟩

/-- Writing names the place that reading names, and tells a value without parts there from a container. -/
theorem setAt_of_getAt_mismatch {fault : AccessFault} (hget : v.getAt way = .error fault)
    (hfault : fault = .notAnObject place ∨ fault = .notAnArray place) (value : Value) :
    ∃ found, place <+: way ∧ v.getAt place = .ok (some found) ∧
      setAt value way v = .error (if found.isScalar then .scalarCollision place else fault) := by
  have hmismatch : fault.isMismatch = true := AccessFault.isMismatch_iff.2 ⟨place, hfault⟩
  obtain ⟨other, step, found, hblocked, hcause⟩ := getAt_eq_mismatch_iff.1 ⟨hget, hmismatch⟩
  have hplace : other = place := Segment.place_of_mismatch (hcause ▸ hfault)
  subst hplace
  refine ⟨found, hblocked.place_on_way, hblocked.getAt_place, ?_⟩
  rw [hcause]
  exact hblocked.setAt value

theorem exists_setAt_of_getAt (h : ∀ fault, v.getAt way = .error fault → fault.isMismatch = false) (value : Value) :
    ∃ w, setAt value way v = .ok w := by
  rcases blocked_or_setAt value way v with ⟨place, step, found, hblocked⟩ | hset
  · have hfalse := h _ hblocked.getAt
    rw [AccessFault.isMismatch_mismatch] at hfalse
    cases hfalse
  · exact hset

end Value

end PolicyEngine
