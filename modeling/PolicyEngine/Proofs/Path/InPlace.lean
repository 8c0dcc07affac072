import PolicyEngine.Proofs.Document.Ordered
import PolicyEngine.Proofs.Path.Blocked

/-! Writing in place. The walk to the end of a path makes each container that is missing before it looks at the rest
of the path, so a fault further on could leave a document half written. It does not: what stops the walk was in the
document before, and up to there nothing was made. -/
namespace PolicyEngine.Value

/-- Writes in place, as far as the walk comes: what it has made of the value, and the fault that stopped it. -/
def assignAt (value : Value) : List Segment → Value → Value × Option AccessFault
  | [], _ => (value, none)
  | step :: rest, v =>
    if step.leadsInto v then
      let start := (v.child? step).getD (fresh rest)
      let made := put start step v
      let (child, fault) := assignAt value rest start
      (put child step made, fault.map (·.under step))
    else (v, some (step.collision [] v))

def assign (doc : Value) (path : Path) (value : Value) : Value × Option AccessFault :=
  assignAt value path.segments doc

/-- What writing comes to for the document, when a failing walk leaves it as it was. -/
def settled (v : Value) : Except AccessFault Value → Value × Option AccessFault
  | .ok after => (after, none)
  | .error fault => (v, some fault)

theorem settled_eq_some_iff {v after : Value} {answer : Except AccessFault Value} {fault : AccessFault} :
    settled v answer = (after, some fault) ↔ after = v ∧ answer = .error fault := by
  cases answer <;> simp [settled, eq_comm]

theorem settled_eq_none_iff {v after : Value} {answer : Except AccessFault Value} :
    settled v answer = (after, none) ↔ answer = .ok after := by
  cases answer <;> simp [settled]

/-- By induction on the way. A step into a child that is there puts back what the rest of the walk leaves of it, and a
child that was made is one in which the walk comes to its end. -/
theorem Ordered.assignAt_eq {v : Value} (h : v.Ordered) (value : Value) (way : List Segment) :
    assignAt value way v = settled v (Value.setAt value way v) := by
  induction way generalizing v with
  | nil => rfl
  | cons step rest ih =>
    cases hkind : step.leadsInto v with
    | false =>
      rw [setAt_cons_of_mismatch hkind, assignAt, hkind]
      rfl
    | true =>
      have hstart := ih (h.start step rest)
      rw [setAt_cons_of_leadsInto hkind, assignAt, hkind]
      simp only [if_true, put_put, hstart]
      cases hset : Value.setAt value rest ((v.child? step).getD (fresh rest)) with
      | ok child => rfl
      | error fault =>
        cases hchild : v.child? step with
        | none =>
          obtain ⟨w, hfresh⟩ := setAt_fresh value rest
          rw [hchild, Option.getD_none, hfresh] at hset
          cases hset
        | some child =>
          have hsame : Value.put child step v = v := h.put_eq_self hchild
          exact Prod.ext hsame rfl

theorem Ordered.assign_eq {doc : Value} (h : doc.Ordered) (p : Path) (value : Value) :
    doc.assign p value = settled doc (doc.set p value) := h.assignAt_eq value p.segments

/-- Writing fails where reading finds a value of the wrong kind, at the same place, and nowhere else. In place, in a
document with its keys in order, a failing walk leaves the document as it was, and any other what `set` gives. -/
theorem set_fails_iff_get_mismatch (doc : Value) (p : Path) (value : Value) :
    (doc.Ordered → ∀ after fault, doc.assign p value = (after, some fault) →
      after = doc ∧ doc.set p value = .error fault) ∧
    (doc.Ordered → ∀ after, doc.assign p value = (after, none) ↔ doc.set p value = .ok after) ∧
    ((∃ fault, doc.set p value = .error fault) ↔
      ∃ place, doc.get p = .error (.notAnObject place) ∨ doc.get p = .error (.notAnArray place)) ∧
    (∀ place fault, fault = .notAnObject place ∨ fault = .notAnArray place → doc.get p = .error fault →
      ∃ found, place <+: p.segments ∧ doc.getAt place = .ok (some found) ∧
        doc.set p value = .error (if found.isScalar then .scalarCollision place else fault)) ∧
    ((∃ found, doc.get p = .ok found) ∨ (∃ place, doc.get p = .error (.missingKey place)) ∨
      (∃ place i size, doc.get p = .error (.indexOutOfBounds place i size)) →
        ∃ after, doc.set p value = .ok after) := by
  refine ⟨?kept, ?done, ?fails, ?names, ?free⟩
  case kept =>
    intro h after fault heq
    rw [h.assign_eq] at heq
    exact settled_eq_some_iff.1 heq
  case done =>
    intro h after
    rw [h.assign_eq]
    exact settled_eq_none_iff
  case fails =>
    refine setAt_fails_iff.trans ⟨?_, ?_⟩
    · rintro ⟨fault, hget, hmismatch⟩
      obtain ⟨place, rfl | rfl⟩ := AccessFault.isMismatch_iff.1 hmismatch
      · exact ⟨place, .inl hget⟩
      · exact ⟨place, .inr hget⟩
    · rintro ⟨place, hget | hget⟩
      · exact ⟨_, hget, rfl⟩
      · exact ⟨_, hget, rfl⟩
  case names =>
    intro place fault hfault hget
    exact setAt_of_getAt_mismatch hget hfault value
  case free =>
    intro hfree
    refine exists_setAt_of_getAt (fun fault hget => ?_) value
    rcases hfree with ⟨found, hfound⟩ | ⟨place, hmissing⟩ | ⟨place, i, size, hbounds⟩
    · cases hfound.symm.trans hget
    · cases hmissing.symm.trans hget
      rfl
    · cases hbounds.symm.trans hget
      rfl

/-- A number stands in the way below the first row; a third row is made where there was one. -/
theorem set_fails_below_number :
    let doc := Value.object [("rows", .array [.object [("n", .number 1)]])]
    let blocked : Path := ⟨"rows", [.index 0, .key "n", .key "x", .index 1]⟩
    let missing : Path := ⟨"rows", [.index 2, .index 1]⟩
    let place : List Segment := [.key "rows", .index 0, .key "n"]
    doc.Ordered ∧ doc.get blocked = .error (.notAnObject place) ∧
      doc.set blocked .null = .error (.scalarCollision place) ∧
      (doc.assign blocked .null).2 = some (.scalarCollision place) ∧ (doc.assign blocked .null).1 = doc ∧
      doc.get missing = .error (.indexOutOfBounds [.key "rows"] 2 1) ∧
      ∃ after, doc.set missing .null = .ok after ∧ doc.assign missing .null = (after, none) := by
  intro doc blocked missing place
  have hnumber : (Value.number 1).Ordered := .scalar rfl
  have hordered : doc.Ordered := ordered_object_iff.2 ⟨by decide, by simp [Fields.Ascending, hnumber]⟩
  have hget : doc.get blocked = .error (.notAnObject place) := rfl
  have hfault : (doc.assign blocked .null).2 = some (.scalarCollision place) := rfl
  have hmissing : doc.get missing = .error (.indexOutOfBounds [.key "rows"] 2 1) := rfl
  obtain ⟨hkept, -, -, hnames, -⟩ := set_fails_iff_get_mismatch doc blocked .null
  obtain ⟨-, hdone, -, -, hfree⟩ := set_fails_iff_get_mismatch doc missing .null
  obtain ⟨found, -, hfound, hset⟩ := hnames place _ (.inl rfl) hget
  obtain ⟨after, hafter⟩ := hfree (.inr (.inr ⟨_, _, _, hmissing⟩))
  cases hfound
  exact ⟨hordered, hget, hset, hfault, (hkept hordered _ _ (Prod.ext rfl hfault)).1, hmissing, after, hafter,
    (hdone hordered after).2 hafter⟩

end PolicyEngine.Value
