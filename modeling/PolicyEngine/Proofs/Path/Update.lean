import PolicyEngine.Proofs.Document.Ordered
import PolicyEngine.Proofs.Path.Blocked

/-! Reading and writing at one path as a lens. What was written is read back, writing what was read changes nothing, and
of two writes the second counts, whatever was made on the way to the first. -/
namespace PolicyEngine.Value

variable {v w value found : Value} {way : List Segment}

theorem getAt_setAt (h : setAt value way v = .ok w) : w.getAt way = .ok (some value) := by
  induction way generalizing v w with
  | nil =>
    cases h
    exact getAt_nil value
  | cons step rest ih =>
    obtain ⟨hkind, child, hchild, rfl⟩ := setAt_cons_eq_ok_iff.1 h
    exact getAt_cons_eq_some_iff.2 ⟨child, child?_put hkind child, ih hchild⟩

theorem Ordered.setAt_getAt (h : v.Ordered) (hget : v.getAt way = .ok (some found)) :
    Value.setAt found way v = .ok v := by
  induction way generalizing v with
  | nil =>
    rw [getAt_nil] at hget
    cases hget
    rfl
  | cons step rest ih =>
    obtain ⟨child, hchild, hrest⟩ := getAt_cons_eq_some_iff.1 hget
    refine setAt_cons_eq_ok_iff.2 ⟨leadsInto_of_child? hchild, child, ?_, (h.put_eq_self hchild).symm⟩
    rw [hchild]
    exact ih (h.child? hchild) hrest

/-- By induction on the way: the second write enters the child that the first one put in. -/
theorem setAt_setAt (h : setAt value way v = .ok w) (second : Value) : setAt second way w = setAt second way v := by
  induction way generalizing v w with
  | nil => rfl
  | cons step rest ih =>
    obtain ⟨hkind, child, hchild, rfl⟩ := setAt_cons_eq_ok_iff.1 h
    rw [setAt_cons_of_leadsInto (leadsInto_put.trans hkind), setAt_cons_of_leadsInto hkind, child?_put hkind,
      Option.getD_some, ih hchild]
    simp only [put_put]

/-- Whether writing succeeds does not depend on what is written. -/
theorem exists_setAt (h : setAt value way v = .ok w) (second : Value) : ∃ last, setAt second way v = .ok last := by
  rcases blocked_or_setAt second way v with ⟨place, step, found, hblocked⟩ | hset
  · rw [hblocked.setAt value] at h
    cases h
  · exact hset

/-- Reading and writing at a path are a lens into the documents in which the path can be written. -/
theorem get_set_lens (doc : Value) (p : Path) (value second : Value) :
    (∀ after, doc.set p value = .ok after → after.get p = .ok (some value)) ∧
    (doc.Ordered → doc.get p = .ok (some value) → doc.set p value = .ok doc) ∧
    (∀ after, doc.set p value = .ok after →
      ∃ last, after.set p second = .ok last ∧ doc.set p second = .ok last) := by
  refine ⟨fun after hset => getAt_setAt hset, fun h hget => h.setAt_getAt hget, fun after hset => ?_⟩
  obtain ⟨last, hlast⟩ := exists_setAt hset second
  exact ⟨last, (setAt_setAt hset second).trans hlast, hlast⟩

/-- A value that is there, and one for which an array is padded and an object made. -/
theorem get_set_lens_items :
    let doc := Value.object [("items", .array [.string "a"])]
    let first : Path := ⟨"items", [.index 0]⟩
    let third : Path := ⟨"items", [.index 2, .key "name"]⟩
    let after := Value.object [("items", .array [.string "a", .object [], .object [("name", .string "c")]])]
    doc.Ordered ∧ doc.get first = .ok (some (.string "a")) ∧ doc.set first (.string "a") = .ok doc ∧
      doc.set third (.string "c") = .ok after ∧ after.get third = .ok (some (.string "c")) ∧
      ∃ last, after.set third .null = .ok last ∧ doc.set third .null = .ok last := by
  intro doc first third after
  have hstring : (Value.string "a").Ordered := .scalar rfl
  have hordered : doc.Ordered := ordered_object_iff.2 ⟨by decide, by simp [hstring]⟩
  have hget : doc.get first = .ok (some (.string "a")) := rfl
  have hset : doc.set third (.string "c") = .ok after := by cbv
  obtain ⟨-, hsame, -⟩ := get_set_lens doc first (.string "a") .null
  obtain ⟨hread, -, hagain⟩ := get_set_lens doc third (.string "c") .null
  exact ⟨hordered, hget, hsame hordered hget, hset, hread after hset, hagain after hset⟩

end PolicyEngine.Value
