import PolicyEngine.Proofs.Path.Frame

/-! The order of two writes at paths apart. Where both orders succeed they end in the same document: a slot that one
write fills with an empty object, and the other one makes itself, is made as an empty object there too. -/
namespace PolicyEngine.Value

variable {step other : Segment} {rest way : List Segment} {v w child first second value : Value}

/-! Putting in two children -/

theorem getElem?_pad (items : List Value) (i k : Nat) :
    (pad items i)[k]? = if k < items.length then items[k]? else if k ≤ i then some (.object []) else none := by
  rw [pad, List.getElem?_append]
  split
  · rfl
  · rw [List.getElem?_replicate]
    have hiff : k - items.length < i + 1 - items.length ↔ k ≤ i := by omega
    simp only [hiff]

theorem set_pad_comm {i j : Nat} (hne : i ≠ j) (items : List Value) (first second : Value) :
    (pad ((pad items i).set i first) j).set j second = (pad ((pad items j).set j second) i).set i first := by
  apply List.ext_getElem?
  intro k
  simp only [List.getElem?_set, length_pad, List.length_set, getElem?_pad]
  grind

/-- Children at different steps can be put in in either order. -/
theorem put_comm (hne : step ≠ other) (v first second : Value) :
    put second other (put first step v) = put first step (put second other v) := by
  cases step with
  | key name =>
    cases other with
    | key name' =>
      have hname : name' ≠ name := fun heq => hne (congrArg Segment.key heq.symm)
      cases v with
      | object fields => exact congrArg Value.object (Fields.insert_comm hname second first fields)
      | _ => rfl
    | index j => cases v <;> rfl
  | index i =>
    cases other with
    | key name => cases v <;> rfl
    | index j =>
      have hindex : i ≠ j := fun heq => hne (congrArg Segment.index heq)
      cases v with
      | array items => exact congrArg Value.array (set_pad_comm hindex items first second)
      | _ => rfl

/-- Putting in a child changes nothing at another step, but for an empty object that fills up an array. -/
theorem child?_put_other (hne : step ≠ other) (v child : Value) :
    (put child step v).child? other = v.child? other ∨
      v.child? other = none ∧ (put child step v).child? other = some (.object []) := by
  cases step with
  | key name =>
    cases v with
    | object fields =>
      cases other with
      | key name' =>
        have hname : name ≠ name' := fun heq => hne (congrArg Segment.key heq)
        exact .inl (Fields.get?_insert_of_ne hname child fields)
      | index j => exact .inl rfl
    | _ => exact .inl rfl
  | index i =>
    cases v with
    | array items =>
      cases other with
      | key name => exact .inl rfl
      | index j =>
        have hindex : i ≠ j := fun heq => hne (congrArg Segment.index heq)
        change ((pad items i).set i child)[j]? = items[j]? ∨
          items[j]? = none ∧ ((pad items i).set i child)[j]? = some (.object [])
        rw [List.getElem?_set_ne hindex, getElem?_pad]
        split
        · exact .inl rfl
        · next hout =>
          have hnone : items[j]? = none := List.getElem?_eq_none (Nat.le_of_not_lt hout)
          split
          · exact .inr ⟨hnone, rfl⟩
          · exact .inl hnone.symm
    | _ => exact .inl rfl

/-! Where a write starts -/

/-- What can be written into an empty object is written into a container made for the way just so. -/
theorem setAt_fresh_of_empty (h : setAt value way (.object []) = .ok w) : setAt value way (fresh way) = .ok w := by
  cases way with
  | nil => exact h
  | cons step rest =>
    cases step with
    | key name => exact h
    | index i => cases h

/-- A write that succeeds beside another one succeeds without it, with the same child. -/
theorem setAt_start_of_put (hne : step ≠ other)
    (h : setAt value rest (((put child step v).child? other).getD (fresh rest)) = .ok w) :
    setAt value rest ((v.child? other).getD (fresh rest)) = .ok w := by
  rcases child?_put_other hne v child with hsame | ⟨hnone, hfilled⟩
  · rw [hsame] at h
    exact h
  · rw [hfilled] at h
    rw [hnone]
    exact setAt_fresh_of_empty h

theorem leadsInto_of_setAt (h : setAt value (step :: rest) v = .ok w) : step.leadsInto w = true := by
  obtain ⟨hkind, child, -, rfl⟩ := setAt_cons_eq_ok_iff.1 h
  exact leadsInto_put.trans hkind

theorem fresh_congr (hstep : step.leadsInto v = true) (hother : other.leadsInto v = true) (rest way : List Segment) :
    fresh (step :: rest) = fresh (other :: way) := by
  cases step <;> cases other <;> first | rfl | cases v <;> simp [Segment.leadsInto] at hstep hother

/-- Where both ways go on from one child, a child made for the first way is one made for the second. -/
theorem fresh_eq_of_setAt (hrest : rest ≠ []) (hway : way ≠ []) {start : Value}
    (hfirst : setAt value rest start = .ok v) (hsecond : setAt second way v = .ok w) : fresh rest = fresh way := by
  obtain ⟨step, others, rfl⟩ := List.exists_cons_of_ne_nil hrest
  obtain ⟨next, later, rfl⟩ := List.exists_cons_of_ne_nil hway
  exact fresh_congr (leadsInto_of_setAt hfirst) (setAt_cons_eq_ok_iff.1 hsecond).1 others later

/-! Two writes -/

/-- By induction on the first way. Where both ways take the same step the two writes meet in one child; where they
part each is made in a child of its own, which the other one leaves alone or has filled in as an empty object. -/
theorem setAt_comm_of_apart {p q : List Segment} (h : Apart p q) {a b c d : Value} (ha : setAt value p v = .ok a)
    (hb : setAt second q a = .ok b) (hc : setAt second q v = .ok c) (hd : setAt value p c = .ok d) : b = d := by
  induction p generalizing q v a b c d with
  | nil => exact absurd List.nil_prefix h.1
  | cons step rest ih =>
    cases q with
    | nil => exact absurd List.nil_prefix h.2
    | cons other others =>
      have hapart : step = other → Apart rest others := apart_cons_iff.1 h
      obtain ⟨hstep, x, hx, rfl⟩ := setAt_cons_eq_ok_iff.1 ha
      obtain ⟨-, y, hy, rfl⟩ := setAt_cons_eq_ok_iff.1 hb
      obtain ⟨hother, x', hx', rfl⟩ := setAt_cons_eq_ok_iff.1 hc
      obtain ⟨-, y', hy', rfl⟩ := setAt_cons_eq_ok_iff.1 hd
      by_cases hsame : step = other
      · subst hsame
        obtain ⟨hrest, hothers⟩ := hapart rfl
        rw [child?_put hstep, Option.getD_some] at hy hy'
        have hmade : fresh rest = fresh others := by
          refine fresh_eq_of_setAt (fun hnil => hrest ?_) (fun hnil => hothers ?_) hx hy
          · rw [hnil]
            exact List.nil_prefix
          · rw [hnil]
            exact List.nil_prefix
        rw [← hmade] at hx'
        rw [put_put, put_put, ih (hapart rfl) hx hy hx' hy']
      · have hfirst : x = y' := Except.ok.inj (hx.symm.trans (setAt_start_of_put (Ne.symm hsame) hy'))
        have hsecond : x' = y := Except.ok.inj (hx'.symm.trans (setAt_start_of_put hsame hy))
        rw [hfirst, hsecond]
        exact put_comm hsame v y' y

/-- Writes at paths apart do not depend on their order, where they succeed in both. -/
theorem set_comm_of_apart {doc after last after' last' : Value} {p q : Path} (h : Apart p.segments q.segments)
    (first second : Value) (hp : doc.set p first = .ok after) (hpq : after.set q second = .ok last)
    (hq : doc.set q second = .ok after') (hqp : after'.set p first = .ok last') : last = last' :=
  setAt_comm_of_apart h hp hpq hq hqp

/-- Both writes pad the same array, and one of them finds its slot filled in by the other. -/
theorem set_comm_of_apart_items :
    let doc := Value.object [("n", .number 1)]
    let first : Path := ⟨"items", [.index 0, .key "name"]⟩
    let third : Path := ⟨"items", [.index 2]⟩
    let after := Value.object [("items", .array [.object [("name", .string "a")]]), ("n", .number 1)]
    let after' := Value.object [("items", .array [.object [], .object [], .string "c"]), ("n", .number 1)]
    let last := Value.object
      [("items", .array [.object [("name", .string "a")], .object [], .string "c"]), ("n", .number 1)]
    Apart first.segments third.segments ∧ doc.set first (.string "a") = .ok after ∧
      doc.set third (.string "c") = .ok after' ∧ after'.set first (.string "a") = .ok last ∧
      ∃ other, after.set third (.string "c") = .ok other ∧ other = last := by
  intro doc first third after after' last
  have hapart : Apart first.segments third.segments := by decide
  have hfirst : doc.set first (.string "a") = .ok after := by cbv
  have hthird : doc.set third (.string "c") = .ok after' := by cbv
  have hlast : after'.set first (.string "a") = .ok last := by cbv
  have hother : after.set third (.string "c") = .ok last := by cbv
  exact ⟨hapart, hfirst, hthird, hlast, last, hother,
    set_comm_of_apart hapart (.string "a") (.string "c") hfirst hother hthird hlast⟩

-- One order may fail alone: a slot that was filled in as an object cannot be gone into as an array.
example : ∃ after place, (object []).set ⟨"a", [.index 2]⟩ .null = .ok after ∧
    after.set ⟨"a", [.index 1, .index 0]⟩ .null = .error (.notAnArray place) :=
  ⟨.object [("a", .array [.object [], .object [], .null])], _, rfl, rfl⟩

end PolicyEngine.Value
