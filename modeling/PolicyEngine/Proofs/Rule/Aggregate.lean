import PolicyEngine.Proofs.Number.Order
import PolicyEngine.Proofs.Outcomes
import PolicyEngine.Rule.Aggregate

/-! The aggregates side by side. At any place of a document they fail alike or answer together: the first item that is
no number stops all of them but counting, the extremes of finite numbers are among them and bound them, and an average
is a sum over a count. -/
namespace PolicyEngine.AggregateOp

variable {doc : Value} {p : Path} {items : List Value} {xs : List Float} {x y : Float}

/-! Items as numbers -/

/-- The first of some items that stands for no number. -/
def FirstForeign (items : List Value) (item : Value) : Prop :=
  ∃ front rest, items = front ++ item :: rest ∧ (∀ v ∈ front, ∃ x, v.toNumber? = some x) ∧ item.toNumber? = none

/-- Either all items are read as numbers, in their order, or the first that is none is named. -/
theorem numbers_cases (p : Path) (items : List Value) :
    (∃ xs, items.map Value.toNumber? = xs.map some ∧ numbers p items = .ok xs) ∨
      ∃ item, FirstForeign items item ∧ numbers p items = .error (.coercion (.item p item)) := by
  induction items with
  | nil => exact .inl ⟨[], rfl, rfl⟩
  | cons item rest ih =>
    rw [numbers]
    cases hitem : item.toNumber? with
    | none => exact .inr ⟨item, ⟨[], rest, rfl, by simp, hitem⟩, rfl⟩
    | some x =>
      rcases ih with ⟨xs, hxs, hnumbers⟩ | ⟨other, ⟨front, later, rfl, hfront, hother⟩, hnumbers⟩
      · refine .inl ⟨x :: xs, ?_, by rw [hnumbers]; rfl⟩
        rw [List.map_cons, List.map_cons, hitem, hxs]
      · refine .inr ⟨other, ⟨item :: front, later, rfl, ?_, hother⟩, by rw [hnumbers]; rfl⟩
        exact List.forall_mem_cons.2 ⟨⟨x, hitem⟩, hfront⟩

/-! Extremes -/

section

variable {pick : Float → Float → Float} {r : Float → Float → Prop} {start : Float}

/-- A choice between two numbers, both of which are related to the one that is chosen. The start gives way to every
finite number. -/
structure Picks (pick : Float → Float → Float) (r : Float → Float → Prop) (start : Float) : Prop where
  refl : ∀ {x}, x.isFinite = true → r x x
  trans : ∀ {x y z}, r x y → r y z → r x z
  eq_or : ∀ x y, pick x y = x ∨ pick x y = y
  bounds : ∀ {x y}, x.isFinite = true → y.isFinite = true → r x (pick x y) ∧ r y (pick x y)
  yields : ∀ {x}, x.isFinite = true → pick start x = x

/-- What is chosen in the end is one of the numbers. -/
theorem Picks.foldl_mem (h : Picks pick r start) (x : Float) (xs : List Float) : xs.foldl pick x ∈ x :: xs := by
  induction xs generalizing x with
  | nil => exact List.mem_cons_self
  | cons y ys ih =>
    rw [List.foldl_cons]
    rcases List.mem_cons.1 (ih (pick x y)) with hfirst | hlater
    · rw [hfirst]
      rcases h.eq_or x y with heq | heq
      · rw [heq]
        exact List.mem_cons_self
      · rw [heq]
        exact List.mem_cons_of_mem _ List.mem_cons_self
    · exact List.mem_cons_of_mem _ (List.mem_cons_of_mem _ hlater)

theorem Picks.isFinite (h : Picks pick r start) (hx : x.isFinite = true) (hy : y.isFinite = true) :
    (pick x y).isFinite = true := by
  rcases h.eq_or x y with heq | heq
  · rwa [heq]
  · rwa [heq]

/-- Each choice is related to the next one, and so are the numbers that it was made from. -/
theorem Picks.foldl_bounds (h : Picks pick r start) (x : Float) (xs : List Float)
    (hfinite : ∀ y ∈ x :: xs, y.isFinite = true) : ∀ y ∈ x :: xs, r y (xs.foldl pick x) := by
  induction xs generalizing x with
  | nil =>
    intro y hy
    rw [List.mem_singleton.1 hy]
    exact h.refl (hfinite x List.mem_cons_self)
  | cons z zs ih =>
    obtain ⟨hx, hrest⟩ := List.forall_mem_cons.1 hfinite
    obtain ⟨hz, hzs⟩ := List.forall_mem_cons.1 hrest
    have hall := ih (pick x z) (List.forall_mem_cons.2 ⟨h.isFinite hx hz, hzs⟩)
    have hchosen := hall (pick x z) List.mem_cons_self
    intro y hy
    rcases List.mem_cons.1 hy with rfl | hy
    · exact h.trans (h.bounds hx hz).1 hchosen
    · rcases List.mem_cons.1 hy with rfl | hy
      · exact h.trans (h.bounds hx hz).2 hchosen
      · exact hall y (List.mem_cons_of_mem _ hy)

/-- The start is never chosen where there are numbers to choose from. -/
theorem Picks.isExtreme (h : Picks pick r start) (hne : xs ≠ []) (hfinite : ∀ x ∈ xs, x.isFinite = true) :
    xs.foldl pick start ∈ xs ∧ ∀ x ∈ xs, r x (xs.foldl pick start) := by
  obtain ⟨x, rest, rfl⟩ := List.exists_cons_of_ne_nil hne
  rw [List.foldl_cons, h.yields (hfinite x List.mem_cons_self)]
  exact ⟨h.foldl_mem x rest, h.foldl_bounds x rest hfinite⟩

end

theorem picks_greater : Picks greater (· ≤ ·) (Number.infinity true) where
  refl := Number.le_refl
  trans := Number.le_trans
  eq_or x y := by
    unfold greater
    split <;> simp
  bounds {x y} hx hy := by
    rw [greater, Number.isNaN_of_isFinite hx]
    by_cases h : x < y
    · simpa [h] using ⟨Number.le_of_lt h, Number.le_refl hy⟩
    · simpa [h] using ⟨Number.le_refl hx, Number.le_of_not_lt hx hy h⟩
  yields hx := by simp [greater, (Number.infinity_lt hx).1]

theorem picks_lesser : Picks lesser (· ≥ ·) (Number.infinity false) where
  refl := Number.le_refl
  trans hxy hyz := Number.le_trans hyz hxy
  eq_or x y := by
    unfold lesser
    split <;> simp
  bounds {x y} hx hy := by
    rw [lesser, Number.isNaN_of_isFinite hx]
    by_cases h : y < x
    · simpa [h] using ⟨Number.le_of_lt h, Number.le_refl hy⟩
    · simpa [h] using ⟨Number.le_refl hx, Number.le_of_not_lt hy hx h⟩
  yields hx := by simp [lesser, (Number.infinity_lt hx).2]

/-- The greatest of some finite numbers. -/
theorem fold_max (hne : xs ≠ []) (hfinite : ∀ x ∈ xs, x.isFinite = true) :
    max.fold xs ∈ xs ∧ ∀ x ∈ xs, x ≤ max.fold xs := picks_greater.isExtreme hne hfinite

/-- The least of some finite numbers. -/
theorem fold_min (hne : xs ≠ []) (hfinite : ∀ x ∈ xs, x.isFinite = true) :
    min.fold xs ∈ xs ∧ ∀ x ∈ xs, min.fold xs ≤ x := picks_lesser.isExtreme hne hfinite

/-! Answers -/

/-- What the aggregates answer at a place of a document. -/
inductive Answers (doc : Value) (p : Path) : Prop
  /-- The path cannot be followed, and all of them fail as it does. -/
  | unreachable (fault : AccessFault) (hget : doc.get p = .error fault)
      (fails : ∀ op : AggregateOp, op.evaluate doc p = .error (.access fault))
  /-- There is no array, and all of them say so. -/
  | noArray (found : Option Value) (hget : doc.get p = .ok found) (hfound : ∀ items, found ≠ some (.array items))
      (fails : ∀ op : AggregateOp, op.evaluate doc p = .error (.notASequence p))
  | empty (hget : doc.get p = .ok (some (.array []))) (zero : ∀ op : AggregateOp, op.evaluate doc p = .ok 0.0)
  /-- Some item is no number; the first such item is named, and only counting succeeds. -/
  | foreign (items : List Value) (item : Value) (hget : doc.get p = .ok (some (.array items)))
      (first : FirstForeign items item) (counts : count.evaluate doc p = .ok (Number.ofNat items.length))
      (fails : ∀ op : AggregateOp, op ≠ count → op.evaluate doc p = .error (.coercion (.item p item)))
  /-- All items are numbers, and all aggregates succeed. -/
  | numeric (items : List Value) (xs : List Float) (added greatest least : Float)
      (hget : doc.get p = .ok (some (.array items))) (hne : items ≠ [])
      (hxs : items.map Value.toNumber? = xs.map some)
      (counts : count.evaluate doc p = .ok (Number.ofNat items.length)) (sums : sum.evaluate doc p = .ok added)
      (averages : average.evaluate doc p = .ok (added / Number.ofNat items.length))
      (hmax : max.evaluate doc p = .ok greatest) (hmin : min.evaluate doc p = .ok least)
      (extremes : (∀ x ∈ xs, x.isFinite = true) →
        (greatest ∈ xs ∧ ∀ x ∈ xs, x ≤ greatest) ∧ least ∈ xs ∧ ∀ x ∈ xs, least ≤ x)

variable {op : AggregateOp}

theorem evaluate_of_array (hget : doc.get p = .ok (some (.array items))) : op.evaluate doc p = op.ofItems p items := by
  simp only [evaluate, hget]

theorem ofItems_count (hne : items ≠ []) : count.ofItems p items = .ok (Number.ofNat items.length) := by
  simp [ofItems, hne]

theorem ofItems_of_ne_count (hne : items ≠ []) (hop : op ≠ count) :
    op.ofItems p items = (numbers p items).map op.fold := by
  simp [ofItems, hne, hop]

theorem answers_of_array (hget : doc.get p = .ok (some (.array items))) (hne : items ≠ []) : Answers doc p := by
  have hcount : count.evaluate doc p = .ok (Number.ofNat items.length) :=
    (evaluate_of_array hget).trans (ofItems_count hne)
  have hevaluate : ∀ op : AggregateOp, op ≠ count → op.evaluate doc p = (numbers p items).map op.fold := by
    intro op hop
    rw [evaluate_of_array hget, ofItems_of_ne_count hne hop]
  rcases numbers_cases p items with ⟨xs, hxs, hnumbers⟩ | ⟨item, hfirst, hnumbers⟩
  · have hlength : xs.length = items.length := by simpa using (congrArg List.length hxs).symm
    have hxsne : xs ≠ [] := by
      rintro rfl
      exact hne (List.length_eq_zero_iff.1 hlength.symm)
    have hanswer : ∀ op : AggregateOp, op ≠ count → op.evaluate doc p = .ok (op.fold xs) := by
      intro op hop
      rw [hevaluate op hop, hnumbers]
      rfl
    have haverage : average.fold xs = total xs / Number.ofNat items.length := by rw [fold, hlength]
    refine .numeric items xs (total xs) (max.fold xs) (min.fold xs) hget hne hxs hcount (hanswer sum (by decide)) ?_
      (hanswer max (by decide)) (hanswer min (by decide)) fun hfinite => ?_
    · rw [hanswer average (by decide), haverage]
    · exact ⟨fold_max hxsne hfinite, fold_min hxsne hfinite⟩
  · refine .foreign items item hget hfirst hcount fun op hop => ?_
    rw [hevaluate op hop, hnumbers]
    rfl

/-- There is an answer of all aggregates together at every place of every document. -/
theorem aggregates_agree (doc : Value) (p : Path) : Answers doc p := by
  cases hget : doc.get p with
  | error fault => exact .unreachable fault hget fun op => by simp only [evaluate, hget]
  | ok found =>
    by_cases harray : ∃ items, found = some (.array items)
    · obtain ⟨items, rfl⟩ := harray
      by_cases hne : items = []
      · subst hne
        exact .empty hget fun op => evaluate_of_array hget
      · exact answers_of_array hget hne
    · have hfound : ∀ items, found ≠ some (.array items) := fun items heq => harray ⟨items, heq⟩
      refine .noArray found hget hfound fun op => ?_
      unfold evaluate
      rw [hget]
      split
      · next heq => cases heq
      · next items heq => exact absurd (Except.ok.inj heq) (hfound items)
      · rfl

end PolicyEngine.AggregateOp
