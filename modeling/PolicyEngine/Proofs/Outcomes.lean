/-! Computations that may fail, opened from their result: what succeeds did so at every step. Two of them can go
the same way. -/
namespace PolicyEngine

theorem bind_eq_ok_iff {ε α β : Type} {x : Except ε α} {f : α → Except ε β} {b : β} :
    (x >>= f) = .ok b ↔ ∃ a, x = .ok a ∧ f a = .ok b := by
  cases x with
  | error e => simp [bind, Except.bind]
  | ok a => simp [bind, Except.bind]

theorem map_eq_ok_iff {ε α β : Type} {x : Except ε α} {f : α → β} {b : β} :
    x.map f = .ok b ↔ ∃ a, x = .ok a ∧ f a = b := by
  cases x with
  | error e => simp [Except.map]
  | ok a => simp [Except.map]

theorem bind_eq_error_iff {ε α β : Type} {x : Except ε α} {f : α → Except ε β} {e : ε} :
    (x >>= f) = .error e ↔ x = .error e ∨ ∃ a, x = .ok a ∧ f a = .error e := by
  cases x with
  | error d => simp [bind, Except.bind]
  | ok a => simp [bind, Except.bind]

theorem map_eq_error_iff {ε α β : Type} {x : Except ε α} {f : α → β} {e : ε} :
    x.map f = .error e ↔ x = .error e := by
  cases x with
  | error d => simp [Except.map]
  | ok a => simp [Except.map]

theorem map_map {ε α β γ : Type} (x : Except ε α) (f : α → β) (g : β → γ) : (x.map f).map g = x.map (g ∘ f) :=
  (comp_map f g x).symm

theorem mapError_eq_ok_iff {ε δ α : Type} {x : Except ε α} {f : ε → δ} {a : α} :
    x.mapError f = .ok a ↔ x = .ok a := by
  cases x with
  | error e => exact ⟨nofun, nofun⟩
  | ok b =>
    change Except.ok b = Except.ok a ↔ Except.ok b = Except.ok a
    rw [Except.ok.injEq, Except.ok.injEq]

theorem mapError_eq_error_iff {ε δ α : Type} {x : Except ε α} {f : ε → δ} {d : δ} :
    x.mapError f = .error d ↔ ∃ e, x = .error e ∧ f e = d := by
  cases x with
  | error e =>
    constructor
    · intro h
      cases h
      exact ⟨e, rfl, rfl⟩
    · rintro ⟨_, ⟨⟩, rfl⟩
      rfl
  | ok b => exact ⟨nofun, nofun⟩

theorem exists_eq_ok_of_any {ε α : Type} {x : Except ε α} {p : α → Bool} (h : x.toOption.any p = true) :
    ∃ a, x = .ok a ∧ p a = true := by
  cases x with
  | error e => cases h
  | ok a => exact ⟨a, rfl, h⟩

/-- What a computation fails with. -/
def error? {ε α : Type} : Except ε α → Option ε
  | .error e => some e
  | .ok _ => none

theorem error?_eq_some_iff {ε α : Type} {x : Except ε α} {e : ε} : error? x = some e ↔ x = .error e := by
  cases x <;> simp [error?]

/-! Two computations at once -/

section

variable {ε δ ζ α β γ : Type}

/-- Both computations fail, or both succeed and `f` shows of the one result what `g` shows of the other. -/
inductive Corresponds (f : α → γ) (g : β → γ) : Except ε α → Except δ β → Prop
  | error {e : ε} {d : δ} : Corresponds f g (.error e) (.error d)
  | ok {a : α} {b : β} (h : f a = g b) : Corresponds f g (.ok a) (.ok b)

namespace Corresponds

variable {f : α → γ} {g : β → γ} {x : Except ε α} {y : Except δ β}

theorem bind {α' β' γ' : Type} {f' : α' → γ'} {g' : β' → γ'} {k : α → Except ε α'} {l : β → Except δ β'}
    (h : Corresponds f g x y) (hnext : ∀ a b, f a = g b → Corresponds f' g' (k a) (l b)) :
    Corresponds f' g' (x >>= k) (y >>= l) := by
  cases h with
  | error => exact error
  | ok h => exact hnext _ _ h

theorem map {α' β' γ' : Type} {f' : α' → γ'} {g' : β' → γ'} {k : α → α'} {l : β → β'}
    (h : Corresponds f g x y) (hnext : ∀ a b, f a = g b → f' (k a) = g' (l b)) :
    Corresponds f' g' (x.map k) (y.map l) := by
  cases h with
  | error => exact error
  | ok h => exact ok (hnext _ _ h)

theorem symm (h : Corresponds f g x y) : Corresponds g f y x := by
  cases h with
  | error => exact error
  | ok h => exact ok h.symm

theorem trans {α' : Type} {f' : α' → γ} {z : Except ζ α'} (h : Corresponds f g x y) (h' : Corresponds g f' y z) :
    Corresponds f f' x z := by
  cases h with
  | error =>
    cases h' with
    | error => exact error
  | ok h =>
    cases h' with
    | ok h' => exact ok (h.trans h')

theorem exists_ok (h : Corresponds f g x y) : (∃ a, x = .ok a) ↔ ∃ b, y = .ok b := by
  cases h with
  | error => exact ⟨nofun, nofun⟩
  | ok => exact ⟨fun _ => ⟨_, rfl⟩, fun _ => ⟨_, rfl⟩⟩

theorem eq_of_ok {a : α} {b : β} (h : Corresponds f g x y) (hx : x = .ok a) (hy : y = .ok b) : f a = g b := by
  rw [hx, hy] at h
  cases h with
  | ok h => exact h

theorem exists_of_ok {b : β} (h : Corresponds f g x y) (hy : y = .ok b) : ∃ a, x = .ok a ∧ f a = g b := by
  cases h with
  | error => cases hy
  | ok h =>
    cases hy
    exact ⟨_, rfl, h⟩

end Corresponds

end

end PolicyEngine
