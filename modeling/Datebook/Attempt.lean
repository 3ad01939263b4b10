/-!
# Computations that may come to nothing

A computation that may fail comes to a value or to an error, and one that may find nothing to a
value or to none. One that goes on with the value of another comes to something where both do, and
fails with the first failure. What follows is about no such computation in particular.

## Main results

* `Datebook.bind_eq_ok_iff`, `Datebook.bind_eq_error_iff`
* `Datebook.mapError_eq_ok_iff`, `Datebook.mapError_eq_error_iff`
-/

namespace Datebook

/-! ### A value or an error -/

section Except

variable {ε δ α β : Type} {x : Except ε α}

theorem ok_bind (a : α) (f : α → Except ε β) : (Except.ok a >>= f) = f a :=
  rfl

theorem error_bind (e : ε) (f : α → Except ε β) : (Except.error e >>= f) = .error e :=
  rfl

theorem bind_eq_ok_iff {f : α → Except ε β} {b : β} :
    (x >>= f) = .ok b ↔ ∃ a, x = .ok a ∧ f a = .ok b := by
  cases x <;> simp [bind, Except.bind]

/-- The first failure is that of the whole. -/
theorem bind_eq_error_iff {f : α → Except ε β} {e : ε} :
    (x >>= f) = .error e ↔ x = .error e ∨ ∃ a, x = .ok a ∧ f a = .error e := by
  cases x <;> simp [bind, Except.bind]

theorem toOption_bind (x : Except ε α) (f : α → Except ε β) :
    (x >>= f).toOption = x.toOption.bind fun a => (f a).toOption := by
  cases x <;> rfl

theorem mapError_eq_ok_iff {f : ε → δ} {a : α} : x.mapError f = .ok a ↔ x = .ok a := by
  cases x with
  | error e => exact ⟨nofun, nofun⟩
  | ok b =>
    exact ⟨fun h => congrArg Except.ok (Except.ok.inj h),
      fun h => congrArg Except.ok (Except.ok.inj h)⟩

theorem mapError_eq_error_iff {f : ε → δ} {d : δ} :
    x.mapError f = .error d ↔ ∃ e, x = .error e ∧ d = f e := by
  cases x with
  | error e =>
    refine ⟨fun h => ⟨e, rfl, (Except.error.inj h).symm⟩, ?_⟩
    rintro ⟨_, ⟨⟩, rfl⟩
    rfl
  | ok a =>
    constructor
    · rintro ⟨⟩
    · rintro ⟨_, ⟨⟩, _⟩

/-- What is left behind a value is settled with it. -/
theorem snd_eq_of_ok {a c : α} {b d : β}
    (h : (Except.ok (a, b) : Except ε (α × β)) = .ok (c, d)) : b = d :=
  (Prod.mk.inj (Except.ok.inj h)).2

end Except

/-! ### A value or none -/

section Option

variable {α β : Type} {x y : Option α}

/-- What goes on with a value that is there. -/
theorem bind_of_eq_some {a : α} (h : x = some a) (f : α → Option β) : (x >>= f) = f a := by
  rw [h]
  rfl

/-- Whatever finds what another finds, and goes on to what that goes on to, comes to the same. -/
theorem bind_eq_some_of_imp {f g : α → Option β} {b : β} (h : (x >>= f) = some b)
    (hxy : ∀ a, x = some a → y = some a) (hfg : ∀ a, f a = some b → g a = some b) :
    (y >>= g) = some b := by
  obtain ⟨a, hx, hf⟩ := Option.bind_eq_some_iff.mp h
  exact (bind_of_eq_some (hxy a hx) g).trans (hfg a hf)

end Option

end Datebook
